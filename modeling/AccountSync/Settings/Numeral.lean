import AccountSync.Text.Numeral

/-!
# Integers of settings

An integer is plain if it is `0` or digits that start with another one, perhaps after a minus.
`tidy` takes away what settings may add to that: blanks around it, a plus, zeros in front with
underscores among them, single underscores between the digits, and a fraction of zeros. A minus may
also follow the zeros in front.
-/

namespace AccountSync.Settings.Numeral

/-! ### Plain integers -/

def isLeading (c : Char) : Bool := c.isDigit && c ≠ '0'

def plainNatural? : List Char → Option Nat
  | [] => none
  | ['0'] => some 0
  | c :: rest =>
    if isLeading c && rest.all Char.isDigit then some (Text.valueOf (c :: rest)) else none

def plain? : List Char → Option Int
  | '-' :: rest => (plainNatural? rest).map fun n => -(n : Int)
  | rest => (plainNatural? rest).map fun n => (n : Int)

/-- How many digits the number has that a text starts with. Zeros in front start no number. -/
def digitCount : List Char → Nat
  | '-' :: c :: rest => if isLeading c then (rest.takeWhile Char.isDigit).length + 1 else 0
  | c :: rest => if isLeading c then (rest.takeWhile Char.isDigit).length + 1 else 0
  | [] => 0

def isTooLong (text : List Char) : Bool := Text.maxDigits < digitCount text

/-! ### Looser forms -/

def trim (text : List Char) : List Char :=
  ((text.dropWhile Text.isBlank).reverse.dropWhile Text.isBlank).reverse

/-- What is left of `last :: rest` once zeros and underscores are dropped, where `last` is one of
them. The last of them stays before a point and at the end. -/
def dropZerosFrom (last : Char) : List Char → Option (List Char)
  | [] => some [last]
  | '.' :: rest => some (last :: '.' :: rest)
  | '0' :: rest => dropZerosFrom '0' rest
  | '_' :: rest => dropZerosFrom '_' rest
  | c :: rest => if c.isDigit || c = '-' then some (c :: rest) else none

def dropZeros : List Char → Option (List Char)
  | [] => none
  | '0' :: rest => dropZerosFrom '0' rest
  | c :: rest => if c.isDigit then some (c :: rest) else none

/-- Drops a point with nothing but zeros after it, at least one. -/
def dropFraction (text : List Char) : List Char :=
  match text.dropWhile (· ≠ '.') with
  | '.' :: '0' :: zeros => if zeros.all (· = '0') then text.takeWhile (· ≠ '.') else text
  | _ => text

def hasDoubled (c : Char) : List Char → Bool
  | a :: b :: rest => a = c && b = c || hasDoubled c (b :: rest)
  | _ => false

/-- Drops underscores if all of them stand singly inside. -/
def dropUnderscores (text : List Char) : List Char :=
  if text.head? = some '_' || text.getLast? = some '_' || hasDoubled '_' text then text
  else text.filter (· ≠ '_')

def tidySigned : List Char → Option (List Char)
  | '-' :: rest => (dropZeros rest).map ('-' :: ·)
  | '+' :: rest => dropZeros rest
  | rest => dropZeros rest

def tidy (text : List Char) : Option (List Char) :=
  (tidySigned (trim text)).map fun rest => dropUnderscores (dropFraction rest)

/-! ### Reading -/

/-- Only a text that itself starts with too long a number is refused as such; one that has such a
number in a looser form is malformed. -/
def read (text : String) : Except Text.NumeralFault Int :=
  if isTooLong text.toList then .error (.tooLong (digitCount text.toList))
  else
    match tidy text.toList with
    | none => .error .malformed
    | some tidied =>
      if isTooLong tidied then .error .malformed
      else match plain? tidied with
        | some n => .ok n
        | none => .error .malformed

end AccountSync.Settings.Numeral
