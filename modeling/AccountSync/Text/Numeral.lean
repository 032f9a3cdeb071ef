import AccountSync.Text.Blank
import AccountSync.Text.Digit

/-!
# Integers in decimal

An integer is written as blanks, an optional sign, decimal digits with single underscores between
them, and blanks. `readInteger` refuses numerals of more than `maxDigits` digits, leading zeros
included, before it looks at what follows the digits.
-/

namespace AccountSync.Text

/-- The most digits that a numeral may have when it is read, or written by `writeInteger?`. -/
def maxDigits : Nat := 4300

inductive NumeralFault where
  | malformed
  | tooLong (digits : Nat)
  deriving DecidableEq, Repr

/-- ASCII stays; other blanks become spaces and other decimal digits ASCII ones; what is neither
becomes a character that no numeral holds. -/
def toAscii (c : Char) : Char :=
  if c.toNat < 127 then c
  else if isBlank c then ' '
  else match digitValue? c with
    | some d => Char.ofNat (48 + d)
    | none => '?'

def isNumeralChar (c : Char) : Bool := c.isDigit || c = '_'

/-- The digits of a run in which underscores stand singly between digits. -/
def digits? : List Char → Option (List Char)
  | [] => none
  | [c] => if c.isDigit then some [c] else none
  | c :: '_' :: rest => if c.isDigit then (digits? rest).map (c :: ·) else none
  | c :: rest => if c.isDigit then (digits? rest).map (c :: ·) else none

def valueOf (digits : List Char) : Nat :=
  digits.foldl (fun n c => 10 * n + (c.toNat - 48)) 0

def readNatural (text : List Char) : Except NumeralFault Nat :=
  match digits? (text.takeWhile isNumeralChar) with
  | none => .error .malformed
  | some digits =>
    if maxDigits < digits.length then .error (.tooLong digits.length)
    else if (text.dropWhile isNumeralChar).all isAsciiBlank then .ok (valueOf digits)
    else .error .malformed

def readSigned (text : List Char) : Except NumeralFault Int :=
  match text with
  | '-' :: rest => (readNatural rest).map fun n => -(n : Int)
  | '+' :: rest => (readNatural rest).map fun n => (n : Int)
  | rest => (readNatural rest).map fun n => (n : Int)

/-- Reads a numeral whose characters are ASCII or have been made so. -/
def readAscii (text : List Char) : Except NumeralFault Int :=
  readSigned (text.dropWhile isAsciiBlank)

def readInteger (text : String) : Except NumeralFault Int := readAscii (text.toList.map toAscii)

/-- The decimal form of an integer, unless it has more than `maxDigits` digits. -/
def writeInteger? (n : Int) : Option String :=
  if n.natAbs < Nat.pow 10 maxDigits then some (toString n) else none

end AccountSync.Text
