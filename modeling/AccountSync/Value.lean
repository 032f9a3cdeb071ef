import AccountSync.Text.Numeral
import AccountSync.Text.Quoted
import AccountSync.Decimal.Layout

/-!
# Values of directory replies

A server's reply holds values of no fixed type. `toInteger` reads one as an integer, `isTruthy`
tells the empty ones apart, `display` and `text` write one.
-/

namespace AccountSync

inductive Value where
  | null
  | flag (b : Bool)
  | integer (n : Int)
  | real (x : Decimal.Binary)
  | text (s : String)
  | bytes (data : List UInt8)
  | list (items : List Value)
  | map (entries : List (String × Value))
  deriving Inhabited

namespace Value

inductive Fault where
  | notNumeral (shown : String)
  | tooManyDigits (digits : Nat)
  | tooLongToWrite
  | infinite
  | undefined
  | notNumber (kind : String)
  | noMembers (kind : String)
  | notIterable (kind : String)
  | missingKey (key : String)
  deriving DecidableEq, Repr

def Fault.message : Fault → String
  | .notNumeral shown => "invalid literal for int() with base 10: " ++ shown
  | .tooManyDigits digits =>
    "Exceeds the limit (" ++ toString Text.maxDigits
      ++ " digits) for integer string conversion: value has " ++ toString digits
      ++ " digits; use sys.set_int_max_str_digits() to increase the limit"
  | .tooLongToWrite =>
    "Exceeds the limit (" ++ toString Text.maxDigits ++ " digits) for integer string conversion; "
      ++ "use sys.set_int_max_str_digits() to increase the limit"
  | .infinite => "cannot convert float infinity to integer"
  | .undefined => "cannot convert float NaN to integer"
  | .notNumber kind =>
    "int() argument must be a string, a bytes-like object or a real number, not '" ++ kind ++ "'"
  | .noMembers kind => "'" ++ kind ++ "' object has no attribute 'get'"
  | .notIterable kind => "'" ++ kind ++ "' object is not iterable"
  | .missingKey key => Text.quoted key

def kind : Value → String
  | .null => "NoneType"
  | .flag _ => "bool"
  | .integer _ => "int"
  | .real _ => "float"
  | .text _ => "str"
  | .bytes _ => "bytes"
  | .list _ => "list"
  | .map _ => "dict"

/-! ### Writing -/

mutual

/-- A value as it stands inside another one: texts in quotes. An integer is written whole, since no
reply holds one of more than `Text.maxDigits` digits. -/
def display : Value → String
  | .null => "None"
  | .flag b => if b then "True" else "False"
  | .integer n => toString n
  | .real x => x.text
  | .text s => Text.quoted s
  | .bytes data => Text.quotedBytes data
  | .list items => "[" ++ ", ".intercalate (displayItems items) ++ "]"
  | .map entries => "\x7b" ++ ", ".intercalate (displayEntries entries) ++ "\x7d"

def displayItems : List Value → List String
  | [] => []
  | v :: rest => v.display :: displayItems rest

def displayEntries : List (String × Value) → List String
  | [] => []
  | (key, v) :: rest => (Text.quoted key ++ ": " ++ v.display) :: displayEntries rest

end

/-- A value on its own: a text is written without quotes. -/
def asText : Value → String
  | .text s => s
  | v => v.display

/-! ### Reading -/

/-- All values but null, false, zero and the empty ones. -/
def isTruthy : Value → Bool
  | .null => false
  | .flag b => b
  | .integer n => n ≠ 0
  | .real x => !x.isZero
  | .text s => s ≠ ""
  | .bytes data => !data.isEmpty
  | .list items => !items.isEmpty
  | .map entries => !entries.isEmpty

def ofNumeral (shown : String) : Except Text.NumeralFault Int → Except Fault Int
  | .ok n => .ok n
  | .error .malformed => .error (.notNumeral shown)
  | .error (.tooLong digits) => .error (.tooManyDigits digits)

/-- How much of what is no numeral is shown. -/
def shownLength : Nat := 200

/-- The start of a quoted text, which may lack the quote at the end. -/
def cutQuoted (quoted : String) : String := .ofList (quoted.toList.take shownLength)

def shownText (s : String) : String := cutQuoted (Text.quoted s)

/-- Bytes are cut before they are quoted too, so that later ones have no say in the quotes. -/
def shownBytes (data : List UInt8) : String :=
  cutQuoted (Text.quotedBytes (data.take shownLength))

/-- Numbers lose their fraction; texts and bytes are read as numerals. -/
def toInteger : Value → Except Fault Int
  | .integer n => .ok n
  | .flag b => .ok (if b then 1 else 0)
  | .real (.infinite _) => .error .infinite
  | .real .undefined => .error .undefined
  | .real (.finite negative m q) =>
    let n : Int := Decimal.Binary.whole m q
    .ok (if negative then -n else n)
  | .text s => ofNumeral (shownText s) (Text.readInteger s)
  | .bytes data =>
    ofNumeral (shownBytes data) (Text.readAscii (data.map fun b => Char.ofNat b.toNat))
  | v => .error (.notNumber v.kind)

def writeInteger (n : Int) : Except Fault String :=
  match Text.writeInteger? n with
  | some numeral => .ok numeral
  | none => .error .tooLongToWrite

def member? (key : String) : Value → Except Fault (Option Value)
  | .map entries => .ok (entries.lookup key)
  | v => .error (.noMembers v.kind)

def items : Value → Except Fault (List Value)
  | .list items => .ok items
  | .map entries => .ok (entries.map fun entry => .text entry.1)
  | .text s => .ok (s.toList.map fun c => .text (.ofList [c]))
  | .bytes data => .ok (data.map fun b => .integer b.toNat)
  | v => .error (.notIterable v.kind)

end Value

end AccountSync
