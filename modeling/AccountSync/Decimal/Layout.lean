import AccountSync.Decimal.Shortest

/-!
# How decimals are laid out

A `Layout` holds the decisions of a format: up to where it writes numbers positionally, and how it
writes an exponent. `Binary.text` writes the shortest decimal of a number in the default layout.
-/

namespace AccountSync.Decimal

structure Layout where
  /-- Leading digits of these powers of ten and no others are written positionally. -/
  leastPower : Int
  greatestPower : Int
  exponentMark : String
  exponentDigits : Nat
  infinity : String
  undefined : String

/-- Positional from 0.0001 to below 10^16, a fraction always, exponents signed and of two digits. -/
def Layout.default : Layout where
  leastPower := -4
  greatestPower := 15
  exponentMark := "e"
  exponentDigits := 2
  infinity := "inf"
  undefined := "nan"

def padLeft (width : Nat) (fill : Char) (text : List Char) : List Char :=
  List.replicate (width - text.length) fill ++ text

def dropTrailingZeros (digits : List Char) : List Char :=
  (digits.reverse.dropWhile (· = '0')).reverse

/-- `0.d₁d₂d₃… * 10 ^ point`, positionally. -/
def positional (digits : List Char) (point : Int) : List Char :=
  if point ≤ 0 then '0' :: '.' :: List.replicate (-point).toNat '0' ++ digits
  else
    let n := point.toNat
    let fraction := digits.drop n
    digits.take n ++ List.replicate (n - digits.length) '0' ++
      '.' :: (if fraction.isEmpty then ['0'] else fraction)

def exponential (layout : Layout) (digits : List Char) (power : Int) : List Char :=
  let mantissa := match digits with
    | [] => []
    | [d] => [d]
    | d :: rest => d :: '.' :: rest
  let sign := if power < 0 then '-' else '+'
  let exponent := padLeft layout.exponentDigits '0' (Nat.toDigits 10 power.natAbs)
  mantissa ++ layout.exponentMark.toList ++ sign :: exponent

def Layout.magnitude (layout : Layout) (m : Nat) (q : Int) : List Char :=
  if m = 0 then ['0', '.', '0']
  else
    let decimal := shortest m q
    let written := Nat.toDigits 10 decimal.digits
    let power := decimal.scale + written.length - 1
    let digits := dropTrailingZeros written
    if layout.leastPower ≤ power && power ≤ layout.greatestPower then
      positional digits (power + 1)
    else exponential layout digits power

def Layout.write (layout : Layout) : Binary → String
  | .finite negative m q => .ofList ((if negative then ['-'] else []) ++ layout.magnitude m q)
  | .infinite negative => (if negative then "-" else "") ++ layout.infinity
  | .undefined => layout.undefined

def Binary.text (x : Binary) : String := Layout.default.write x

end AccountSync.Decimal
