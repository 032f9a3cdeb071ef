import AccountSync.Decimal.Binary

/-!
# The shortest decimal of a binary number

`shortest` finds the fewest digits that read back as the number, and of those the nearest. It tests
the two neighbours of the number on each decimal grid, from one digit up, in exact arithmetic.
-/

namespace AccountSync.Decimal

/-- `digits * 10 ^ scale`. -/
structure Scaled where
  digits : Nat
  scale : Int
  deriving DecidableEq, Repr

/-- A nonnegative number with the bounds of the numbers that round to it, over a common
denominator. The bounds themselves round to it if `closed`. -/
structure Interval where
  low : Nat
  value : Nat
  high : Nat
  denominator : Nat
  closed : Bool

def power (base : Nat) (exponent : Int) : Nat := Nat.pow base exponent.toNat

/-- The interval of `m * 2 ^ q`. Below the least significand of a binade the gap is half as wide. -/
def Interval.of (m : Nat) (q : Int) : Interval :=
  let unit := power 2 (q - 2)
  let below := if m = Binary.leastNormal && Binary.leastExponent < q then 1 else 2
  { low := (4 * m - below) * unit, value := 4 * m * unit, high := (4 * m + 2) * unit
    denominator := power 2 (2 - q), closed := m % 2 = 0 }

/-- Whether `d * 10 ^ s` rounds to the number. -/
def Interval.holds (i : Interval) (d : Nat) (s : Int) : Bool :=
  let x := d * power 10 s * i.denominator
  let unit := power 10 (-s)
  if i.closed then i.low * unit ≤ x && x ≤ i.high * unit
  else i.low * unit < x && x < i.high * unit

/-- The neighbour of the number on the grid of step `10 ^ s` that rounds to it, the nearer if both
do. A tie goes to the even one. -/
def Interval.onGrid? (i : Interval) (s : Int) : Option Nat :=
  let numerator := i.value * power 10 (-s)
  let unit := i.denominator * power 10 s
  let d := numerator / unit
  let rest := numerator % unit
  match i.holds d s, i.holds (d + 1) s with
  | true, true =>
    if 2 * rest < unit then some d
    else if unit < 2 * rest then some (d + 1)
    else some (if d % 2 = 0 then d else d + 1)
  | true, false => some d
  | false, true => some (d + 1)
  | false, false => none

def Interval.magnitude (i : Interval) : Int :=
  let guess : Int :=
    ((Nat.toDigits 10 i.value).length : Int) - ((Nat.toDigits 10 i.denominator).length : Int)
  if i.denominator * power 10 guess ≤ i.value * power 10 (-guess) then guess else guess - 1

/-- Seventeen digits tell any two numbers apart. -/
def shortest (m : Nat) (q : Int) : Scaled :=
  let i := Interval.of m q
  let top := i.magnitude
  let grids := (List.range 17).map fun (n : Nat) => top - n
  match grids.findSome? fun s => (i.onGrid? s).map fun d => (⟨d, s⟩ : Scaled) with
  | some decimal => decimal
  | none => ⟨m, q⟩

end AccountSync.Decimal
