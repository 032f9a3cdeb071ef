/-!
# Binary64 numbers

A finite number is a sign, a significand and a power of two. `ofBits` reads the interchange format,
`whole` drops the fraction of a magnitude.
-/

namespace AccountSync.Decimal

inductive Binary where
  | finite (negative : Bool) (significand : Nat) (exponent : Int)
  | infinite (negative : Bool)
  | undefined
  deriving DecidableEq, Repr

namespace Binary

/-- The significand of a normal number lies between this and its double. -/
def leastNormal : Nat := Nat.pow 2 52

def leastExponent : Int := -1074

def ofBits (bits : UInt64) : Binary :=
  let negative := bits >>> 63 == 1
  let biased := (bits >>> 52).toNat % 2048
  let fraction := bits.toNat % leastNormal
  if biased = 2047 then if fraction = 0 then .infinite negative else .undefined
  else if biased = 0 then .finite negative fraction leastExponent
  else .finite negative (leastNormal + fraction) (leastExponent + (biased - 1 : Nat))

def isZero : Binary → Bool
  | .finite _ m _ => m = 0
  | _ => false

def whole (m : Nat) (q : Int) : Nat :=
  if 0 ≤ q then m * Nat.pow 2 q.toNat else m / Nat.pow 2 (-q).toNat

end Binary

end AccountSync.Decimal
