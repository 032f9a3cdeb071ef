import AccountSync.Value

/-!
# Account control flags

The flags of an account are the bits of one integer, in two's complement of unbounded width. Bit 1
turns the account off; `setDisabled` changes no other bit.
-/

namespace AccountSync.Directory

def isDisabled (flags : Int) : Bool := flags / 2 % 2 = 1

def setDisabled (disabled : Bool) (flags : Int) : Int :=
  if isDisabled flags = disabled then flags else if disabled then flags + 2 else flags - 2

theorem isDisabled_setDisabled (disabled : Bool) (flags : Int) :
    isDisabled (setDisabled disabled flags) = disabled := by
  unfold setDisabled
  split
  · assumption
  · cases disabled <;> simp_all [isDisabled] <;> omega

/-- The first item of a list, zero for the empty one; anything else is its own. -/
def firstItem : Value → Value
  | .list [] => .integer 0
  | .list (item :: _) => item
  | item => item

/-- The flags that a server may send: a number, its numeral, or a list that starts with one. What is
missing or empty counts as no flags. -/
def readFlags (value : Value) : Except Value.Fault Int :=
  match firstItem value with
  | .null => .ok 0
  | .text "" => .ok 0
  | item => item.toInteger

end AccountSync.Directory
