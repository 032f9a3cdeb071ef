import AccountSync.Decimal.Layout

/-!
# Times of log records

A time is written as date, `T`, time of day with six decimals, and `Z` for universal time.
-/

namespace AccountSync.Log

/-- Year, month and day of a day counted from 1 January 1970, in the Gregorian calendar. Years are
taken to begin in March, so that the leap day comes last. -/
def dateOfDay (day : Nat) : Nat × Nat × Nat :=
  let shifted := day + 719468
  let era := shifted / 146097
  let dayOfEra := shifted % 146097
  let yearOfEra := (dayOfEra - dayOfEra / 1460 + dayOfEra / 36524 - dayOfEra / 146096) / 365
  let dayOfYear := dayOfEra - (365 * yearOfEra + yearOfEra / 4 - yearOfEra / 100)
  let march := (5 * dayOfYear + 2) / 153
  let month := if march < 10 then march + 3 else march - 9
  let year := yearOfEra + era * 400
  (if month ≤ 2 then year + 1 else year, month, dayOfYear - (153 * march + 2) / 5 + 1)

example : dateOfDay 0 = (1970, 1, 1) ∧ dateOfDay 19782 = (2024, 2, 29) := by decide

def padded (width n : Nat) : String := .ofList (Decimal.padLeft width '0' (Nat.toDigits 10 n))

def writeTime (microseconds : Nat) : String :=
  let seconds := microseconds / 1000000
  let (year, month, day) := dateOfDay (seconds / 86400)
  padded 4 year ++ "-" ++ padded 2 month ++ "-" ++ padded 2 day ++ "T" ++
    padded 2 (seconds / 3600 % 24) ++ ":" ++ padded 2 (seconds / 60 % 60) ++ ":" ++
    padded 2 (seconds % 60) ++ "." ++ padded 6 (microseconds % 1000000) ++ "Z"

end AccountSync.Log
