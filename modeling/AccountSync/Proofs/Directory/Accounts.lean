import Mathlib.Data.Int.Bitwise
import AccountSync.Directory.AccountControl
import AccountSync.Directory.Filter
import AccountSync.Proofs.Text.Numeral

/-!
# Accounts as the directory knows them

No two accounts have the same filter (`userFilter_inj`). The flags of an account change in one bit
only (`setDisabled_eq`), and read back as they were written (`Bounded.readFlags`).
-/

namespace AccountSync.Directory

/-! ### Filters -/

/-- The character with a two-digit code, for the five that are escaped. -/
def coded : Char → Char → Char
  | '5', 'c' => '\\'
  | '2', 'a' => '*'
  | '2', '8' => '('
  | '2', '9' => ')'
  | _, _ => '\x00'

def unescape : List Char → List Char
  | '\\' :: high :: low :: rest => coded high low :: unescape rest
  | c :: rest => c :: unescape rest
  | [] => []

theorem escapeChar_cases (c : Char) :
    (∃ high low, escapeChar c = ['\\', high, low] ∧ coded high low = c) ∨
      escapeChar c = [c] ∧ c ≠ '\\' := by
  unfold escapeChar
  by_cases backslash : c = '\\'
  · exact .inl ⟨'5', 'c', by simp [backslash], by simp [backslash, coded]⟩
  by_cases star : c = '*'
  · exact .inl ⟨'2', 'a', by simp [star], by simp [star, coded]⟩
  by_cases opening : c = '('
  · exact .inl ⟨'2', '8', by simp [opening], by simp [opening, coded]⟩
  by_cases closing : c = ')'
  · exact .inl ⟨'2', '9', by simp [closing], by simp [closing, coded]⟩
  by_cases nul : c = '\x00'
  · exact .inl ⟨'0', '0', by simp [nul], by simp [nul, coded]⟩
  · exact .inr ⟨by simp [backslash, star, opening, closing, nul], backslash⟩

theorem unescape_escape (name : List Char) : unescape (name.flatMap escapeChar) = name := by
  induction name with
  | nil => rfl
  | cons c rest ih =>
    rw [List.flatMap_cons]
    rcases escapeChar_cases c with ⟨high, low, written, means⟩ | ⟨written, plain⟩
    · rw [written, List.cons_append, List.cons_append, List.cons_append, List.nil_append, unescape,
        ih, means]
    · rw [written, List.singleton_append, unescape, ih]
      rintro _ _ _ rfl
      exact (plain rfl).elim

theorem escape_inj {name other : String} : escape name = escape other ↔ name = other := by
  constructor
  · intro same
    have chars := String.ofList_injective same
    rw [← String.toList_inj, ← unescape_escape name.toList, chars, unescape_escape]
  · rintro rfl
    rfl

theorem matching_inj {value other : String} : matching value = matching other ↔ value = other := by
  constructor
  · intro same
    unfold matching at same
    exact String.append_right_inj _ |>.mp (String.append_left_inj _ |>.mp same)
  · rintro rfl
    rfl

theorem userFilter_inj {name other : String} : userFilter name = userFilter other ↔ name = other :=
  matching_inj.trans escape_inj

/-! ### Flags -/

/-- The last two bits of an integer, and the rest. -/
theorem exists_bits (flags : Int) : ∃ first second rest, flags = Int.bit first (Int.bit second rest) :=
  ⟨flags.bodd, flags.div2.bodd, flags.div2.div2, by rw [Int.bit_decomp, Int.bit_decomp]⟩

theorem setDisabled_true (flags : Int) : setDisabled true flags = flags.lor 2 := by
  obtain ⟨first, second, rest, rfl⟩ := exists_bits flags
  have two : (2 : Int) = Int.bit false (Int.bit true 0) := rfl
  have same : rest.lor 0 = rest := by cases rest <;> simp [Int.lor, Nat.ldiff]
  rw [two, Int.lor_bit, Int.lor_bit, same]
  cases first <;> cases second <;> simp [setDisabled, isDisabled, Int.bit_val] <;> omega

theorem setDisabled_false (flags : Int) : setDisabled false flags = flags.land (Int.lnot 2) := by
  obtain ⟨first, second, rest, rfl⟩ := exists_bits flags
  have mask : Int.lnot 2 = Int.bit true (Int.bit false (Int.lnot 0)) := rfl
  have same : rest.land (Int.lnot 0) = rest := by
    change rest.land (Int.negSucc 0) = rest
    cases rest <;> simp [Int.land, Nat.ldiff]
  rw [mask, Int.land_bit, Int.land_bit, same]
  cases first <;> cases second <;> simp [setDisabled, isDisabled, Int.bit_val] <;> omega

/-- Flags of an account that is to be on or off, bit by bit. -/
def toggled (enabled : Bool) (flags : Int) : Int :=
  if enabled then flags.land (Int.lnot 2) else flags.lor 2

theorem setDisabled_eq (enabled : Bool) (flags : Int) :
    setDisabled (!enabled) flags = toggled enabled flags := by
  cases enabled with
  | false => exact setDisabled_true flags
  | true => exact setDisabled_false flags

/-! ### Flags as numerals -/

/-- The least number of so many digits. -/
def least (digits : Nat) : Nat := Nat.pow 10 (digits - 1)

theorem four_dvd_least {digits : Nat} (many : 2 < digits) : 4 ∣ least digits := by
  have hundred : 10 ^ 2 ∣ 10 ^ (digits - 1) := Nat.pow_dvd_pow 10 (by omega)
  exact Nat.dvd_trans (by decide) hundred

theorem least_lt {digits : Nat} (positive : 0 < digits) : least digits < Nat.pow 10 digits :=
  Nat.pow_lt_pow_right (by decide) (by omega)

theorem lt_least {digits n : Nat} (many : 1 < digits) (short : (Nat.toDigits 10 n).length < digits) :
    n < least digits :=
  (Text.length_toDigits_le (by omega)).mp (Nat.le_sub_one_of_lt short)

/-- A change stays within its four integers, and so within a bound that four divides. -/
theorem setDisabled_within {flags : Int} {bound : Nat} (quarters : 4 ∣ bound) (low : -bound ≤ flags)
    (high : flags < bound) (disabled : Bool) :
    -bound ≤ setDisabled disabled flags ∧ setDisabled disabled flags < bound := by
  obtain ⟨quarter, width⟩ := quarters
  unfold setDisabled isDisabled
  constructor
  · cases disabled <;> simp <;> split <;> omega
  · cases disabled <;> simp <;> split <;> omega

/-- A numeral reads the same on its own and at the head of a list. -/
theorem readFlags_numeral {value : Value} {flags : Int}
    (short : flags.natAbs < Nat.pow 10 Text.maxDigits)
    (head : firstItem value = .text (toString flags)) : readFlags value = .ok flags := by
  unfold readFlags
  rw [head]
  split
  · next same => cases same
  · next same => exact absurd (Value.text.inj same) (Text.toString_ne_empty flags)
  · rw [Value.toInteger, Text.readInteger_toString short]
    rfl

/-- Flags that can be written, and still can be however they are changed. -/
structure Bounded (flags : Int) : Prop where
  low : -least Text.maxDigits ≤ flags
  high : flags < least Text.maxDigits

namespace Bounded

variable {flags : Int}

theorem setDisabled (bounded : Bounded flags) (disabled : Bool) :
    Bounded (setDisabled disabled flags) := by
  obtain ⟨low, high⟩ := setDisabled_within (four_dvd_least (show 2 < Text.maxDigits by decide))
    bounded.low bounded.high disabled
  exact ⟨low, high⟩

theorem toggled (bounded : Bounded flags) (enabled : Bool) : Bounded (toggled enabled flags) :=
  setDisabled_eq enabled flags ▸ bounded.setDisabled (!enabled)

theorem of_digits (short : (Nat.toDigits 10 flags.natAbs).length < Text.maxDigits) :
    Bounded flags := by
  have small := lt_least (show 1 < Text.maxDigits by decide) short
  constructor <;> omega

theorem short (bounded : Bounded flags) : flags.natAbs < Nat.pow 10 Text.maxDigits := by
  have wider := least_lt (show 0 < Text.maxDigits by decide)
  have within : flags.natAbs ≤ least Text.maxDigits := by
    obtain ⟨low, high⟩ := bounded
    omega
  exact Nat.lt_of_le_of_lt within wider

theorem writeInteger (bounded : Bounded flags) :
    Value.writeInteger flags = .ok (toString flags) := by
  unfold Value.writeInteger Text.writeInteger?
  split
  · next numeral written =>
    split at written
    · cases written
      rfl
    · cases written
  · next written =>
    split at written
    · cases written
    · next long => exact absurd bounded.short long

theorem readFlags (bounded : Bounded flags) :
    readFlags (.list [.text (toString flags)]) = .ok flags :=
  readFlags_numeral bounded.short rfl

end Bounded

end AccountSync.Directory
