import Mathlib.Data.List.TakeWhile
import AccountSync.Text.Numeral

/-!
# Numerals survive reading

The decimal form of an integer reads as the integer, if it has no more digits than numerals may have
(`readInteger_toString`).
-/

namespace AccountSync.Text

def Digits (text : List Char) : Prop := ∀ c ∈ text, c.isDigit

theorem digits?_eq {text : List Char} (filled : text ≠ []) (digits : Digits text) :
    digits? text = some text := by
  fun_induction digits? text with
  | case1 => exact (filled rfl).elim
  | case2 c => rfl
  | case3 c other => exact (other (digits c (by simp))).elim
  | case4 c rest digit ih =>
    have underscore := digits '_' (by simp)
    exact absurd underscore (by decide)
  | case5 c rest other => exact (other (digits c (by simp))).elim
  | case6 c rest alone _ digit ih =>
    rw [ih (fun empty => alone empty) fun d member => digits d (List.mem_cons_of_mem _ member)]
    rfl
  | case7 c rest _ _ other => exact (other (digits c (by simp))).elim

theorem valueOf_eq (digits : List Char) : valueOf digits = Nat.ofDigitChars 10 digits 0 :=
  Nat.ofDigitChars_eq_foldl.symm

theorem digits_toDigits (n : Nat) : Digits (Nat.toDigits 10 n) := fun _ member =>
  Nat.isDigit_of_mem_toDigits (by decide) (by decide) member

theorem length_toDigits_le {n k : Nat} (positive : 0 < k) :
    (Nat.toDigits 10 n).length ≤ k ↔ n < Nat.pow 10 k :=
  Nat.length_toDigits_le_iff (by decide) positive

theorem readNatural_toDigits {n : Nat} (short : n < Nat.pow 10 maxDigits) :
    readNatural (Nat.toDigits 10 n) = .ok n := by
  have numeral : ∀ c ∈ Nat.toDigits 10 n, isNumeralChar c := by
    intro c member
    simp [isNumeralChar, digits_toDigits n c member]
  have front := List.takeWhile_eq_self_iff.mpr numeral
  have back := List.dropWhile_eq_nil_iff.mpr numeral
  have fits : ¬ maxDigits < (Nat.toDigits 10 n).length :=
    Nat.not_lt.mpr ((length_toDigits_le (by decide)).mpr short)
  rw [readNatural, front, back, digits?_eq Nat.toDigits_ne_nil (digits_toDigits n)]
  change (if maxDigits < _ then _ else _) = _
  rw [if_neg fits, valueOf_eq, Nat.ofDigitChars_ten_toDigits]
  rfl

theorem digit_bounds {c : Char} (digit : c.isDigit) : 48 ≤ c.toNat ∧ c.toNat ≤ 57 :=
  Char.isDigit_iff_toNat.mp digit

theorem map_toAscii {text : List Char} (ascii : ∀ c ∈ text, c.toNat < 127) :
    text.map toAscii = text := by
  have same : ∀ c ∈ text, toAscii c = id c := fun c member => if_pos (ascii c member)
  rw [List.map_congr_left same, List.map_id]

theorem isAsciiBlank_high {c : Char} (high : 33 ≤ c.toNat) : isAsciiBlank c = false := by
  have space : c ≠ ' ' := by
    rintro rfl
    exact absurd high (by decide)
  have above : ¬ c.toNat ≤ 13 := by omega
  simp [isAsciiBlank, space, above]

theorem readAscii_high {c : Char} (high : 33 ≤ c.toNat) (rest : List Char) :
    readAscii (c :: rest) = readSigned (c :: rest) := by
  rw [readAscii, List.dropWhile_cons, isAsciiBlank_high high]
  rfl

theorem toList_toString (n : Int) :
    (toString n).toList = (if n < 0 then ['-'] else []) ++ Nat.toDigits 10 n.natAbs := by
  rw [Int.toString_eq_repr, Int.repr_eq_if]
  by_cases negative : n < 0
  · have same : (-n).toNat = n.natAbs := by omega
    rw [if_neg (by omega), if_pos negative, String.toList_append, same]
    simp
  · have same : n.toNat = n.natAbs := by omega
    rw [if_pos (by omega), if_neg negative, same]
    simp

theorem toString_ne_empty (n : Int) : toString n ≠ "" := by
  intro empty
  have chars := congrArg String.toList empty
  rw [toList_toString] at chars
  exact Nat.toDigits_ne_nil (List.append_eq_nil_iff.mp chars).2

theorem readSigned_unsigned {c : Char} (high : 48 ≤ c.toNat) (rest : List Char) :
    readSigned (c :: rest) = (readNatural (c :: rest)).map fun n => (n : Int) := by
  rw [readSigned]
  · intro _ same
    cases same
    exact absurd high (by decide)
  · intro _ same
    cases same
    exact absurd high (by decide)

theorem readInteger_toString {n : Int} (short : n.natAbs < Nat.pow 10 maxDigits) :
    readInteger (toString n) = .ok n := by
  have bounds : ∀ c ∈ Nat.toDigits 10 n.natAbs, 48 ≤ c.toNat ∧ c.toNat ≤ 57 :=
    fun c member => digit_bounds (digits_toDigits _ c member)
  have read := readNatural_toDigits short
  rw [readInteger, toList_toString]
  by_cases negative : n < 0
  · have ascii : ∀ c ∈ '-' :: Nat.toDigits 10 n.natAbs, c.toNat < 127 := by
      intro c member
      rcases List.mem_cons.mp member with rfl | digit
      · decide
      · have := (bounds c digit).2
        omega
    have value : -(n.natAbs : Int) = n := by omega
    rw [if_pos negative, List.singleton_append, map_toAscii ascii, readAscii_high (by decide)]
    rw [readSigned, read]
    exact congrArg Except.ok value
  · have ascii : ∀ c ∈ Nat.toDigits 10 n.natAbs, c.toNat < 127 := by
      intro c member
      have := (bounds c member).2
      omega
    have value : (n.natAbs : Int) = n := by omega
    rw [if_neg negative, List.nil_append, map_toAscii ascii]
    obtain ⟨c, rest, digits⟩ :=
      List.exists_cons_of_ne_nil (Nat.toDigits_ne_nil (n := n.natAbs) (b := 10))
    have low := (bounds c (by simp [digits])).1
    rw [digits] at read
    rw [digits, readAscii_high (by omega), readSigned_unsigned low, read]
    exact congrArg Except.ok value

end AccountSync.Text
