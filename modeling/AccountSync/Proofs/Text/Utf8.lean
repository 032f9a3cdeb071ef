import AccountSync.Text.Utf8

/-!
# UTF-8 both ways

`decode` undoes `encode` and accepts nothing else (`decode_eq_ok_iff`), and `encode` writes what the
core library writes (`encode_eq_toUTF8`).
-/

namespace AccountSync.Utf8

/-! ### Bytes as numbers -/

theorem within_iff {low high b : UInt8} :
    within low high b = true ↔ low.toNat ≤ b.toNat ∧ b.toNat ≤ high.toNat := by
  simp [within, UInt8.le_iff_toNat_le]

theorem isTail_iff {b : UInt8} : isTail b = true ↔ 0x80 ≤ b.toNat ∧ b.toNat ≤ 0xBF := within_iff

theorem lead_eq (b : UInt8) :
    lead b =
      if b.toNat < 0x80 then .ascii
      else if b.toNat < 0xC2 then .invalid
      else if b.toNat < 0xE0 then .two
      else if b.toNat = 0xE0 then .three 0xA0 0xBF
      else if b.toNat = 0xED then .three 0x80 0x9F
      else if b.toNat < 0xF0 then .three 0x80 0xBF
      else if b.toNat = 0xF0 then .four 0x90 0xBF
      else if b.toNat < 0xF4 then .four 0x80 0xBF
      else if b.toNat = 0xF4 then .four 0x80 0x8F
      else .invalid := by
  simp only [lead, UInt8.lt_iff_toNat_lt, ← UInt8.toNat_inj]
  rfl

theorem lead_ascii_iff {b : UInt8} : lead b = .ascii ↔ b.toNat < 0x80 := by
  rw [lead_eq]
  grind

theorem lead_two_iff {b : UInt8} : lead b = .two ↔ 0xC2 ≤ b.toNat ∧ b.toNat < 0xE0 := by
  rw [lead_eq]
  grind

theorem lead_three_iff {b low high : UInt8} :
    lead b = .three low high ↔ 0xE0 ≤ b.toNat ∧ b.toNat < 0xF0 ∧
      low = (if b.toNat = 0xE0 then 0xA0 else 0x80) ∧
      high = (if b.toNat = 0xED then 0x9F else 0xBF) := by
  rw [lead_eq]
  grind

theorem lead_four_iff {b low high : UInt8} :
    lead b = .four low high ↔ 0xF0 ≤ b.toNat ∧ b.toNat ≤ 0xF4 ∧
      low = (if b.toNat = 0xF0 then 0x90 else 0x80) ∧
      high = (if b.toNat = 0xF4 then 0x8F else 0xBF) := by
  rw [lead_eq]
  grind

/-- The first two bytes of three: no overlong form and no surrogate starts so. -/
theorem start_three_iff {a b : UInt8} :
    (∃ low high, lead a = .three low high ∧ within low high b = true) ↔
      (0xE0 ≤ a.toNat ∧ a.toNat < 0xF0) ∧ (0x80 ≤ b.toNat ∧ b.toNat ≤ 0xBF) ∧
      (a.toNat = 0xE0 → 0xA0 ≤ b.toNat) ∧ (a.toNat = 0xED → b.toNat ≤ 0x9F) := by
  simp only [lead_three_iff, within_iff]
  constructor
  · rintro ⟨low, high, ⟨least, most, rfl, rfl⟩, second⟩
    split at second <;> split at second <;> simp at second <;> omega
  · intro bounds
    refine ⟨_, _, ⟨bounds.1.1, bounds.1.2, rfl, rfl⟩, ?_⟩
    split <;> split <;> simp <;> omega

/-- The first two bytes of four: no overlong form and nothing past the last code point starts so. -/
theorem start_four_iff {a b : UInt8} :
    (∃ low high, lead a = .four low high ∧ within low high b = true) ↔
      (0xF0 ≤ a.toNat ∧ a.toNat ≤ 0xF4) ∧ (0x80 ≤ b.toNat ∧ b.toNat ≤ 0xBF) ∧
      (a.toNat = 0xF0 → 0x90 ≤ b.toNat) ∧ (a.toNat = 0xF4 → b.toNat ≤ 0x8F) := by
  simp only [lead_four_iff, within_iff]
  constructor
  · rintro ⟨low, high, ⟨least, most, rfl, rfl⟩, second⟩
    split at second <;> split at second <;> simp at second <;> omega
  · intro bounds
    refine ⟨_, _, ⟨bounds.1.1, bounds.1.2, rfl, rfl⟩, ?_⟩
    split <;> split <;> simp <;> omega

theorem toNat_ofNat {n : Nat} (small : n < 256) : (UInt8.ofNat n).toNat = n := by
  simp [Nat.mod_eq_of_lt small]

/-- A code point that is no surrogate. -/
def IsScalar (n : Nat) : Prop := n < 0xD800 ∨ (0xDFFF < n ∧ n < 0x110000)

theorem toNat_isScalar (c : Char) : IsScalar c.toNat := c.valid

theorem toNat_char {n : Nat} (scalar : IsScalar n) : (Char.ofNat n).toNat = n := by
  have valid : n.isValidChar := scalar
  rw [Char.ofNat, dif_pos valid]
  rfl

/-! ### One character -/

inductive Spells : List UInt8 → Char → Prop where
  | one {a : UInt8} (first : lead a = .ascii) : Spells [a] (.ofNat a.toNat)
  | two {a b : UInt8} (first : lead a = .two) (last : isTail b = true) :
      Spells [a, b] (char2 a b)
  | three {a b c low high : UInt8} (first : lead a = .three low high)
      (second : within low high b = true) (last : isTail c = true) : Spells [a, b, c] (char3 a b c)
  | four {a b c d low high : UInt8} (first : lead a = .four low high)
      (second : within low high b = true) (third : isTail c = true) (last : isTail d = true) :
      Spells [a, b, c, d] (char4 a b c d)

theorem spells_encodeChar (c : Char) : Spells (encodeChar c) c := by
  have scalar := toNat_isScalar c
  unfold IsScalar at scalar
  unfold encodeChar
  dsimp only
  split
  · have a := toNat_ofNat (n := c.toNat) (by omega)
    have spelled := Spells.one (lead_ascii_iff.mpr (by rwa [a]))
    rwa [a, Char.ofNat_toNat] at spelled
  split
  · have a := toNat_ofNat (n := 0xC0 + c.toNat / 64) (by omega)
    have b := toNat_ofNat (n := 0x80 + c.toNat % 64) (by omega)
    have spelled := Spells.two (lead_two_iff.mpr (by rw [a]; omega))
      (isTail_iff.mpr (by rw [b]; omega))
    rwa [char2, a, b, show (0xC0 + c.toNat / 64) % 32 * 64 + (0x80 + c.toNat % 64) % 64 = c.toNat
      by omega, Char.ofNat_toNat] at spelled
  split
  · have a := toNat_ofNat (n := 0xE0 + c.toNat / 4096) (by omega)
    have b := toNat_ofNat (n := 0x80 + c.toNat / 64 % 64) (by omega)
    have d := toNat_ofNat (n := 0x80 + c.toNat % 64) (by omega)
    obtain ⟨low, high, first, second⟩ := (start_three_iff (a := .ofNat (0xE0 + c.toNat / 4096))
      (b := .ofNat (0x80 + c.toNat / 64 % 64))).mpr (by rw [a, b]; omega)
    have spelled := Spells.three first second (isTail_iff.mpr (by rw [d]; omega))
    rwa [char3, a, b, d, show (0xE0 + c.toNat / 4096) % 16 * 4096 +
      (0x80 + c.toNat / 64 % 64) % 64 * 64 + (0x80 + c.toNat % 64) % 64 = c.toNat by omega,
      Char.ofNat_toNat] at spelled
  · have a := toNat_ofNat (n := 0xF0 + c.toNat / 262144) (by omega)
    have b := toNat_ofNat (n := 0x80 + c.toNat / 4096 % 64) (by omega)
    have d := toNat_ofNat (n := 0x80 + c.toNat / 64 % 64) (by omega)
    have e := toNat_ofNat (n := 0x80 + c.toNat % 64) (by omega)
    obtain ⟨low, high, first, second⟩ := (start_four_iff (a := .ofNat (0xF0 + c.toNat / 262144))
      (b := .ofNat (0x80 + c.toNat / 4096 % 64))).mpr (by rw [a, b]; omega)
    have spelled := Spells.four first second (isTail_iff.mpr (by rw [d]; omega))
      (isTail_iff.mpr (by rw [e]; omega))
    rwa [char4, a, b, d, e, show (0xF0 + c.toNat / 262144) % 8 * 262144 +
      (0x80 + c.toNat / 4096 % 64) % 64 * 4096 + (0x80 + c.toNat / 64 % 64) % 64 * 64 +
      (0x80 + c.toNat % 64) % 64 = c.toNat by omega, Char.ofNat_toNat] at spelled

theorem encodeChar_spelled {bytes : List UInt8} {c : Char} (spelled : Spells bytes c) :
    encodeChar c = bytes := by
  have byte : ∀ {n : Nat} {b : UInt8}, n = b.toNat → UInt8.ofNat n = b := by
    rintro n b rfl
    exact UInt8.ofNat_toNat
  cases spelled with
  | @one a first =>
    rw [lead_ascii_iff] at first
    have value := toNat_char (n := a.toNat) (by unfold IsScalar; omega)
    simp only [encodeChar, value]
    rw [if_pos first, byte rfl]
  | @two a b first last =>
    rw [lead_two_iff] at first
    rw [isTail_iff] at last
    have value := toNat_char (n := a.toNat % 32 * 64 + b.toNat % 64) (by unfold IsScalar; omega)
    simp only [encodeChar, char2, value]
    rw [if_neg (by omega), if_pos (by omega), List.cons.injEq, List.cons.injEq]
    exact ⟨byte (by omega), byte (by omega), rfl⟩
  | @three a b c low high first second last =>
    have bounds := start_three_iff.mp ⟨low, high, first, second⟩
    rw [isTail_iff] at last
    have value := toNat_char (n := a.toNat % 16 * 4096 + b.toNat % 64 * 64 + c.toNat % 64)
      (by unfold IsScalar; omega)
    simp only [encodeChar, char3, value]
    rw [if_neg (by omega), if_neg (by omega), if_pos (by omega), List.cons.injEq, List.cons.injEq,
      List.cons.injEq]
    exact ⟨byte (by omega), byte (by omega), byte (by omega), rfl⟩
  | @four a b c d low high first second third last =>
    have bounds := start_four_iff.mp ⟨low, high, first, second⟩
    rw [isTail_iff] at third last
    have value := toNat_char
      (n := a.toNat % 8 * 262144 + b.toNat % 64 * 4096 + c.toNat % 64 * 64 + d.toNat % 64)
      (by unfold IsScalar; omega)
    simp only [encodeChar, char4, value]
    rw [if_neg (by omega), if_neg (by omega), if_neg (by omega), List.cons.injEq, List.cons.injEq,
      List.cons.injEq, List.cons.injEq]
    exact ⟨byte (by omega), byte (by omega), byte (by omega), byte (by omega), rfl⟩

/-- Bytes below 0x80 stand for themselves only. -/
theorem toNat_of_mem_encodeChar {c : Char} {b : UInt8} (member : b ∈ encodeChar c)
    (low : b.toNat < 0x80) : c.toNat = b.toNat := by
  have scalar := toNat_isScalar c
  unfold IsScalar at scalar
  have other : ∀ {n : Nat}, 0x80 ≤ n → n < 256 → b ≠ .ofNat n := by
    rintro n high small rfl
    rw [toNat_ofNat small] at low
    omega
  unfold encodeChar at member
  dsimp only at member
  split at member
  · rw [List.mem_singleton.mp member, toNat_ofNat (by omega)]
  -- all bytes of the longer forms are 0x80 and above
  split at member
  · simp (disch := omega) only [List.mem_cons, List.not_mem_nil, other, or_self] at member
  split at member
  · simp (disch := omega) only [List.mem_cons, List.not_mem_nil, other, or_self] at member
  · simp (disch := omega) only [List.mem_cons, List.not_mem_nil, other, or_self] at member

/-! ### Whole texts -/

theorem decodeChars_spelled {bytes : List UInt8} {c : Char} (spelled : Spells bytes c)
    (rest : List UInt8) : decodeChars (bytes ++ rest) = (decodeChars rest).map (c :: ·) := by
  cases spelled with
  | one first =>
    rw [List.singleton_append, decodeChars.eq_def]
    simp only [first]
  | two first last =>
    rw [List.cons_append, List.singleton_append, decodeChars.eq_def]
    simp only [first, last, if_true]
  | three first second last =>
    rw [List.cons_append, List.cons_append, List.singleton_append, decodeChars.eq_def]
    simp only [first, second, last, if_true]
  | four first second third last =>
    rw [List.cons_append, List.cons_append, List.cons_append, List.singleton_append,
      decodeChars.eq_def]
    simp only [first, second, third, last, if_true]

theorem decodeChars_encode (chars : List Char) :
    decodeChars (chars.flatMap encodeChar) = .ok chars := by
  induction chars with
  | nil => rfl
  | cons c chars ih =>
    rw [List.flatMap_cons, decodeChars_spelled (spells_encodeChar c), ih]
    rfl

theorem flatMap_spelled {front back : List UInt8} {c : Char} {chars : List Char}
    (spelled : Spells front c)
    (ih : ∀ {tail}, decodeChars back = .ok tail → tail.flatMap encodeChar = back)
    (read : (decodeChars back).map (c :: ·) = .ok chars) :
    chars.flatMap encodeChar = front ++ back := by
  cases rest : decodeChars back with
  | error why =>
    rw [rest] at read
    cases read
  | ok tail =>
    rw [rest] at read
    cases read
    rw [List.flatMap_cons, encodeChar_spelled spelled, ih rest]

theorem encode_decodeChars {bytes : List UInt8} {chars : List Char}
    (read : decodeChars bytes = .ok chars) : chars.flatMap encodeChar = bytes := by
  fun_induction decodeChars bytes generalizing chars with
  | case1 =>
    cases read
    rfl
  | case2 a rest first ih => exact flatMap_spelled (.one first) ih read
  | case5 a b rest first last ih => exact flatMap_spelled (.two first last) ih read
  | case9 a low high b first second c rest last ih =>
    exact flatMap_spelled (.three first second last) ih read
  | case15 a low high b first second c third d rest last ih =>
    exact flatMap_spelled (.four first second third last) ih read
  | _ => cases read

theorem decode_eq_ok_iff {bytes : List UInt8} {text : String} :
    decode bytes = .ok text ↔ encode text = bytes := by
  unfold decode encode
  constructor
  · intro read
    cases chars : decodeChars bytes with
    | error why =>
      rw [chars] at read
      cases read
    | ok chars' =>
      rw [chars] at read
      cases read
      rw [String.toList_ofList, encode_decodeChars chars]
  · rintro rfl
    rw [decodeChars_encode, Except.map, String.ofList_toList]

theorem decode_encode (text : String) : decode (encode text) = .ok text := decode_eq_ok_iff.mpr rfl

theorem encode_inj {s t : String} : encode s = encode t ↔ s = t := by
  refine ⟨fun same => ?_, congrArg encode⟩
  have read := decode_encode s
  rw [same, decode_encode] at read
  exact (Except.ok.inj read).symm

/-! ### The core library's encoding -/

theorem encodeChar_eq_utf8EncodeChar (c : Char) : encodeChar c = String.utf8EncodeChar c := by
  have scalar := toNat_isScalar c
  unfold IsScalar at scalar
  unfold encodeChar String.utf8EncodeChar
  rw [show c.val.toNat = c.toNat from rfl]
  dsimp only
  split
  · rw [if_pos (by omega)]
  split
  · rw [if_neg (by omega), if_pos (by omega), show c.toNat / 64 % 32 = c.toNat / 64 by omega,
      Nat.add_comm 0xC0, Nat.add_comm 0x80]
  split
  · rw [if_neg (by omega), if_neg (by omega), if_pos (by omega),
      show c.toNat / 4096 % 16 = c.toNat / 4096 by omega]
    simp only [Nat.add_comm]
  · rw [if_neg (by omega), if_neg (by omega), if_neg (by omega),
      show c.toNat / 262144 % 8 = c.toNat / 262144 by omega]
    simp only [Nat.add_comm]

theorem encode_eq_toUTF8 (text : String) : encode text = text.toUTF8.data.toList := by
  have same : encodeChar = String.utf8EncodeChar := funext encodeChar_eq_utf8EncodeChar
  rw [String.toUTF8_eq_toByteArray, ← String.utf8Encode_toList, List.utf8Encode,
    List.toList_data_toByteArray, encode, same]

end AccountSync.Utf8
