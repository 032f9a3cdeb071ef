import AccountSync.Text.Quoted
import Mathlib.Data.List.Basic

/-!
# Words of a line

A text is written bare or in quotes. No two texts are written the same, and where one ends can be
told from the line (`Word.unique`, `bareOrQuoted_inj`).
-/

namespace AccountSync.Text

/-! ### Code points -/

def digitValue (c : Char) : Nat := "0123456789abcdef".toList.idxOf c

def hexValue (digits : List Char) : Nat := digits.foldl (fun n c => 16 * n + digitValue c) 0

theorem digitValue_hexDigit {n : Nat} (small : n < 16) : digitValue (hexDigit n) = n := by
  have each : ∀ n < 16, digitValue (hexDigit n) = n := by decide
  exact each n small

theorem length_hex (width n : Nat) : (hex width n).length = width := by
  simp [hex]

theorem hex_succ (width n : Nat) : hex (width + 1) n = hex width (n / 16) ++ [hexDigit (n % 16)] := by
  simp only [hex, List.range_succ_eq_map, List.reverse_cons, List.map_append, List.map_reverse,
    List.map_map, List.map_cons, List.map_nil]
  congr 2
  · refine List.map_congr_left fun i _ => ?_
    simp [Nat.div_div_eq_div_mul, Nat.pow_succ, Nat.mul_comm]
  · simp

theorem hexValue_hex {width n : Nat} (fits : n < Nat.pow 16 width) : hexValue (hex width n) = n := by
  induction width generalizing n with
  | zero =>
    obtain rfl : n = 0 := by simpa using fits
    rfl
  | succ width ih =>
    have high : n / 16 < Nat.pow 16 width := by
      change n < Nat.pow 16 width * 16 at fits
      omega
    have last : digitValue (hexDigit (n % 16)) = n % 16 := digitValue_hexDigit (n.mod_lt (by decide))
    have rest := ih high
    unfold hexValue at rest ⊢
    rw [hex_succ, List.foldl_append, rest, List.foldl_cons, last, List.foldl_nil]
    omega

/-! ### Quotes -/

def readCode (letter : Char) (rest : List Char) : Char × List Char :=
  match letter with
  | 'n' => ('\n', rest)
  | 'r' => ('\r', rest)
  | 't' => ('\t', rest)
  | 'x' => (.ofNat (hexValue (rest.take 2)), rest.drop 2)
  | 'u' => (.ofNat (hexValue (rest.take 4)), rest.drop 4)
  | 'U' => (.ofNat (hexValue (rest.take 8)), rest.drop 8)
  | c => (c, rest)

/-- The first character of what was escaped, and what is written after it. -/
def readEscaped : List Char → Option (Char × List Char)
  | [] => none
  | '\\' :: letter :: rest => some (readCode letter rest)
  | c :: rest => some (c, rest)

theorem readEscaped_plain {c : Char} (plain : c ≠ '\\') (rest : List Char) :
    readEscaped (c :: rest) = some (c, rest) := by
  unfold readEscaped
  split
  · contradiction
  · simp_all
  · simp_all

theorem readEscaped_escapeCode (c : Char) (rest : List Char) :
    readEscaped (escapeCode c.toNat ++ rest) = some (c, rest) := by
  have code (width : Nat) (fits : c.toNat < Nat.pow 16 width) :
      Char.ofNat (hexValue ((hex width c.toNat ++ rest).take width)) = c ∧
        (hex width c.toNat ++ rest).drop width = rest := by
    rw [List.take_left' (length_hex width _), List.drop_left' (length_hex width _), hexValue_hex fits,
      Char.ofNat_toNat]
    exact ⟨rfl, rfl⟩
  have bound : c.toNat < Nat.pow 16 8 := by
    have valid := c.valid
    change c.toNat < 0xD800 ∨ 0xDFFF < c.toNat ∧ c.toNat < 0x110000 at valid
    change c.toNat < 0x100000000
    omega
  unfold escapeCode
  split
  · next short =>
    obtain ⟨same, after⟩ := code 2 short
    exact congrArg some (Prod.ext same after)
  · split
    · next short =>
      obtain ⟨same, after⟩ := code 4 short
      exact congrArg some (Prod.ext same after)
    · obtain ⟨same, after⟩ := code 8 bound
      exact congrArg some (Prod.ext same after)

/-- The characters that a text may stand between. -/
def IsQuote (mark : Char) : Prop := mark = '\'' ∨ mark = '"'

theorem isQuote_quoteMark (text : List Char) : IsQuote (quoteMark text) := by
  unfold quoteMark
  split
  · exact .inr rfl
  · exact .inl rfl

section

variable {mark : Char} (quote : IsQuote mark)

include quote

theorem readEscaped_escapeChar (c : Char) (rest : List Char) :
    readEscaped (escapeChar mark c ++ rest) = some (c, rest) := by
  unfold escapeChar
  split
  · next escaped =>
    obtain rfl | rfl : c = mark ∨ c = '\\' := by simpa using escaped
    · obtain rfl | rfl := quote <;> rfl
    · rfl
  next other =>
  split
  · next same => rw [same]; rfl
  split
  · next same => rw [same]; rfl
  split
  · next same => rw [same]; rfl
  split
  · have plain : c ≠ '\\' := by
      rintro rfl
      simp at other
    exact readEscaped_plain plain rest
  · exact readEscaped_escapeCode c rest

/-- No escaped character begins like the quote at the end. -/
theorem escapeChar_ne_mark (c : Char) (rest after : List Char) :
    escapeChar mark c ++ rest ≠ mark :: after := by
  intro same
  have plain : mark ≠ '\\' := by
    obtain rfl | rfl := quote <;> decide
  have read := readEscaped_escapeChar quote c rest
  rw [same, readEscaped_plain plain] at read
  obtain ⟨rfl, -⟩ := Prod.mk.inj (Option.some.inj read)
  simp [escapeChar] at same
  exact plain same.1.symm

theorem escaped_unique {text text' rest rest' : List Char}
    (same : text.flatMap (escapeChar mark) ++ mark :: rest =
      text'.flatMap (escapeChar mark) ++ mark :: rest') : text = text' ∧ rest = rest' := by
  induction text generalizing text' with
  | nil =>
    cases text' with
    | nil => exact ⟨rfl, (List.cons.inj same).2⟩
    | cons c' more' =>
      rw [List.flatMap_cons, List.append_assoc] at same
      exact (escapeChar_ne_mark quote c' _ _ same.symm).elim
  | cons c more ih =>
    cases text' with
    | nil =>
      rw [List.flatMap_cons, List.append_assoc] at same
      exact (escapeChar_ne_mark quote c _ _ same).elim
    | cons c' more' =>
      rw [List.flatMap_cons, List.flatMap_cons, List.append_assoc, List.append_assoc] at same
      have read := readEscaped_escapeChar quote c (more.flatMap (escapeChar mark) ++ mark :: rest)
      rw [same, readEscaped_escapeChar quote] at read
      obtain ⟨rfl, after⟩ := Prod.mk.inj (Option.some.inj read)
      obtain ⟨rfl, rfl⟩ := ih after.symm
      exact ⟨rfl, rfl⟩

end

theorem quoteChars_unique {text text' rest rest' : List Char}
    (same : quoteChars text ++ rest = quoteChars text' ++ rest') : text = text' ∧ rest = rest' := by
  unfold quoteChars at same
  rw [List.cons_append, List.cons_append, List.append_assoc, List.append_assoc] at same
  obtain ⟨mark, inside⟩ := List.cons.inj same
  rw [mark] at inside
  exact escaped_unique (isQuote_quoteMark text') inside

/-! ### Words -/

/-- What a text may be written as: itself, if no character of it is one that could mislead, or in
quotes. -/
inductive Word : List Char → Prop where
  | bare {text} (plain : ∀ c ∈ text, ¬ needsQuotes c) : Word text
  | quoted (text) : Word (quoteChars text)

/-- Nothing, or what a space parts from the word before it. -/
def Apart (rest : List Char) : Prop := rest = [] ∨ ∃ more, rest = ' ' :: more

theorem apart_nil : Apart [] := .inl rfl

theorem needsQuotes_quoteMark (text : List Char) : needsQuotes (quoteMark text) := by
  obtain same | same := isQuote_quoteMark text <;> rw [same] <;> rfl

theorem word_bareOrQuoted (text : String) : Word (bareOrQuoted text).toList := by
  unfold bareOrQuoted
  split
  · rw [quoted, String.toList_ofList]
    exact .quoted text.toList
  · next plain =>
    refine .bare fun c member misleads => plain ?_
    exact List.any_eq_true.mpr ⟨c, member, misleads⟩

/-- A bare word ends before the first character that could mislead. -/
theorem takeWhile_bare {word rest : List Char} (plain : ∀ c ∈ word, ¬ needsQuotes c)
    (apart : Apart rest) : (word ++ rest).takeWhile (fun c => !needsQuotes c) = word := by
  rw [List.takeWhile_append_of_pos (by simpa using plain)]
  obtain rfl | ⟨more, rfl⟩ := apart
  · simp
  · rw [List.takeWhile_cons_of_neg (by decide), List.append_nil]

theorem bare_ne_quoted {word text rest rest' : List Char} (plain : ∀ c ∈ word, ¬ needsQuotes c)
    (apart : Apart rest) : word ++ rest ≠ quoteChars text ++ rest' := by
  intro same
  have misleads := needsQuotes_quoteMark text
  have none : word = [] := by
    have cut := takeWhile_bare plain apart
    rwa [same, quoteChars, List.cons_append, List.cons_append,
      List.takeWhile_cons_of_neg (by simp [misleads]), eq_comm] at cut
  rw [none, List.nil_append, quoteChars, List.cons_append, List.cons_append] at same
  obtain rfl | ⟨more, rfl⟩ := apart
  · cases same
  · have space := (List.cons.inj same).1
    obtain mark | mark := isQuote_quoteMark text <;> rw [mark] at space <;> cases space

/-- Words end where they end, whatever follows after a space. -/
theorem Word.unique {word word' rest rest' : List Char} (isWord : Word word) (isWord' : Word word')
    (apart : Apart rest) (apart' : Apart rest') (same : word ++ rest = word' ++ rest') :
    word = word' ∧ rest = rest' := by
  cases isWord with
  | bare plain =>
    cases isWord' with
    | bare plain' =>
      have cut := takeWhile_bare plain apart
      rw [same, takeWhile_bare plain' apart'] at cut
      rw [cut] at same
      exact ⟨cut.symm, List.append_cancel_left same⟩
    | quoted text' => exact (bare_ne_quoted plain apart same).elim
  | quoted text =>
    cases isWord' with
    | bare plain' => exact (bare_ne_quoted plain' apart' same.symm).elim
    | quoted text' =>
      obtain ⟨rfl, rfl⟩ := quoteChars_unique same
      exact ⟨rfl, rfl⟩

theorem Word.last {word : List Char} (isWord : Word word) :
    word = [] ∨ ∃ front c, word = front ++ [c] ∧ c ≠ ' ' := by
  cases isWord with
  | bare plain =>
    obtain rfl | ⟨front, c, rfl⟩ := List.eq_nil_or_concat' word
    · exact .inl rfl
    · refine .inr ⟨front, c, rfl, ?_⟩
      rintro rfl
      exact plain ' ' (by simp) rfl
  | quoted text =>
    refine .inr ⟨quoteMark text :: text.flatMap (escapeChar (quoteMark text)), quoteMark text, rfl, ?_⟩
    obtain mark | mark := isQuote_quoteMark text <;> rw [mark] <;> decide

/-- No two texts are written the same. -/
theorem bareOrQuoted_inj {text text' : String} :
    bareOrQuoted text = bareOrQuoted text' ↔ text = text' := by
  refine ⟨fun same => ?_, congrArg bareOrQuoted⟩
  have plain {text : String} (none : ¬ text.toList.any needsQuotes) :
      ∀ c ∈ text.toList, ¬ needsQuotes c := by simpa using none
  have clash {word text : List Char} (plain : ∀ c ∈ word, ¬ needsQuotes c) : word ≠ quoteChars text :=
    fun same => bare_ne_quoted plain apart_nil (congrArg (fun word => word ++ []) same)
  have chars := congrArg String.toList same
  unfold bareOrQuoted quoted at chars
  split at chars
  · split at chars
    · rw [String.toList_ofList, String.toList_ofList] at chars
      have whole := congrArg (fun word => word ++ []) chars
      exact String.toList_inj.mp (quoteChars_unique whole).1
    · next none =>
      rw [String.toList_ofList] at chars
      exact (clash (plain none) chars.symm).elim
  · next none =>
    split at chars
    · rw [String.toList_ofList] at chars
      exact (clash (plain none) chars).elim
    · exact String.toList_inj.mp chars

/-! ### One line -/

theorem hexDigit_ne_lineFeed {n : Nat} (small : n < 16) : hexDigit n ≠ '\n' := by
  have each : ∀ n < 16, hexDigit n ≠ '\n' := by decide
  exact each n small

theorem lineFeed_notMem_hex (width n : Nat) : '\n' ∉ hex width n := by
  unfold hex
  simp only [List.mem_map, not_exists, not_and]
  exact fun i _ => hexDigit_ne_lineFeed (Nat.mod_lt _ (by decide))

theorem lineFeed_notMem_escapeChar {mark : Char} (quote : IsQuote mark) (c : Char) :
    '\n' ∉ escapeChar mark c := by
  have coded (n : Nat) : '\n' ∉ escapeCode n := by
    unfold escapeCode
    split
    · simp [lineFeed_notMem_hex]
    · split <;> simp [lineFeed_notMem_hex]
  unfold escapeChar
  split
  · next escaped =>
    obtain rfl | rfl : c = mark ∨ c = '\\' := by simpa using escaped
    · obtain rfl | rfl := quote <;> decide
    · decide
  split
  · decide
  next other =>
  split
  · decide
  split
  · decide
  split
  · simpa using Ne.symm other
  · exact coded _

theorem lineFeed_notMem_bareOrQuoted (text : String) : '\n' ∉ (bareOrQuoted text).toList := by
  unfold bareOrQuoted
  split
  · have quote := isQuote_quoteMark text.toList
    have mark : '\n' ≠ quoteMark text.toList := by
      obtain same | same := quote <;> rw [same] <;> decide
    simp [quoted, quoteChars, mark, lineFeed_notMem_escapeChar quote]
  · next plain =>
    intro member
    exact plain (List.any_eq_true.mpr ⟨'\n', member, rfl⟩)

end AccountSync.Text
