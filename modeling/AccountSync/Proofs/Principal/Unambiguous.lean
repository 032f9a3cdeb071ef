import AccountSync.Proofs.Principal.Grammar

/-!
# One principal for each written form

Principals with components have different written forms, whether or not these can be read. A written
form fits on one line, has a single sign `@` and as many cuts before it as the principal needs, and
ends in no open escape (`text_unambiguous`).
-/

namespace AccountSync.Principal

open Token (separator realmSign)

theorem length_splitOn_separator (tokens : List Token) :
    (tokens.splitOn separator).length = tokens.count separator + 1 := by
  induction tokens with
  | nil => rfl
  | cons t rest ih =>
    rw [List.splitOn] at ih ⊢
    rw [List.splitOnP_cons_eq_if_modifyHead]
    by_cases cut : t = separator
    · rw [if_pos (by simpa using cut), List.length_cons, ih, cut, List.count_cons_self]
    · rw [if_neg (by simpa using cut), List.length_modifyHead, ih, List.count_cons_of_ne cut]

/-- What the tokens of a written form come to: nothing is left over or out of place, and the parts
are those of the principal. -/
theorem tokens_text (p : Principal) :
    (tokens p.text).count realmSign ≤ 1 ∧ hasTrailingBackslash p.text = false ∧
      piecesOf (tokens p.text) =
        ⟨(p.components.headD "").toList, p.components.tail.map String.toList, some p.realm.toList⟩ := by
  have read := readPieces_text p
  rw [readPieces_scan] at read
  change judged (1 < (tokens p.text).count realmSign) (hasTrailingBackslash p.text)
    (piecesOf (tokens p.text)) = _ at read
  unfold judged at read
  split at read
  · cases read
  next single =>
  split at read
  · cases read
  next closed =>
  exact ⟨by simpa using single, by simpa using closed, Except.ok.inj read⟩

theorem count_realmSign_text (p : Principal) : (tokens p.text).count realmSign = 1 := by
  obtain ⟨single, _, pieces⟩ := tokens_text p
  have signed : realmSign ∈ tokens p.text := by
    apply Classical.byContradiction
    intro unsigned
    have realm := congrArg Pieces.realm pieces
    rw [piecesOf, realmPart?_eq_none.mpr unsigned] at realm
    cases realm
  have present := List.count_pos_iff.mpr signed
  omega

theorem count_separator_text (p : Principal) :
    (namePart (tokens p.text)).count separator = p.components.length - 1 := by
  obtain ⟨_, _, pieces⟩ := tokens_text p
  have others := congrArg (fun pieces => pieces.others.length) pieces
  simp only [piecesOf, List.length_map, List.length_tail, length_splitOn_separator] at others
  omega

theorem eq_of_text {p q : Principal} (parts : p.components ≠ []) (parts' : q.components ≠ [])
    (same : p.text = q.text) : p = q := by
  have read := readPieces_text p
  rw [same, readPieces_text q] at read
  have pieces := Except.ok.inj read
  obtain ⟨components, realm⟩ := p
  obtain ⟨components', realm'⟩ := q
  obtain ⟨name, others, rfl⟩ := List.exists_cons_of_ne_nil parts
  obtain ⟨name', others', rfl⟩ := List.exists_cons_of_ne_nil parts'
  have heads : name'.toList = name.toList := congrArg Pieces.first pieces
  have tails : others'.map String.toList = others.map String.toList := congrArg Pieces.others pieces
  have realms : realm'.toList = realm.toList := Option.some.inj (congrArg Pieces.realm pieces)
  have sameOthers : others' = others :=
    (List.map_inj_right fun _ _ chars => String.toList_injective chars).mp tails
  rw [String.toList_injective heads, sameOthers, String.toList_injective realms]

/-- Principals with components differ in their written forms, even where these cannot be read. No
written form has a character that could break a line, and each has one sign `@`, one cut less than the
principal has components before it, and no backslash left over at its end. -/
theorem text_unambiguous :
    (∀ p q : Principal, p.components ≠ [] → q.components ≠ [] → p.text = q.text → p = q) ∧
      ∀ p : Principal,
        (∀ c ∈ ['\n', '\t', '\x08', '\x00'], c ∉ p.text.toList) ∧
        (tokens p.text).count realmSign = 1 ∧
        (p.components ≠ [] →
          (namePart (tokens p.text)).count separator = p.components.length - 1) ∧
        hasTrailingBackslash p.text = false := by
  refine ⟨fun p q => eq_of_text, fun p => ⟨fun c control => ?_, count_realmSign_text p,
    fun _ => count_separator_text p, (tokens_text p).2.1⟩⟩
  obtain ⟨letter, symbol⟩ : ∃ letter, symbol? c = some letter := by
    simp only [List.mem_cons, List.not_mem_nil, or_false] at control
    rcases control with rfl | rfl | rfl | rfl <;> exact ⟨_, rfl⟩
  exact notMem_text symbol p

/-- Empty components and an empty realm, so that nothing can be read, with cuts and signs inside the
components that are not counted. What the tokens spell is the principal that was written. -/
theorem text_unambiguous_unreadable :
    let p : Principal := ⟨["", "/@\\", ""], ""⟩
    let q : Principal := ⟨nameComponents (tokens "/\\/\\@\\\\/@"), ""⟩
    ¬ p.WellFormed ∧ p.components ≠ [] ∧ q.components ≠ [] ∧ p.text = q.text ∧ p = q ∧
      (namePart (tokens p.text)).count separator = 2 := by
  intro p q
  have parts : p.components ≠ [] := by decide
  have parts' : q.components ≠ [] := by decide
  have same : p.text = q.text := by decide
  exact ⟨by decide, parts, parts', same, text_unambiguous.1 p q parts parts' same,
    (text_unambiguous.2 p).2.2.1 parts⟩

end AccountSync.Principal
