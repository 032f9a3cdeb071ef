import AccountSync.Principal

/-!
# Principals survive their written form

Reading the written form of a principal gives the principal back exactly when it has a name and a
realm, and nothing else is ever read. Main statement: `parse_text_iff`.
-/

namespace AccountSync.Principal

structure WellFormed (p : Principal) : Prop where
  named : ∃ name ∈ p.name?, name ≠ ""
  hasRealm : p.realm ≠ ""

instance (p : Principal) : Decidable p.WellFormed :=
  decidable_of_iff ((∃ name ∈ p.name?, name ≠ "") ∧ p.realm ≠ "")
    ⟨fun h => ⟨h.1, h.2⟩, fun h => ⟨h.1, h.2⟩⟩

/-! ### One character -/

theorem unescape_symbol {c letter : Char} (symbol : symbol? c = some letter) :
    unescape letter = c := by
  unfold symbol? at symbol
  split at symbol <;> cases symbol <;> rfl

theorem unescape_special {c : Char} (special : c ∈ componentSpecials) : unescape c = c := by
  simp only [componentSpecials, List.mem_cons, List.not_mem_nil, or_false] at special
  rcases special with rfl | rfl | rfl <;> rfl

theorem realmSpecials_subset {c : Char} (special : c ∈ realmSpecials) : c ∈ componentSpecials := by
  simp only [realmSpecials, List.mem_cons, List.not_mem_nil, or_false] at special
  rcases special with rfl | rfl <;> decide

/-- A character is written as an escape that stands for it, or as itself if it is not special. -/
theorem quoteChar_cases (specials : List Char) (c : Char) (usual : ∀ d ∈ specials, unescape d = d) :
    (∃ letter, quoteChar specials c = ['\\', letter] ∧ unescape letter = c) ∨
      quoteChar specials c = [c] ∧ c ∉ specials := by
  unfold quoteChar
  cases symbol : symbol? c with
  | some letter => exact .inl ⟨letter, rfl, unescape_symbol symbol⟩
  | none =>
    by_cases special : c ∈ specials
    · exact .inl ⟨c, if_pos special, usual c special⟩
    · exact .inr ⟨if_neg special, special⟩

/-! ### What is never written as itself -/

theorem symbol_letter {c letter : Char} (symbol : symbol? c = some letter) : symbol? letter = none := by
  unfold symbol? at symbol
  split at symbol <;> cases symbol <;> rfl

theorem notMem_quote {d letter : Char} (symbol : symbol? d = some letter) (specials text : List Char) :
    d ∉ quote specials text := by
  intro member
  obtain ⟨c, -, written⟩ := List.mem_flatMap.mp member
  -- only characters without a symbol are written, and `d` has one
  suffices bare : ∀ e ∈ quoteChar specials c, symbol? e = none by
    cases symbol.symm.trans (bare d written)
  have backslash : symbol? '\\' = none := rfl
  unfold quoteChar
  cases own : symbol? c with
  | some letter => simp [backslash, symbol_letter own]
  | none =>
    dsimp only
    split <;> simp [backslash, own]

/-! ### Reading what was quoted -/

theorem readRealm_plain {c : Char} (plain : c ∉ realmSpecials) (rest : List Char) :
    readRealm (c :: rest) = (readRealm rest).map (c :: ·) := by
  simp only [realmSpecials, List.mem_cons, List.not_mem_nil, or_false, not_or] at plain
  rw [readRealm]
  all_goals simp_all

theorem readPieces_plain {c : Char} (plain : c ∉ componentSpecials) (rest : List Char) :
    readPieces (c :: rest) = (readPieces rest).map (Pieces.push c) := by
  simp only [componentSpecials, List.mem_cons, List.not_mem_nil, or_false, not_or] at plain
  rw [readPieces]
  all_goals simp_all

theorem readRealm_quote (text : List Char) : readRealm (quote realmSpecials text) = .ok text := by
  induction text with
  | nil => rfl
  | cons c text ih =>
    unfold quote at ih ⊢
    rw [List.flatMap_cons]
    rcases quoteChar_cases realmSpecials c fun d special =>
        unescape_special (realmSpecials_subset special) with ⟨letter, written, means⟩ | ⟨written, plain⟩
    · rw [written, List.cons_append, List.cons_append, List.nil_append, readRealm, ih, means]
      rfl
    · rw [written, List.singleton_append, readRealm_plain plain, ih]
      rfl

def Pieces.prepend (text : List Char) (p : Pieces) : Pieces := { p with first := text ++ p.first }

theorem readPieces_quote (text rest : List Char) :
    readPieces (quote componentSpecials text ++ rest) =
      (readPieces rest).map (Pieces.prepend text) := by
  induction text with
  | nil =>
    change readPieces rest = _
    cases readPieces rest <;> rfl
  | cons c text ih =>
    unfold quote at ih ⊢
    rw [List.flatMap_cons, List.append_assoc]
    have joined : ((readPieces rest).map (Pieces.prepend text)).map (Pieces.push c) =
        (readPieces rest).map (Pieces.prepend (c :: text)) := by
      cases readPieces rest <;> rfl
    rcases quoteChar_cases componentSpecials c fun _ special => unescape_special special with
      ⟨letter, written, means⟩ | ⟨written, plain⟩
    · rw [written, List.cons_append, List.cons_append, List.nil_append, readPieces, ih, means, joined]
    · rw [written, List.singleton_append, readPieces_plain plain, ih, joined]

theorem readPieces_components (first : List Char) (others : List (List Char)) (realm : List Char) :
    readPieces (['/'].intercalate ((first :: others).map (quote componentSpecials)) ++
      '@' :: quote realmSpecials realm) = .ok ⟨first, others, some realm⟩ := by
  induction others generalizing first with
  | nil =>
    rw [List.map_singleton, List.intercalate_singleton, readPieces_quote, readPieces,
      readRealm_quote]
    simp [Except.map, Pieces.prepend]
  | cons second others ih =>
    rw [List.map_cons, List.map_cons, List.intercalate_cons_cons, ← List.map_cons,
      List.append_assoc, List.append_assoc, readPieces_quote, List.singleton_append, readPieces, ih]
    simp [Except.map, Pieces.prepend, Pieces.cut]

theorem toList_text (p : Principal) :
    p.text.toList =
      ['/'].intercalate ((p.components.map String.toList).map (quote componentSpecials)) ++
        '@' :: quote realmSpecials p.realm.toList := by
  have components : (p.components.map quoteComponent).map String.toList =
      (p.components.map String.toList).map (quote componentSpecials) := by
    simp [quoteComponent, Function.comp_def]
  have realm : (quoteRealm p.realm).toList = quote realmSpecials p.realm.toList := by
    simp [quoteRealm]
  rw [text, String.toList_append, String.toList_append, String.toList_intercalate, components, realm,
    List.append_assoc]
  rfl

theorem notMem_text {d letter : Char} (symbol : symbol? d = some letter) (p : Principal) :
    d ∉ p.text.toList := by
  have slash : d ≠ '/' := by
    rintro rfl
    cases symbol
  have separator : d ≠ '@' := by
    rintro rfl
    cases symbol
  have components (parts : List (List Char)) :
      d ∉ ['/'].intercalate (parts.map (quote componentSpecials)) := by
    induction parts with
    | nil => exact List.not_mem_nil
    | cons first others ih =>
      cases others with
      | nil =>
        rw [List.map_singleton, List.intercalate_singleton]
        exact notMem_quote symbol _ _
      | cons second others =>
        rw [List.map_cons, List.map_cons, List.intercalate_cons_cons, ← List.map_cons]
        simp only [List.mem_append, List.mem_singleton, not_or]
        exact ⟨⟨notMem_quote symbol _ _, slash⟩, ih⟩
  rw [toList_text]
  simp only [List.mem_append, List.mem_cons, not_or]
  exact ⟨components _, separator, notMem_quote symbol _ _⟩

/-- The pieces of a written form; without components there is an empty first one. -/
theorem readPieces_text (p : Principal) :
    readPieces p.text.toList = .ok
      ⟨(p.components.headD "").toList, p.components.tail.map String.toList, some p.realm.toList⟩ := by
  rw [toList_text]
  cases p.components with
  | nil => simp [readPieces, readRealm_quote, Except.map]
  | cons first others => exact readPieces_components first.toList (others.map String.toList) _

/-! ### Whole texts -/

theorem chooseRealm_ne_empty {fallback : Option String} {written : Option (List Char)}
    {realm : String} (chosen : chooseRealm fallback written = .ok realm) : realm ≠ "" := by
  unfold chooseRealm at chosen
  split at chosen
  · cases chosen
  · next written empty =>
    cases chosen
    exact fun h => empty (String.ofList_eq_empty_iff.mp h)
  · split at chosen
    · cases chosen
    · split at chosen
      · cases chosen
      · next named =>
        cases chosen
        exact named

theorem parse_ok_iff {fallback : Option String} {text : String} {p : Principal} :
    parse fallback text = .ok p ↔
      text ≠ "" ∧ ∃ pieces realm, readPieces text.toList = .ok pieces ∧
        chooseRealm fallback pieces.realm = .ok realm ∧ pieces.first ≠ [] ∧
        p = ⟨(pieces.first :: pieces.others).map String.ofList, realm⟩ := by
  unfold parse
  by_cases empty : text = ""
  · simp [empty, throw, throwThe, MonadExceptOf.throw, bind, Except.bind]
  · cases read : readPieces text.toList with
    | error why => simp [empty, bind, Except.bind]
    | ok pieces =>
      cases chosen : chooseRealm fallback pieces.realm with
      | error why => simp [empty, chosen, bind, Except.bind]
      | ok realm =>
        by_cases nameless : pieces.first = []
        · simp [empty, chosen, nameless, bind, Except.bind, throw, throwThe, MonadExceptOf.throw]
        · simp [empty, chosen, nameless, bind, Except.bind, pure, Except.pure, eq_comm]

theorem parse_wellFormed {fallback : Option String} {text : String} {p : Principal}
    (parsed : parse fallback text = .ok p) : p.WellFormed := by
  obtain ⟨_, pieces, realm, _, chosen, named, rfl⟩ := parse_ok_iff.mp parsed
  refine ⟨⟨.ofList pieces.first, rfl, ?_⟩, chooseRealm_ne_empty chosen⟩
  exact fun h => named (String.ofList_eq_empty_iff.mp h)

theorem parse_text {p : Principal} (formed : p.WellFormed) (fallback : Option String) :
    parse fallback p.text = .ok p := by
  obtain ⟨components, realm⟩ := p
  obtain ⟨⟨name, first, named⟩, hasRealm⟩ := formed
  obtain ⟨others, rfl⟩ := List.head?_eq_some_iff.mp first
  have realmChars : realm.toList ≠ [] := by simpa using hasRealm
  refine parse_ok_iff.mpr ⟨?_, _, realm, readPieces_text _, ?_, by simpa using named, ?_⟩
  · intro empty
    have separator := toList_text ⟨name :: others, realm⟩
    simp [empty] at separator
  · cases chars : realm.toList with
    | nil => exact absurd chars realmChars
    | cons c rest => simp [chooseRealm, ← chars]
  · simp [Function.comp_def]

theorem wellFormed_of_parse_text {p q : Principal} {fallback : Option String}
    (parsed : parse fallback p.text = .ok q) : p.WellFormed := by
  obtain ⟨_, pieces, realm, read, chosen, named, _⟩ := parse_ok_iff.mp parsed
  rw [readPieces_text] at read
  cases read
  obtain ⟨components, own⟩ := p
  constructor
  · cases components with
    | nil => exact (named rfl).elim
    | cons first others => exact ⟨first, rfl, by simpa using named⟩
  · rintro rfl
    cases chosen

/-- The written form of a principal reads as the principal, under every default realm, if and only
if the principal is well-formed, and any other written form is refused. Whatever is read from a text
is well-formed, so its written form reads as the same principal under every default realm. -/
theorem parse_text_iff :
    (∀ (p : Principal) (fallback : Option String),
      (parse fallback p.text = .ok p ↔ p.WellFormed) ∧
      (¬ p.WellFormed → ∃ why, parse fallback p.text = .error why)) ∧
    (∀ (fallback : Option String) (text : String) (p : Principal), parse fallback text = .ok p →
      p.WellFormed ∧ ∀ other, parse other p.text = .ok p) := by
  constructor
  · intro p fallback
    refine ⟨⟨parse_wellFormed, fun formed => parse_text formed fallback⟩, fun deformed => ?_⟩
    cases parsed : parse fallback p.text with
    | error why => exact ⟨why, rfl⟩
    | ok q => exact (deformed (wellFormed_of_parse_text parsed)).elim
  · intro fallback text p parsed
    exact ⟨parse_wellFormed parsed, parse_text (parse_wellFormed parsed)⟩

/-- A separator of each kind, and each kind of escape. -/
theorem parse_text_separators :
    let p : Principal := ⟨["a/b\\\n", "", "@n"], "R/\t@"⟩
    parse none p.text = .ok p ∧
      (∃ why, parse (some "D") (⟨["", "x"], "R"⟩ : Principal).text = .error why) ∧
      ∀ other, parse other (⟨["a"], "D@"⟩ : Principal).text = .ok ⟨["a"], "D@"⟩ :=
  ⟨(parse_text_iff.1 _ none).1.mpr (by decide), (parse_text_iff.1 _ (some "D")).2 (by decide),
    (parse_text_iff.2 (some "D@") "a" _ rfl).2⟩

end AccountSync.Principal
