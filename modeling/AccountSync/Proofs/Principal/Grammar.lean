import AccountSync.Dispatch
import AccountSync.Proofs.Principal.RoundTrip

/-!
# The grammar of principals

A text is a row of tokens, each an escape or a plain character, and a backslash may be left over at
its end. `parse` accepts a text for what its tokens are, and otherwise reports the first fault of a
fixed list. Main statement: `parse_grammar`.
-/

namespace AccountSync.Principal

/-! ### Tokens -/

inductive Token where
  | escaped (letter : Char)
  | plain (c : Char)
  deriving DecidableEq, Repr

namespace Token

/-- The character that a token stands for. -/
def meaning : Token → Char
  | escaped 'n' => '\n'
  | escaped 't' => '\t'
  | escaped 'b' => '\x08'
  | escaped '0' => '\x00'
  | escaped c => c
  | plain c => c

theorem meaning_escaped (c : Char) : (escaped c).meaning = unescape c := by
  unfold meaning unescape
  split <;> simp_all

def separator : Token := plain '/'

def realmSign : Token := plain '@'

def spelled (tokens : List Token) : String := .ofList (tokens.map meaning)

/-- The tokens of a text, and whether a backslash with nothing after it is left over. -/
def scan : List Char → List Token × Bool
  | [] => ([], false)
  | ['\\'] => ([], true)
  | '\\' :: c :: rest => (escaped c :: (scan rest).1, (scan rest).2)
  | c :: rest => (plain c :: (scan rest).1, (scan rest).2)

end Token

open Token (separator realmSign spelled scan)

def tokens (text : String) : List Token := (scan text.toList).1

def hasTrailingBackslash (text : String) : Bool := (scan text.toList).2

/-! ### Parts of a text -/

def namePart (tokens : List Token) : List Token := tokens.takeWhile (· ≠ realmSign)

def realmPart? (tokens : List Token) : Option (List Token) :=
  match tokens.dropWhile (· ≠ realmSign) with
  | [] => none
  | _ :: after => some after

/-- The tokens before the first sign that cuts. -/
def firstPart (tokens : List Token) : List Token :=
  tokens.takeWhile fun t => t ≠ separator ∧ t ≠ realmSign

/-- The realm as it is written, or else the default one. -/
def realmText (fallback : Option String) (tokens : List Token) : String :=
  match realmPart? tokens with
  | some after => spelled after
  | none => fallback.getD ""

/-! ### The grammar -/

structure Accepted (fallback : Option String) (text : String) : Prop where
  nonempty : text ≠ ""
  closed : hasTrailingBackslash text = false
  single : (tokens text).count realmSign ≤ 1
  named : firstPart (tokens text) ≠ []
  hasRealm : (∃ after, realmPart? (tokens text) = some after ∧ after ≠ []) ∨
    realmSign ∉ tokens text ∧ ∃ realm, fallback = some realm ∧ realm ≠ ""

/-- What can be wrong with a text, in the order of report. -/
def complaints (fallback : Option String) (text : String) : List (Bool × String) :=
  [(text = "", "empty principal name"),
    (1 < (tokens text).count realmSign, "more than one realm separator"),
    (hasTrailingBackslash text, "trailing backslash"),
    (realmSign ∉ tokens text ∧ fallback.getD "" = "",
      "no realm given and no default realm configured"),
    (realmPart? (tokens text) = some [], "empty realm"),
    (firstPart (tokens text) = [], "empty name component")]

/-! ### Reading by tokens -/

/-- What a scan comes to: a value, unless there is a sign too many or a backslash left over. -/
def judged {α : Type} (again trailing : Bool) (value : α) : Except Fault α :=
  if again then .error .secondRealm else if trailing then .error .trailingBackslash else .ok value

theorem judged_map {α β : Type} (f : α → β) (again trailing : Bool) (value : α) :
    (judged again trailing value).map f = judged again trailing (f value) := by
  cases again <;> cases trailing <;> rfl

/-- A backslash starts a longer token or is the whole rest. -/
theorem not_backslash {c : Char} {rest : List Char} (alone : c = '\\' → rest = [] → False)
    (paired : ∀ d more, c = '\\' → rest = d :: more → False) : c ≠ '\\' := by
  intro backslash
  cases rest with
  | nil => exact alone backslash rfl
  | cons d more => exact paired d more backslash rfl

theorem readRealm_scan (chars : List Char) :
    readRealm chars = judged (realmSign ∈ (scan chars).1) (scan chars).2
      ((scan chars).1.map Token.meaning) := by
  fun_induction scan chars with
  | case1 => rfl
  | case2 => rfl
  | case3 c rest ih =>
    have other : realmSign ≠ .escaped c := nofun
    rw [readRealm, ih, judged_map, ← Token.meaning_escaped]
    simp [other]
  | case4 c rest alone paired ih =>
    have notBackslash := not_backslash alone paired
    by_cases sign : c = '@'
    · subst sign
      simp [readRealm, realmSign, judged]
    · have ordinary : c ∉ realmSpecials := by
        simp [realmSpecials, sign, notBackslash]
      have other : realmSign ≠ .plain c := by
        simpa [realmSign, eq_comm] using sign
      rw [readRealm_plain ordinary, ih, judged_map]
      simp [other, Token.meaning]

def meanings (tokens : List Token) : List Char := tokens.map Token.meaning

/-- The pieces into which tokens are cut. -/
def piecesOf (tokens : List Token) : Pieces where
  first := meanings (((namePart tokens).splitOn separator).headD [])
  others := ((namePart tokens).splitOn separator).tail.map meanings
  realm := (realmPart? tokens).map meanings

theorem piecesOf_realmSign (rest : List Token) :
    piecesOf (realmSign :: rest) = ⟨[], [], some (meanings rest)⟩ := by
  simp [piecesOf, namePart, realmPart?, meanings, List.splitOn]

theorem namePart_cons {t : Token} (notSign : t ≠ realmSign) (rest : List Token) :
    namePart (t :: rest) = t :: namePart rest := by
  simp [namePart, notSign]

theorem realmPart?_cons {t : Token} (notSign : t ≠ realmSign) (rest : List Token) :
    realmPart? (t :: rest) = realmPart? rest := by
  simp [realmPart?, notSign]

theorem piecesOf_separator (rest : List Token) :
    piecesOf (separator :: rest) = (piecesOf rest).cut := by
  have notSign : separator ≠ realmSign := by decide
  obtain ⟨first, others, cuts⟩ :=
    List.exists_cons_of_ne_nil (List.splitOnP_ne_nil (· == separator) (namePart rest))
  simp [piecesOf, namePart_cons notSign, realmPart?_cons notSign, List.splitOn,
    List.splitOnP_cons_eq_if_modifyHead, cuts, Pieces.cut, meanings]

theorem piecesOf_cons {t : Token} (notSeparator : t ≠ separator) (notSign : t ≠ realmSign)
    (rest : List Token) : piecesOf (t :: rest) = (piecesOf rest).push t.meaning := by
  obtain ⟨first, others, cuts⟩ :=
    List.exists_cons_of_ne_nil (List.splitOnP_ne_nil (· == separator) (namePart rest))
  simp [piecesOf, namePart_cons notSign, realmPart?_cons notSign, List.splitOn,
    List.splitOnP_cons_eq_if_modifyHead, cuts, notSeparator, Pieces.push, meanings]

theorem readPieces_scan (chars : List Char) :
    readPieces chars = judged (1 < (scan chars).1.count realmSign) (scan chars).2
      (piecesOf (scan chars).1) := by
  fun_induction scan chars with
  | case1 => rfl
  | case2 => rfl
  | case3 c rest ih =>
    have notSeparator : Token.escaped c ≠ separator := nofun
    have notSign : Token.escaped c ≠ realmSign := nofun
    rw [readPieces, ih, judged_map, piecesOf_cons notSeparator notSign, Token.meaning_escaped]
    simp [List.count_cons_of_ne notSign]
  | case4 c rest alone paired ih =>
    have notBackslash := not_backslash alone paired
    by_cases sign : c = '@'
    · subst sign
      change readPieces ('@' :: rest) = judged (1 < (realmSign :: (scan rest).1).count realmSign) _
        (piecesOf (realmSign :: (scan rest).1))
      rw [readPieces, readRealm_scan, judged_map, piecesOf_realmSign]
      simp [meanings]
    by_cases slash : c = '/'
    · subst slash
      change readPieces ('/' :: rest) = judged (1 < (separator :: (scan rest).1).count realmSign) _
        (piecesOf (separator :: (scan rest).1))
      have notSign : separator ≠ realmSign := by decide
      rw [readPieces, ih, judged_map, piecesOf_separator, List.count_cons_of_ne notSign]
    · have ordinary : c ∉ componentSpecials := by
        simp [componentSpecials, sign, slash, notBackslash]
      have notSeparator : Token.plain c ≠ separator := by simpa [separator] using slash
      have notSign : Token.plain c ≠ realmSign := by simpa [realmSign] using sign
      rw [readPieces_plain ordinary, ih, judged_map, piecesOf_cons notSeparator notSign,
        List.count_cons_of_ne notSign]
      rfl

/-! ### Parts and pieces -/

theorem firstPart_eq (tokens : List Token) :
    firstPart tokens = ((namePart tokens).splitOn separator).headD [] := by
  induction tokens with
  | nil => rfl
  | cons t rest ih =>
    by_cases sign : t = realmSign
    · simp [firstPart, namePart, sign, List.splitOn]
    · obtain ⟨first, others, cuts⟩ :=
        List.exists_cons_of_ne_nil (List.splitOnP_ne_nil (· == separator) (namePart rest))
      rw [namePart_cons sign]
      rw [List.splitOn, cuts] at ih
      by_cases slash : t = separator
      · simp [firstPart, slash, List.splitOn, List.splitOnP_cons_eq_if_modifyHead]
      · simp [firstPart, slash, sign, List.splitOn, List.splitOnP_cons_eq_if_modifyHead, cuts] at ih ⊢
        exact ih

theorem realmPart?_eq_none {tokens : List Token} : realmPart? tokens = none ↔ realmSign ∉ tokens := by
  induction tokens with
  | nil => simp [realmPart?]
  | cons t rest ih =>
    by_cases sign : t = realmSign
    · simp [realmPart?, sign]
    · rw [realmPart?_cons sign, ih]
      simp [Ne.symm sign]

/-! ### Whole texts -/

def nameComponents (tokens : List Token) : List String :=
  ((namePart tokens).splitOn separator).map spelled

theorem nameComponents_eq (tokens : List Token) :
    ((piecesOf tokens).first :: (piecesOf tokens).others).map String.ofList =
      nameComponents tokens := by
  obtain ⟨first, others, cuts⟩ :=
    List.exists_cons_of_ne_nil (List.splitOnP_ne_nil (· == separator) (namePart tokens))
  simp [piecesOf, nameComponents, List.splitOn, cuts, spelled, meanings]

section

variable (fallback : Option String) (text : String)

theorem chooseRealm_eq (tokens : List Token) :
    chooseRealm fallback (piecesOf tokens).realm =
      if realmSign ∉ tokens ∧ fallback.getD "" = "" then .error .noRealm
      else if realmPart? tokens = some [] then .error .emptyRealm
      else .ok (realmText fallback tokens) := by
  cases written : realmPart? tokens with
  | none =>
    have unsigned := realmPart?_eq_none.mp written
    cases fallback with
    | none => simp [piecesOf, written, chooseRealm, unsigned]
    | some realm =>
      by_cases blank : realm = ""
      · simp [piecesOf, written, chooseRealm, unsigned, blank]
      · simp [piecesOf, written, chooseRealm, unsigned, blank, realmText]
  | some after =>
    have signed : realmSign ∈ tokens := by
      apply Classical.byContradiction
      intro unsigned
      rw [realmPart?_eq_none.mpr unsigned] at written
      cases written
    cases after with
    | nil => simp [piecesOf, written, chooseRealm, signed, meanings]
    | cons t rest => simp [piecesOf, written, chooseRealm, signed, meanings, realmText, spelled]

/-- The faults of a text in the order in which they count, and what it stands for without any. -/
theorem parse_eq :
    parse fallback text =
      if text = "" then .error .emptyText
      else if 1 < (tokens text).count realmSign then .error .secondRealm
      else if hasTrailingBackslash text then .error .trailingBackslash
      else if realmSign ∉ tokens text ∧ fallback.getD "" = "" then .error .noRealm
      else if realmPart? (tokens text) = some [] then .error .emptyRealm
      else if firstPart (tokens text) = [] then .error .emptyName
      else .ok ⟨nameComponents (tokens text), realmText fallback (tokens text)⟩ := by
  have nameless : (piecesOf (tokens text)).first = [] ↔ firstPart (tokens text) = [] := by
    simp [piecesOf, firstPart_eq, meanings]
  unfold parse
  by_cases empty : text = ""
  · rw [if_pos empty, if_pos empty]
    rfl
  rw [if_neg empty, if_neg empty, readPieces_scan]
  change (judged (1 < (tokens text).count realmSign) (hasTrailingBackslash text)
    (piecesOf (tokens text))).bind _ = _
  by_cases again : 1 < (tokens text).count realmSign
  · simp [judged, again, Except.bind]
  by_cases trailing : hasTrailingBackslash text
  · simp [judged, again, trailing, Except.bind]
  simp only [judged, again, trailing, decide_false, Bool.false_eq_true, if_false, Except.bind]
  change (chooseRealm fallback (piecesOf (tokens text)).realm).bind _ = _
  rw [chooseRealm_eq]
  by_cases unnamed : realmSign ∉ tokens text ∧ fallback.getD "" = ""
  · rw [if_pos unnamed, if_pos unnamed]
    rfl
  by_cases blank : realmPart? (tokens text) = some []
  · rw [if_neg unnamed, if_neg unnamed, if_pos blank, if_pos blank]
    rfl
  rw [if_neg unnamed, if_neg unnamed, if_neg blank, if_neg blank, ← nameComponents_eq]
  by_cases anonymous : firstPart (tokens text) = []
  · simp [Except.bind, nameless, anonymous, bind, throw, throwThe, MonadExceptOf.throw]
  · simp [Except.bind, nameless, anonymous, pure, Except.pure]

variable {fallback text}

/-- A realm is written, or there is one to default to. -/
theorem hasRealm_iff :
    ((∃ after, realmPart? (tokens text) = some after ∧ after ≠ []) ∨
      realmSign ∉ tokens text ∧ ∃ realm, fallback = some realm ∧ realm ≠ "") ↔
    ¬ (realmSign ∉ tokens text ∧ fallback.getD "" = "") ∧ realmPart? (tokens text) ≠ some [] := by
  rw [← realmPart?_eq_none]
  cases realmPart? (tokens text) with
  | some after => simp
  | none => cases fallback <;> simp

theorem parse_accepted (accepted : Accepted fallback text) :
    parse fallback text =
      .ok ⟨nameComponents (tokens text), realmText fallback (tokens text)⟩ := by
  obtain ⟨nonempty, closed, single, named, hasRealm⟩ := accepted
  obtain ⟨found, filled⟩ := hasRealm_iff.mp hasRealm
  have unspoilt : ¬ hasTrailingBackslash text = true := by simp [closed]
  rw [parse_eq, if_neg nonempty, if_neg (Nat.not_lt.mpr single), if_neg unspoilt, if_neg found,
    if_neg filled, if_neg named]

theorem parse_refused (refused : ¬ Accepted fallback text) :
    ∃ why, parse fallback text = .error why ∧
      (complaints fallback text).find? (·.1) = some (true, why.message) := by
  rw [parse_eq]
  split
  · next empty => exact ⟨_, rfl, by simp [complaints, empty, Fault.message]⟩
  next nonempty =>
  split
  · next again => exact ⟨_, rfl, by simp [complaints, nonempty, again, Fault.message]⟩
  next single =>
  split
  · next trailing => exact ⟨_, rfl, by simp [complaints, nonempty, single, trailing, Fault.message]⟩
  next closed =>
  split
  · next unnamed =>
    exact ⟨_, rfl, by simp [complaints, nonempty, single, closed, unnamed, Fault.message]⟩
  next found =>
  split
  · next blank =>
    exact ⟨_, rfl, by simp [complaints, nonempty, single, closed, found, blank, Fault.message]⟩
  next filled =>
  split
  · next anonymous =>
    exact ⟨_, rfl, by
      simp [complaints, nonempty, single, closed, found, filled, anonymous, Fault.message]⟩
  next named =>
    refine (refused ⟨nonempty, ?_, Nat.not_lt.mp single, named, hasRealm_iff.mpr ⟨found, filled⟩⟩).elim
    simpa using closed

end

/-- A text is read exactly if the grammar accepts it. Its tokens before the sign `@` are the
components, cut at the sign `/`, and those after it are the realm, or else the default realm is. For
any other text the failure carries the text and the reason that comes first among its complaints. -/
theorem parse_grammar (fallback : Option String) (text : String) :
    ((∃ p, parse fallback text = .ok p) ↔ Accepted fallback text) ∧
    (∀ p, parse fallback text = .ok p →
      p.components = ((namePart (tokens text)).splitOn separator).map spelled ∧
      p.realm = realmText fallback (tokens text)) ∧
    (¬ Accepted fallback text → ∃ why,
      (complaints fallback text).find? (·.1) = some (true, why.message) ∧
      ∀ {σ : Type} (site : Site σ), (resolve fallback text).run site =
        (.error (.failure (.badPrincipal text why)), site)) := by
  refine ⟨⟨?_, fun accepted => ⟨_, parse_accepted accepted⟩⟩, ?_, ?_⟩
  · rintro ⟨p, parsed⟩
    apply Classical.byContradiction
    intro refused
    obtain ⟨why, failed, -⟩ := parse_refused refused
    rw [failed] at parsed
    cases parsed
  · intro p parsed
    by_cases accepted : Accepted fallback text
    · rw [parse_accepted accepted] at parsed
      cases parsed
      exact ⟨rfl, rfl⟩
    · obtain ⟨why, failed, -⟩ := parse_refused accepted
      rw [failed] at parsed
      cases parsed
  · intro refused
    obtain ⟨why, failed, first⟩ := parse_refused refused
    refine ⟨why, first, fun site => ?_⟩
    rw [resolve, failed]
    rfl

/-- An escaped separator is part of a name, and a slash is part of a realm. Of a text with a second
sign, a backslash at its end and no name, the sign is reported. -/
theorem parse_grammar_precedence :
    (∀ p, parse none "a\\/b/\\n@R/S" = .ok p → p.components = ["a/b", "\n"] ∧ p.realm = "R/S") ∧
      (∃ p, parse none "a\\/b/\\n@R/S" = .ok p) ∧
      ∃ why, (resolve none "/@@\\").run (Site.start (.empty []) ()) =
        (.error (.failure (.badPrincipal "/@@\\" why)), Site.start (.empty []) ()) ∧
        why.message = "more than one realm separator" := by
  have accepted : Accepted none "a\\/b/\\n@R/S" :=
    ⟨by decide, by decide, by decide, by decide, .inl ⟨[.plain 'R', .plain '/', .plain 'S'], by decide⟩⟩
  have refused : ¬ Accepted none "/@@\\" := fun accepted => absurd accepted.single (by decide)
  refine ⟨fun p parsed => ?_, (parse_grammar none _).1.mpr accepted, ?_⟩
  · exact (parse_grammar none _).2.1 p parsed
  · obtain ⟨why, first, failed⟩ := (parse_grammar none _).2.2 refused
    refine ⟨why, failed _, ?_⟩
    have reported : (complaints none "/@@\\").find? (·.1) =
        some (true, "more than one realm separator") := by decide
    rw [reported] at first
    injection first with same
    injection same with _ text
    exact text.symm

end AccountSync.Principal
