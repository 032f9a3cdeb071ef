import AccountSync.Proofs.Principal.Grammar

/-!
# Default realms

A default realm stands for itself written out, and counts only where no realm is written
(`parse_default_realm`).
-/

namespace AccountSync.Principal

open Token (realmSign)

/-- How a character of a realm is written: as an escape, if it would end the realm, would start an
escape or cannot be seen. -/
def realmEscape : Char → List Char
  | '@' => ['\\', '@']
  | '\\' => ['\\', '\\']
  | '\n' => ['\\', 'n']
  | '\t' => ['\\', 't']
  | '\x08' => ['\\', 'b']
  | '\x00' => ['\\', '0']
  | c => [c]

theorem quoteChar_realm (c : Char) : quoteChar realmSpecials c = realmEscape c := by
  unfold realmEscape
  split
  all_goals try rfl
  next sign backslash lineFeed tab backspace nul =>
    have bare : symbol? c = none := by
      unfold symbol?
      split
      · exact (lineFeed rfl).elim
      · exact (tab rfl).elim
      · exact (backspace rfl).elim
      · exact (nul rfl).elim
      · rfl
    have plain : c ∉ realmSpecials := by
      simp only [realmSpecials, List.mem_cons, List.not_mem_nil, or_false, not_or]
      exact ⟨sign, backslash⟩
    simp [quoteChar, bare, plain]

theorem toList_quoteRealm (realm : String) :
    (quoteRealm realm).toList = realm.toList.flatMap realmEscape := by
  rw [quoteRealm, String.toList_ofList, quote, funext quoteChar_realm]

/-! ### A realm after a name -/

def Pieces.withRealm (realm : List Char) (p : Pieces) : Pieces := { p with realm := some realm }

/-- What was read of a name without a realm was read on from a part of it. -/
theorem map_unsigned {x : Except Fault Pieces} {f : Pieces → Pieces} {pieces : Pieces}
    (read : x.map f = .ok pieces) (keeps : ∀ p, (f p).realm = p.realm) (unsigned : pieces.realm = none) :
    ∃ part, x = .ok part ∧ f part = pieces ∧ part.realm = none := by
  cases x with
  | error why => cases read
  | ok part =>
    cases read
    exact ⟨part, rfl, rfl, (keeps part).symm.trans unsigned⟩

/-- By induction on the name, at the end of which no escape is left open. -/
theorem readPieces_realm {name : List Char} {pieces : Pieces} (read : readPieces name = .ok pieces)
    (unsigned : pieces.realm = none) (realm : List Char) :
    readPieces (name ++ '@' :: quote realmSpecials realm) = .ok (pieces.withRealm realm) := by
  fun_induction readPieces name generalizing pieces with
  | case1 =>
    cases read
    rw [List.nil_append, readPieces, readRealm_quote]
    rfl
  | case2 => cases read
  | case3 c rest ih =>
    obtain ⟨part, first, rfl, without⟩ := map_unsigned read (fun _ => rfl) unsigned
    rw [List.cons_append, List.cons_append, readPieces, ih first without]
    rfl
  | case4 rest =>
    cases realm : readRealm rest with
    | error why =>
      rw [realm] at read
      cases read
    | ok text =>
      rw [realm] at read
      cases read
      cases unsigned
  | case5 rest ih =>
    obtain ⟨part, first, rfl, without⟩ := map_unsigned read (fun _ => rfl) unsigned
    rw [List.cons_append, readPieces, ih first without]
    rfl
  | case6 c rest alone paired sign slash ih =>
    obtain ⟨part, first, rfl, without⟩ := map_unsigned read (fun _ => rfl) unsigned
    have plain : c ∉ componentSpecials := by
      simp only [componentSpecials, List.mem_cons, List.not_mem_nil, or_false, not_or]
      exact ⟨slash, sign, not_backslash alone paired⟩
    rw [List.cons_append, readPieces_plain plain, ih first without]
    rfl

theorem readPieces_unsigned {text : String} (unsigned : realmSign ∉ tokens text) {pieces : Pieces}
    (read : readPieces text.toList = .ok pieces) : pieces.realm = none := by
  rw [readPieces_scan, judged] at read
  split at read
  · cases read
  split at read
  · cases read
  cases read
  rw [piecesOf, Option.map_eq_none_iff]
  exact realmPart?_eq_none.mpr unsigned

theorem chooseRealm_default {realm chosen : String} (chooses : chooseRealm (some realm) none = .ok chosen) :
    chosen = realm ∧ realm ≠ "" := by
  by_cases blank : realm = ""
  · simp [chooseRealm, blank] at chooses
  · simp only [chooseRealm, blank, if_false] at chooses
    cases chooses
    exact ⟨rfl, blank⟩

theorem chooseRealm_written {realm : String} (filled : realm ≠ "") (fallback : Option String) :
    chooseRealm fallback (some realm.toList) = .ok realm := by
  cases chars : realm.toList with
  | nil => exact (filled (String.toList_eq_nil_iff.mp chars)).elim
  | cons c rest => simp [chooseRealm, ← chars]

/-- What is read under a default realm is read from the same text with the realm written after it. -/
theorem parse_written {text realm : String} {p : Principal} (unsigned : realmSign ∉ tokens text)
    (parsed : parse (some realm) text = .ok p) (other : Option String) :
    parse other (text ++ "@" ++ quoteRealm realm) = .ok p := by
  obtain ⟨nonempty, pieces, chosen, read, chooses, named, rfl⟩ := parse_ok_iff.mp parsed
  have bare := readPieces_unsigned unsigned read
  have spelled : (text ++ "@" ++ quoteRealm realm).toList =
      text.toList ++ '@' :: quote realmSpecials realm.toList := by
    simp [quoteRealm]
  have written := readPieces_realm read bare realm.toList
  rw [← spelled] at written
  have filled : text ++ "@" ++ quoteRealm realm ≠ "" := by
    intro blank
    rw [blank] at spelled
    simp at spelled
  rw [bare] at chooses
  obtain ⟨rfl, hasRealm⟩ := chooseRealm_default chooses
  exact parse_ok_iff.mpr ⟨filled, _, chosen, written, chooseRealm_written hasRealm other, named, rfl⟩

/-- The realm that a text writes leaves no room for a default. -/
theorem parse_signed {text : String} (signed : realmSign ∈ tokens text)
    (fallback other : Option String) : parse fallback text = parse other text := by
  have named (realm : Option String) : ¬ (realmSign ∉ tokens text ∧ realm.getD "" = "") :=
    fun none => none.1 signed
  have own : realmText fallback (tokens text) = realmText other (tokens text) := by
    unfold realmText
    cases written : realmPart? (tokens text) with
    | none => exact (realmPart?_eq_none.mp written signed).elim
    | some after => rfl
  rw [parse_eq, parse_eq, if_neg (named fallback), if_neg (named other), own]

/-- A text that is read under a default realm is read as the same principal under every one, if that realm
is written after it, each sign, backslash and control character as an escape. A text with a realm of
its own is read, or refused for the same reason, under every default realm and without one. -/
theorem parse_default_realm :
    (∀ (text realm : String) (p : Principal), realmSign ∉ tokens text →
      parse (some realm) text = .ok p →
      ∀ other, parse other (text ++ "@" ++ .ofList (realm.toList.flatMap realmEscape)) = .ok p) ∧
    ∀ text, realmSign ∈ tokens text →
      ∀ fallback other, parse fallback text = parse other text := by
  refine ⟨fun text realm p unsigned parsed other => ?_, fun text => parse_signed⟩
  have escaped : String.ofList (realm.toList.flatMap realmEscape) = quoteRealm realm := by
    rw [← toList_quoteRealm, String.ofList_toList]
  rw [escaped]
  exact parse_written unsigned parsed other

/-- A default realm of all that needs an escape, with a slash, after a name that ends in an escape. -/
theorem parse_default_realm_escaped :
    let p : Principal := ⟨["u", "\\"], "A/@\\\n"⟩
    realmSign ∉ tokens "u/\\\\" ∧ parse (some "A/@\\\n") "u/\\\\" = .ok p ∧
      (∀ other, parse other "u/\\\\@A/\\@\\\\\\n" = .ok p) ∧
      realmSign ∈ tokens "u@" ∧ parse (some "R") "u@" = parse none "u@" := by
  intro p
  have unsigned : realmSign ∉ tokens "u/\\\\" := by decide
  have parsed : parse (some "A/@\\\n") "u/\\\\" = .ok p := rfl
  have written := parse_default_realm.1 _ _ p unsigned parsed
  have spelled : "u/\\\\" ++ "@" ++ .ofList ("A/@\\\n".toList.flatMap realmEscape) =
      "u/\\\\@A/\\@\\\\\\n" := by decide
  rw [spelled] at written
  have signed : realmSign ∈ tokens "u@" := by decide
  exact ⟨unsigned, parsed, written, signed, parse_default_realm.2 "u@" signed (some "R") none⟩

end AccountSync.Principal
