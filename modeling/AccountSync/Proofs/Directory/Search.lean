import AccountSync.Proofs.Directory.FilterForm
import AccountSync.Proofs.Directory.Machine

/-!
# A name in a filter is no more than a name

Codes put in one after the other make the same text as all put in at once (`inTurn_eq_escape`).
Whatever a name is, the search for it is an equality match on its octets, and no other name has the
same search (`search_of_name`).
-/

namespace AccountSync.Directory

/-! ### Codes in turn -/

/-- A character of a text replaced by its code, and nothing else changed. -/
def replaced (text : List Char) (entry : Char × List Char) : List Char :=
  text.flatMap fun c => if c = entry.1 then entry.2 else [c]

/-- The characters with codes, in the order in which they are replaced. -/
def codes : List (Char × List Char) :=
  [('\\', ['\\', '5', 'c']), ('*', ['\\', '2', 'a']), ('(', ['\\', '2', '8']),
    (')', ['\\', '2', '9']), ('\x00', ['\\', '0', '0'])]

/-- A name with one character replaced after the other, each in what the one before it left. -/
def inTurn (name : String) : String := .ofList (codes.foldl replaced name.toList)

theorem foldl_replaced (table : List (Char × List Char)) (text : List Char) :
    table.foldl replaced text = text.flatMap fun c => table.foldl replaced [c] := by
  induction table generalizing text with
  | nil => exact (List.flatMap_singleton' text).symm
  | cons entry rest ih =>
    rw [List.foldl_cons, ih, replaced, List.flatMap_assoc]
    congr 1
    funext c
    rw [List.foldl_cons, ih (replaced [c] entry), replaced, List.flatMap_singleton]

/-- No code has a character that is replaced after it. -/
theorem foldl_replaced_codes (c : Char) : codes.foldl replaced [c] = escapeChar c := by
  by_cases backslash : c = '\\'
  · rw [backslash]
    decide
  by_cases star : c = '*'
  · rw [star]
    decide
  by_cases opening : c = '('
  · rw [opening]
    decide
  by_cases closing : c = ')'
  · rw [closing]
    decide
  by_cases nul : c = '\x00'
  · rw [nul]
    decide
  · simp [codes, replaced, escapeChar, backslash, star, opening, closing, nul]

theorem inTurn_eq_escape (name : String) : inTurn name = escape name := by
  rw [inTurn, foldl_replaced]
  simp only [foldl_replaced_codes]
  rfl

/-! ### What a name is written as -/

theorem escapeChar_codes (c : Char) :
    (c, escapeChar c) ∈ codes ∨ escapeChar c = [c] ∧ c ∉ reserved := by
  by_cases backslash : c = '\\'
  · exact .inl (backslash ▸ by decide)
  by_cases star : c = '*'
  · exact .inl (star ▸ by decide)
  by_cases opening : c = '('
  · exact .inl (opening ▸ by decide)
  by_cases closing : c = ')'
  · exact .inl (closing ▸ by decide)
  by_cases nul : c = '\x00'
  · exact .inl (nul ▸ by decide)
  · exact .inr (by simp [escapeChar, reserved, backslash, star, opening, closing, nul])

/-- Every backslash begins a code. -/
theorem codes_of_backslash {name before after : List Char}
    (parts : name.flatMap escapeChar = before ++ '\\' :: after) :
    ∃ entry ∈ codes, entry.2 <+: '\\' :: after := by
  induction name generalizing before with
  | nil => simp at parts
  | cons c rest ih =>
    rw [List.flatMap_cons, List.append_eq_append_iff] at parts
    rcases parts with ⟨more, _, later⟩ | ⟨more, first, here⟩
    · exact ih later
    · cases more with
      | nil =>
        have tail : rest.flatMap escapeChar = [] ++ '\\' :: after := here.symm
        exact ih tail
      | cons d digits =>
        obtain ⟨rfl, follows⟩ := List.cons.inj here
        rcases escapeChar_codes c with among | ⟨written, plain⟩
        · -- a code has no other backslash, so this one is its first character
          have once : ∀ entry ∈ codes, '\\' ∉ entry.2.tail := by decide
          cases before with
          | nil => exact ⟨_, among, rest.flatMap escapeChar, by rw [first, here]; rfl⟩
          | cons e before =>
            exact (once _ among (by simp [first])).elim
        · have only : '\\' ∈ [c] := by simp [← written, first]
          exact (plain (List.mem_singleton.mp only ▸ by decide)).elim

/-- What a character is written as stands for the octets of the character. -/
theorem octets?_escapeChar (c : Char) (rest : List Char) :
    octets? (escapeChar c ++ rest) = (octets? rest).map (Utf8.encodeChar c ++ ·) := by
  rcases escapeChar_codes c with among | ⟨written, plain⟩
  · simp only [codes, List.mem_cons, Prod.mk.injEq, List.not_mem_nil, or_false] at among
    rcases among with ⟨rfl, -⟩ | ⟨rfl, -⟩ | ⟨rfl, -⟩ | ⟨rfl, -⟩ | ⟨rfl, -⟩ <;> rfl
  · rw [written, List.singleton_append, octets?, if_neg plain]
    rintro _ _ _ rfl
    exact (plain (by decide)).elim

theorem octets?_escape (name : String) :
    octets? (escape name).toList = some (Utf8.encode name) := by
  rw [escape, String.toList_ofList, Utf8.encode]
  induction name.toList with
  | nil => rfl
  | cons c rest ih =>
    rw [List.flatMap_cons, octets?_escapeChar, ih]
    rfl

/-! ### The search -/

def Operation.filter? : Operation → Option String
  | .search _ filter => some filter
  | _ => none

/-- The filters of the searches that an answer takes. -/
def Config.filters (config : Config) (ask : Ask) (site : Site Connection) : List String :=
  (((config.answer ask).run site).2.peer.operations.drop
    site.peer.operations.length).filterMap Operation.filter?

section

variable (config : Config) (ask : Ask) (site : Site Connection)

/-- A change itself searches for nothing. -/
theorem operations_proceed (name : String) (dn : Value) (flags : Int) :
    ∃ writes, ((config.proceed ask name dn flags).run site).2.peer.operations =
      site.peer.operations ++ writes ∧ writes.filterMap Operation.filter? = [] := by
  cases ask with
  | password principal text => exact ⟨_, operations_apply config site _, rfl⟩
  | status principal enabled =>
    rw [proceed_status]
    by_cases same : toggled enabled flags = flags
    · rw [if_pos same]
      exact ⟨[], (List.append_nil _).symm, rfl⟩
    · rw [if_neg same]
      cases numeral : Value.writeInteger (toggled enabled flags) with
      | ok text =>
        rw [run_readable_bind rfl]
        exact ⟨_, operations_apply config site _, rfl⟩
      | error fault => exact ⟨[], (List.append_nil _).symm, rfl⟩

variable {config ask}

theorem filters_unmapped (unmapped : accountName? config.baseInstance ask.principal = none) :
    config.filters ask site = [] := by
  rw [← account?_eq] at unmapped
  rw [Config.filters, answer_eq, run_withUser_unmapped unmapped, List.drop_length]
  rfl

theorem filters_mapped {name : String}
    (mapped : accountName? config.baseInstance ask.principal = some name) :
    config.filters ask site = [userFilter name] := by
  rw [← account?_eq] at mapped
  have searched := operations_findUser config site name
  rw [Config.filters, answer_eq, Config.withUser, mapped]
  dsimp only
  rw [Act.run_bind]
  generalize (config.findUser name).run site = ran at searched
  obtain ⟨found, after⟩ := ran
  have ends {operations writes : List Operation} (none : writes.filterMap Operation.filter? = [])
      (whole : operations = site.peer.operations ++
        [.search config.baseDn (userFilter name)] ++ writes) :
      (operations.drop site.peer.operations.length).filterMap Operation.filter? =
        [userFilter name] := by
    rw [whole, List.append_assoc, List.drop_left, List.filterMap_append, none]
    rfl
  cases found with
  | error fault => exact ends rfl (searched.trans (List.append_nil _).symm)
  | ok result =>
    cases result with
    | error answer => exact ends rfl (searched.trans (List.append_nil _).symm)
    | ok entry =>
      obtain ⟨writes, asked, none⟩ := operations_proceed config ask after name entry.1 entry.2
      rw [show after.peer.operations = _ from searched] at asked
      exact ends none asked

end

theorem toList_userFilter (name : String) :
    (userFilter name).toList = enclosed ('&' ::
      (enclosed ("objectClass".toList ++ '=' :: "user".toList) ++
        (enclosed ("sAMAccountName".toList ++ '=' :: (escape name).toList) ++ []))) := by
  have start : "(&(objectClass=user)(sAMAccountName=".toList =
      '(' :: '&' :: (enclosed ("objectClass".toList ++ '=' :: "user".toList) ++
        '(' :: ("sAMAccountName".toList ++ ['='])) := rfl
  unfold userFilter matching
  rw [String.toList_append, String.toList_append, start]
  simp only [enclosed, List.append_assoc, List.cons_append, List.nil_append]
  rfl

/-- Whatever an account name is, the filter of its search has its value where the name stands, and
that value brings no asterisk, parenthesis or NUL and no backslash but before a code. With the
characters for their codes it is the name again. Only the same name has the same search, and the
filter can only be read as two equality matches, of the object class and of the octets of the
name. -/
theorem search_of_name (config : Config) {ask : Ask} {name : String}
    (mapped : accountName? config.baseInstance ask.principal = some name) (site : Site Connection) :
    let value := inTurn name
    let filter := "(&(objectClass=user)(sAMAccountName=" ++ value ++ "))"
    config.filters ask site = [filter] ∧
      (∀ c ∈ value.toList, c ∉ ['*', '(', ')', '\x00']) ∧
      (∀ before after, value.toList = before ++ '\\' :: after →
        ∃ entry ∈ codes, entry.2 <+: '\\' :: after) ∧
      unescape value.toList = name.toList ∧
      (∀ other now, config.filters other now = [filter] ↔
        accountName? config.baseInstance other.principal = some name) ∧
      ∀ reading, Form reading filter.toList ↔ reading = .all [
        .compare .equal "objectClass" (Utf8.encode "user"),
        .compare .equal "sAMAccountName" (Utf8.encode name)] := by
  intro value filter
  have written : value = escape name := inTurn_eq_escape name
  have sent : filter = userFilter name := by
    rw [userFilter, ← written]
    rfl
  rw [sent, written]
  have octets := octets?_escape name
  refine ⟨filters_mapped site mapped, ?_, ?_, ?_, ?_, ?_⟩
  · intro c member special
    have bare := not_reserved_of_octets octets c member
    simp only [List.mem_cons, List.not_mem_nil, or_false] at special
    rcases special with rfl | rfl | rfl | rfl <;> cases bare (by decide)
  · intro before after parts
    rw [escape, String.toList_ofList] at parts
    exact codes_of_backslash parts
  · rw [escape, String.toList_ofList]
    exact unescape_escape _
  · intro other now
    cases known : accountName? config.baseInstance other.principal with
    | none => simp [filters_unmapped now known]
    | some second =>
      rw [filters_mapped now known, List.singleton_inj, userFilter_inj, Option.some_inj]
  · intro reading
    rw [toList_userFilter, form_all_iff]
    have kind : IsName "objectClass" := by decide +kernel
    have account : IsName "sAMAccountName" := by decide +kernel
    have user : octets? "user".toList = some (Utf8.encode "user") := by decide +kernel
    constructor
    · rintro ⟨parts, rfl, each⟩
      obtain ⟨others, rfl, rest⟩ := (formAll_equal_iff kind user).mp each
      obtain ⟨last, rfl, none⟩ := (formAll_equal_iff account octets).mp rest
      rw [formAll_nil_iff.mp none]
    · rintro rfl
      exact ⟨_, rfl, (formAll_equal_iff kind user).mpr
        ⟨_, rfl, (formAll_equal_iff account octets).mpr ⟨_, rfl, .nil⟩⟩⟩

/-- The name has an asterisk, the end of a filter, the text of a code and a NUL, and its principal
has them escaped. -/
theorem search_of_name_hostile :
    let config : Config := ⟨"DC=example", none, 64⟩
    let principal : Principal := ⟨["*)(\\2a\x00"], "R"⟩
    let site := Site.start (.empty []) (Connection.start [])
    Principal.parse none "*)(\\\\2a\\0@R" = .ok principal ∧
      accountName? config.baseInstance principal = some "*)(\\2a\x00" ∧
      config.filters (.status principal false) site =
        ["(&(objectClass=user)(sAMAccountName=\\2a\\29\\28\\5c2a\\00))"] ∧
      ¬ config.filters (.password ⟨["*"], "R"⟩ "") site =
        ["(&(objectClass=user)(sAMAccountName=\\2a\\29\\28\\5c2a\\00))"] := by
  intro config principal site
  let ask : Ask := .status principal false
  have mapped : accountName? config.baseInstance ask.principal = some "*)(\\2a\x00" := by decide
  obtain ⟨sent, -, -, -, others, -⟩ := search_of_name config mapped site
  refine ⟨by decide, mapped, sent, ?_⟩
  intro same
  have clash := (others (.password ⟨["*"], "R"⟩ "") site).mp same
  revert clash
  decide

end AccountSync.Directory
