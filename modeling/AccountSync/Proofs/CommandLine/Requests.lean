import AccountSync.Proofs.CommandLine.Commands

/-!
# Requests as command lines

A request can be written as a line in several ways: its options in either order or in one cluster,
the password attached or not, the user after `--` or, if it does not look like an option, anywhere.
All of them are read as the same request (`parse_arranged`).
-/

namespace AccountSync.CommandLine

/-! ### Rows of options -/

/-- Words that belong together, and the flags of all of them. -/
inductive Row (optionsFirst : Bool) : List (List String) → List Flag → Prop where
  | nil : Row optionsFirst [] []
  | cons {group groups flags others} (first : Item optionsFirst group ⟨flags, []⟩)
    (rest : Row optionsFirst groups others) : Row optionsFirst (group :: groups) (flags ++ others)

namespace Row

variable {optionsFirst : Bool} {groups : List (List String)} {flags : List Flag}

theorem single {group : List String} (item : Item optionsFirst group ⟨flags, []⟩) :
    Row optionsFirst [group] flags := by
  rw [← List.append_nil flags]
  exact .cons item .nil

theorem reads (row : Row optionsFirst groups flags) {words : List String} {r : Reading}
    (rest : Reads optionsFirst words (.ok r)) :
    Reads optionsFirst (groups.flatten ++ words) (.ok (r.addFlags flags)) := by
  induction row with
  | nil => exact rest
  | @cons group groups flags others first _ ih =>
    have joined : Reads optionsFirst (group ++ (groups.flatten ++ words))
        (.ok ((r.addFlags others).addFlags flags)) := .item first ih
    rw [List.flatten_cons, List.append_assoc]
    simpa [Reading.addFlags] using joined

theorem split (row : Row optionsFirst groups flags) {before after : List (List String)}
    (cut : groups = before ++ after) :
    ∃ first second, Row optionsFirst before first ∧ Row optionsFirst after second ∧
      flags = first ++ second := by
  induction row generalizing before with
  | nil =>
    obtain ⟨rfl, rfl⟩ := List.append_eq_nil_iff.mp cut.symm
    exact ⟨[], [], .nil, .nil, rfl⟩
  | @cons group groups flags others first rest ih =>
    cases before with
    | nil =>
      subst cut
      exact ⟨[], _, .nil, .cons first rest, rfl⟩
    | cons head before =>
      cases cut
      obtain ⟨front, second, row, row', rfl⟩ := ih rfl
      exact ⟨flags ++ front, second, .cons first row, row', (List.append_assoc _ _ _).symm⟩

theorem reads_separated (row : Row optionsFirst groups flags) (user : String) :
    Reads optionsFirst (groups.flatten ++ ["--", user]) (.ok ⟨flags, [user]⟩) := by
  have ended : Reads optionsFirst ["--", user] (.ok ⟨[], [user]⟩) := .ending (.separator [user])
  simpa [Reading.addFlags] using row.reads ended

/-- Where options may follow users, a user can stand anywhere between them. -/
theorem reads_among (row : Row false groups flags) {user : String} (isUser : IsUser user)
    {before after : List (List String)} (cut : groups = before ++ after) :
    Reads false (before.flatten ++ user :: after.flatten) (.ok ⟨flags, [user]⟩) := by
  obtain ⟨first, second, front, back, rfl⟩ := row.split cut
  have ended : Reads false [] (.ok ⟨[], []⟩) := .ending .nothing
  have tail := back.reads ended
  have inner : Reads false ([user] ++ (after.flatten ++ [])) (.ok ⟨second, [user]⟩) := by
    simpa [Reading.addFlags, Reading.append, Except.map] using Reads.item (.user rfl isUser) tail
  simpa [Reading.addFlags] using front.reads inner

end Row

/-! ### Options of a request -/

def statusFlag (enabled : Bool) : Flag := if enabled then .enable else .disable

def statusLetter (enabled : Bool) : Char := if enabled then 'e' else 'd'

/-- The options of a request, in groups of words that belong together. -/
inductive Arranged : Option Password → Option Bool → List (List String) → Prop where
  | password (secret : Password) (spelling : Spelling) :
    Arranged (some secret) none [passwordWords [] secret.text spelling]
  | status (enabled : Bool) : Arranged none (some enabled) [[.ofList ['-', statusLetter enabled]]]
  | passwordFirst (secret : Password) (spelling : Spelling) (enabled : Bool) :
    Arranged (some secret) (some enabled)
      [passwordWords [] secret.text spelling, [.ofList ['-', statusLetter enabled]]]
  | statusFirst (secret : Password) (spelling : Spelling) (enabled : Bool) :
    Arranged (some secret) (some enabled)
      [[.ofList ['-', statusLetter enabled]], passwordWords [] secret.text spelling]
  | clustered (secret : Password) (spelling : Spelling) (enabled : Bool) :
    Arranged (some secret) (some enabled)
      [passwordWords [statusLetter enabled] secret.text spelling]

theorem plain_statusLetter (enabled : Bool) : Plain [statusLetter enabled] := by
  cases enabled with
  | false => exact List.forall_mem_singleton.mpr (.inl rfl)
  | true => exact List.forall_mem_singleton.mpr (.inr rfl)

theorem statusFlags_statusLetter (enabled : Bool) :
    statusFlags [statusLetter enabled] = [statusFlag enabled] := by
  cases enabled with
  | false => rfl
  | true => rfl

section

variable {optionsFirst : Bool}

theorem item_status (enabled : Bool) :
    Item optionsFirst [.ofList ['-', statusLetter enabled]] ⟨[statusFlag enabled], []⟩ := by
  rw [← statusFlags_statusLetter]
  exact .plain (List.cons_ne_nil _ _) (plain_statusLetter enabled)

theorem item_password {letters : List Char} (plain : Plain letters) (secret : Password)
    (spelling : Spelling) :
    Item optionsFirst (passwordWords letters secret.text spelling)
      ⟨statusFlags letters ++ [.valued .password secret.text], []⟩ := by
  rw [passwordWords_eq]
  exact .valued plain .password spelling fun _ => secret.nonempty

/-- The flags of a request, in the order of its options. -/
inductive Flagged : Option Password → Option Bool → List Flag → Prop where
  | password (secret : Password) : Flagged (some secret) none [.valued .password secret.text]
  | status (enabled : Bool) : Flagged none (some enabled) [statusFlag enabled]
  | passwordFirst (secret : Password) (enabled : Bool) :
    Flagged (some secret) (some enabled) [.valued .password secret.text, statusFlag enabled]
  | statusFirst (secret : Password) (enabled : Bool) :
    Flagged (some secret) (some enabled) [statusFlag enabled, .valued .password secret.text]

variable {secret : Option Password} {enabled : Option Bool} {groups : List (List String)}

theorem Arranged.row (arranged : Arranged secret enabled groups) :
    ∃ flags, Flagged secret enabled flags ∧ ∀ optionsFirst, Row optionsFirst groups flags := by
  cases arranged with
  | password secret spelling =>
    exact ⟨_, .password secret, fun _ => .single (item_password (List.forall_mem_nil _) secret spelling)⟩
  | status enabled => exact ⟨_, .status enabled, fun _ => .single (item_status enabled)⟩
  | passwordFirst secret spelling enabled =>
    refine ⟨_, .passwordFirst secret enabled, fun _ => ?_⟩
    exact .cons (item_password (List.forall_mem_nil _) secret spelling) (.single (item_status enabled))
  | statusFirst secret spelling enabled =>
    refine ⟨_, .statusFirst secret enabled, fun _ => ?_⟩
    exact .cons (item_status enabled) (.single (item_password (List.forall_mem_nil _) secret spelling))
  | clustered secret spelling enabled =>
    refine ⟨_, .statusFirst secret enabled, fun optionsFirst => .single ?_⟩
    have item : Item optionsFirst _ _ :=
      item_password (plain_statusLetter enabled) secret spelling
    rw [statusFlags_statusLetter] at item
    exact item

theorem ne_statusFlag (option : Valued) (value : String) (enabled : Bool) :
    .valued option value ≠ statusFlag enabled := by
  cases enabled with
  | false => exact Flag.noConfusion
  | true => exact Flag.noConfusion

theorem Flagged.asks {flags : List Flag} (flagged : Flagged secret enabled flags) (user : String) :
    (⟨flags, [user]⟩ : Reading).Asks user secret enabled := by
  cases flagged with
  | password secret =>
    refine ⟨?_, rfl, ⟨[], [], rfl, fun _ => List.not_mem_nil⟩, ?_, ?_, .inr (.inr ⟨secret.text, ?_⟩)⟩
    all_goals simp [Reading.Gives]
  | status enabled =>
    refine ⟨?_, rfl, ?_, ?_, ?_, ?_⟩
    · simp [Reading.Gives, ne_statusFlag]
    · simp [Reading.Gives, ne_statusFlag]
    · cases enabled <;> simp [statusFlag]
    · cases enabled <;> simp [statusFlag]
    · cases enabled <;> simp [statusFlag, Reading.Acts]
  | passwordFirst secret enabled =>
    refine ⟨?_, rfl, ⟨[], _, rfl, ?_⟩, ?_, ?_, .inr (.inr ⟨secret.text, List.mem_cons_self⟩)⟩
    · simp [Reading.Gives, ne_statusFlag]
    · simp [ne_statusFlag]
    · cases enabled <;> simp [statusFlag]
    · cases enabled <;> simp [statusFlag]
  | statusFirst secret enabled =>
    refine ⟨?_, rfl, ⟨[statusFlag enabled], [], rfl, fun _ => List.not_mem_nil⟩, ?_, ?_, ?_⟩
    · simp [Reading.Gives, ne_statusFlag]
    · cases enabled <;> simp [statusFlag]
    · cases enabled <;> simp [statusFlag]
    · exact .inr (.inr ⟨secret.text, by simp⟩)

end

/-- A request comes out of every line that is made for it. After `--` the user is any text; where
options may follow users, a user that does not look like an option may stand anywhere else. A file is
any text, too. -/
theorem parse_arranged :
    (∀ optionsFirst file, parse optionsFirst ["-f", file] = .ok (.drain file)) ∧
    ∀ {secret enabled groups}, Arranged secret enabled groups → ∀ user,
      (∀ optionsFirst, parse optionsFirst (groups.flatten ++ ["--", user]) =
        .ok (.immediate user (requested secret enabled))) ∧
      (IsUser user → ∀ before after, groups = before ++ after →
        parse false (before.flatten ++ user :: after.flatten) =
          .ok (.immediate user (requested secret enabled))) := by
  refine ⟨parse_file, fun {secret enabled groups} arranged user => ?_⟩
  obtain ⟨flags, flagged, row⟩ := arranged.row
  have judged : Judged ⟨flags, [user]⟩ (.ok (.immediate user (requested secret enabled))) :=
    .immediate (flagged.asks user)
  refine ⟨fun optionsFirst => ?_, fun isUser before after cut => ?_⟩
  · exact parse_eq_iff.mpr (.inr ⟨_, (row optionsFirst).reads_separated user, judged⟩)
  · exact parse_eq_iff.mpr (.inr ⟨_, (row false).reads_among isUser cut, judged⟩)

/-- A password that looks like the end of the options, for a user that looks like an option and for one
that stands between the options. -/
theorem parse_arranged_dashes :
    let secret : Password := ⟨"--", by decide⟩
    parse true ["-e", "-p", "--", "--", "-d"] = .ok (.immediate "-d" [.password secret, .enable]) ∧
      parse false ["-p--", "-", "-d"] = .ok (.immediate "-" [.password secret, .disable]) ∧
      parse false ["", "-ep", "--"] = .ok (.immediate "" [.password secret, .enable]) := by
  intro secret
  refine ⟨?_, ?_, ?_⟩
  · exact (parse_arranged.2 (.statusFirst secret .separate true) "-d").1 true
  · exact (parse_arranged.2 (.passwordFirst secret .attached false) "-").2 (.inl rfl) [["-p--"]]
      [["-d"]] (by decide)
  · exact (parse_arranged.2 (.clustered secret .separate true) "").2 (.inr (by decide)) []
      [["-ep", "--"]] (by decide)

end AccountSync.CommandLine
