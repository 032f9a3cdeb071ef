import AccountSync.Proofs.CommandLine.Grammar

/-!
# Commands

A reading asks for a drain, asks for actions on a user, or is refused, by what occurs in it
(`command_eq_iff`). With the grammar this says which lines are which command: `parse_exact`.
-/

namespace AccountSync.CommandLine

/-! ### What occurs in a reading -/

namespace Reading

def Gives (r : Reading) (option : Valued) : Prop := ∃ value, .valued option value ∈ r.flags

/-- The option is given, and has this value where it stands last. -/
def Last (r : Reading) (option : Valued) (value : String) : Prop :=
  ∃ before after, r.flags = before ++ .valued option value :: after ∧
    ∀ other, .valued option other ∉ after

/-- An action is asked for. -/
def Acts (r : Reading) : Prop := .enable ∈ r.flags ∨ .disable ∈ r.flags ∨ r.Gives .password

def BothStatuses (r : Reading) : Prop := .enable ∈ r.flags ∧ .disable ∈ r.flags

structure AsksDrain (r : Reading) (file : String) : Prop where
  file : r.Last .file file
  nobody : r.users = []
  idle : ¬ r.Acts

structure Asks (r : Reading) (user : String) (secret : Option Password) (enabled : Option Bool) :
    Prop where
  unfiled : ¬ r.Gives .file
  user : r.users = [user]
  secret : match secret with
    | some secret => r.Last .password secret.text
    | none => ¬ r.Gives .password
  enable : .enable ∈ r.flags ↔ enabled = some true
  disable : .disable ∈ r.flags ↔ enabled = some false
  acts : r.Acts

/-- The users are right: none with a file, and one without. -/
def Sized (r : Reading) : Prop := r.Gives .file ∧ r.users = [] ∨ ¬ r.Gives .file ∧ ∃ user, r.users = [user]

/-- The first rule that is broken. -/
inductive Refused (r : Reading) : Fault → Prop where
  | notOneUser (unfiled : ¬ r.Gives .file) (users : r.users.length ≠ 1) : Refused r .notOneUser
  | userWithFile (filed : r.Gives .file) (users : r.users ≠ []) : Refused r .userWithFile
  | enableAndDisable (sized : r.Sized) (both : r.BothStatuses) : Refused r .enableAndDisable
  | noAction (sized : r.Sized) (unfiled : ¬ r.Gives .file) (idle : ¬ r.Acts) : Refused r .noAction
  | fileAndAction (sized : r.Sized) (single : ¬ r.BothStatuses) (filed : r.Gives .file)
    (acts : r.Acts) : Refused r .fileAndAction
  | emptyPassword (sized : r.Sized) (single : ¬ r.BothStatuses) (unfiled : ¬ r.Gives .file)
    (empty : r.Last .password "") : Refused r .emptyPassword

end Reading

/-- A new password comes before a status. -/
def requested (secret : Option Password) (enabled : Option Bool) : List Action :=
  (secret.map .password).toList ++ (enabled.map .ofEnabled).toList

/-- What a reading comes to. -/
inductive Judged (r : Reading) : Except Fault Command → Prop where
  | drain {file} (asks : r.AsksDrain file) : Judged r (.ok (.drain file))
  | immediate {user secret enabled} (asks : r.Asks user secret enabled) :
    Judged r (.ok (.immediate user (requested secret enabled)))
  | refused {fault} (refused : r.Refused fault) : Judged r (.error fault)

/-! ### Arguments -/

section

variable {r : Reading} {option : Valued} {value : String}

theorem argument?_eq_some_iff : r.argument? option = some value ↔ r.Last option value := by
  unfold Reading.argument?
  rw [List.findSome?_eq_some_iff]
  constructor
  · rintro ⟨after, flag, before, reversed, found, none⟩
    have flags : r.flags = before.reverse ++ flag :: after.reverse := by
      rw [← List.reverse_reverse r.flags, reversed]
      simp
    have same : flag = .valued option value := by
      split at found
      · split at found
        · next same =>
          cases found
          rw [same]
        · cases found
      · cases found
    refine ⟨before.reverse, after.reverse, by rw [flags, same], fun other member => ?_⟩
    simpa using none _ (List.mem_reverse.mp member)
  · rintro ⟨before, after, flags, none⟩
    refine ⟨after.reverse, .valued option value, before.reverse, by simp [flags], by simp, ?_⟩
    intro flag member
    split
    · next o argument =>
      rw [if_neg]
      rintro rfl
      exact none argument (List.mem_reverse.mp member)
    · rfl

theorem argument?_eq_none_iff : r.argument? option = none ↔ ¬ r.Gives option := by
  constructor
  · rintro none ⟨value, member⟩
    have missed := List.findSome?_eq_none_iff.mp none _ (List.mem_reverse.mpr member)
    simp at missed
  · intro absent
    cases found : r.argument? option with
    | none => rfl
    | some value =>
      obtain ⟨before, after, flags, _⟩ := argument?_eq_some_iff.mp found
      exact (absent ⟨value, by simp [flags]⟩).elim

theorem Reading.Gives.last (gives : r.Gives option) : ∃ value, r.Last option value := by
  cases found : r.argument? option with
  | none => exact (argument?_eq_none_iff.mp found gives).elim
  | some value => exact ⟨value, argument?_eq_some_iff.mp found⟩

theorem Reading.Last.gives (last : r.Last option value) : r.Gives option := by
  obtain ⟨before, after, flags, _⟩ := last
  exact ⟨value, by simp [flags]⟩

end

/-! ### Commands -/

section

variable {r : Reading}

theorem both_iff :
    (decide (Flag.enable ∈ r.flags) && decide (Flag.disable ∈ r.flags)) = true ↔ r.BothStatuses := by
  simp [Reading.BothStatuses]

theorem acts_iff :
    (decide (Flag.enable ∈ r.flags) || decide (Flag.disable ∈ r.flags) ||
      (r.argument? .password).isSome) = true ↔ r.Acts := by
  have given : (r.argument? .password).isSome = true ↔ r.Gives .password := by
    rw [← Option.ne_none_iff_isSome, ne_eq, argument?_eq_none_iff, Classical.not_not]
  simp [Reading.Acts, given, or_assoc]

theorem idle_iff :
    (!decide (Flag.enable ∈ r.flags) && !decide (Flag.disable ∈ r.flags) &&
      (r.argument? .password).isNone) = true ↔ ¬ r.Acts := by
  rw [← acts_iff]
  simp

theorem command_filed {file : String} (last : r.Last .file file) (nobody : r.users = []) :
    command r =
      if decide (Flag.enable ∈ r.flags) && decide (Flag.disable ∈ r.flags) then
        .error .enableAndDisable
      else if decide (Flag.enable ∈ r.flags) || decide (Flag.disable ∈ r.flags) ||
        (r.argument? .password).isSome then .error .fileAndAction
      else .ok (.drain file) := by
  unfold command
  rw [argument?_eq_some_iff.mpr last, nobody]

theorem command_unfiled {user : String} (unfiled : ¬ r.Gives .file) (users : r.users = [user]) :
    command r =
      if decide (Flag.enable ∈ r.flags) && decide (Flag.disable ∈ r.flags) then
        .error .enableAndDisable
      else if !decide (Flag.enable ∈ r.flags) && !decide (Flag.disable ∈ r.flags) &&
        (r.argument? .password).isNone then .error .noAction
      else immediateCommand user (r.argument? .password) (Flag.enable ∈ r.flags)
        (Flag.disable ∈ r.flags) := by
  unfold command
  rw [argument?_eq_none_iff.mpr unfiled, users]

theorem Reading.Refused.command {fault : Fault} (refused : r.Refused fault) :
    command r = .error fault := by
  cases refused with
  | notOneUser unfiled users =>
    unfold CommandLine.command
    rw [argument?_eq_none_iff.mpr unfiled]
    rcases same : r.users with _ | ⟨user, _ | ⟨second, others⟩⟩
    · rfl
    · exact (users (by rw [same]; rfl)).elim
    · rfl
  | userWithFile filed users =>
    obtain ⟨file, last⟩ := filed.last
    obtain ⟨user, others, same⟩ := List.exists_cons_of_ne_nil users
    unfold CommandLine.command
    rw [argument?_eq_some_iff.mpr last, same]
  | enableAndDisable sized both =>
    rcases sized with ⟨filed, nobody⟩ | ⟨unfiled, user, users⟩
    · obtain ⟨file, last⟩ := filed.last
      rw [command_filed last nobody, if_pos (both_iff.mpr both)]
    · rw [command_unfiled unfiled users, if_pos (both_iff.mpr both)]
  | noAction sized unfiled idle =>
    obtain ⟨filed, _⟩ | ⟨_, user, users⟩ := sized
    · exact (unfiled filed).elim
    · have single : ¬ r.BothStatuses := fun both => idle (.inl both.1)
      rw [command_unfiled unfiled users, if_neg (mt both_iff.mp single), if_pos (idle_iff.mpr idle)]
  | fileAndAction sized single filed acts =>
    obtain ⟨_, nobody⟩ | ⟨unfiled, _⟩ := sized
    · obtain ⟨file, last⟩ := filed.last
      rw [command_filed last nobody, if_neg (mt both_iff.mp single), if_pos (acts_iff.mpr acts)]
    · exact (unfiled filed).elim
  | emptyPassword sized single unfiled empty =>
    obtain ⟨filed, _⟩ | ⟨_, user, users⟩ := sized
    · exact (unfiled filed).elim
    · have acts : r.Acts := .inr (.inr empty.gives)
      rw [command_unfiled unfiled users, if_neg (mt both_iff.mp single),
        if_neg fun idle => idle_iff.mp idle acts, argument?_eq_some_iff.mpr empty]
      rfl

theorem Reading.AsksDrain.command {file : String} (asks : r.AsksDrain file) :
    command r = .ok (.drain file) := by
  have single : ¬ r.BothStatuses := fun both => asks.idle (.inl both.1)
  rw [command_filed asks.file asks.nobody, if_neg (mt both_iff.mp single),
    if_neg (mt acts_iff.mp asks.idle)]

theorem Reading.Asks.command {user : String} {secret : Option Password} {enabled : Option Bool}
    (asks : r.Asks user secret enabled) :
    command r = .ok (.immediate user (requested secret enabled)) := by
  have single : ¬ r.BothStatuses := by
    rintro ⟨enable, disable⟩
    cases (asks.enable.mp enable).symm.trans (asks.disable.mp disable)
  have status : statusActions (Flag.enable ∈ r.flags) (Flag.disable ∈ r.flags) =
      (enabled.map .ofEnabled).toList := by
    simp only [asks.enable, asks.disable]
    rcases enabled with _ | _ | _ <;> rfl
  have passwords : passwordActions (r.argument? .password) = .ok (secret.map .password).toList := by
    have given := asks.secret
    cases secret with
    | none =>
      rw [argument?_eq_none_iff.mpr given]
      rfl
    | some secret =>
      rw [argument?_eq_some_iff.mpr given, passwordActions, Password.ofText?, dif_neg secret.nonempty]
      rfl
  rw [command_unfiled asks.unfiled asks.user, if_neg (mt both_iff.mp single),
    if_neg fun idle => idle_iff.mp idle asks.acts, immediateCommand, passwords, status]
  rfl

theorem Judged.command {outcome : Except Fault Command} (judged : Judged r outcome) :
    command r = outcome := by
  cases judged with
  | drain asks => exact asks.command
  | immediate asks => exact asks.command
  | refused refused => exact refused.command

/-- At most one status is asked for. -/
theorem exists_enabled (single : ¬ r.BothStatuses) : ∃ enabled : Option Bool,
    (.enable ∈ r.flags ↔ enabled = some true) ∧ (.disable ∈ r.flags ↔ enabled = some false) := by
  by_cases enable : Flag.enable ∈ r.flags
  · have only : Flag.disable ∉ r.flags := fun disable => single ⟨enable, disable⟩
    exact ⟨some true, by simp [enable], by simp [only]⟩
  · by_cases disable : Flag.disable ∈ r.flags
    · exact ⟨some false, by simp [enable], by simp [disable]⟩
    · exact ⟨none, by simp [enable], by simp [disable]⟩

theorem exists_judged (r : Reading) : ∃ outcome, Judged r outcome := by
  by_cases filed : r.Gives .file
  · by_cases nobody : r.users = []
    · have sized : r.Sized := .inl ⟨filed, nobody⟩
      by_cases both : r.BothStatuses
      · exact ⟨_, .refused (.enableAndDisable sized both)⟩
      by_cases acts : r.Acts
      · exact ⟨_, .refused (.fileAndAction sized both filed acts)⟩
      · obtain ⟨file, last⟩ := filed.last
        exact ⟨_, .drain ⟨last, nobody, acts⟩⟩
    · exact ⟨_, .refused (.userWithFile filed nobody)⟩
  · by_cases one : r.users.length = 1
    · obtain ⟨user, users⟩ := List.length_eq_one_iff.mp one
      have sized : r.Sized := .inr ⟨filed, user, users⟩
      by_cases both : r.BothStatuses
      · exact ⟨_, .refused (.enableAndDisable sized both)⟩
      by_cases acts : r.Acts
      · obtain ⟨enabled, enable, disable⟩ := exists_enabled both
        by_cases given : r.Gives .password
        · obtain ⟨text, last⟩ := given.last
          by_cases empty : text = ""
          · subst empty
            exact ⟨_, .refused (.emptyPassword sized both filed last)⟩
          · have asks : r.Asks user (some ⟨text, empty⟩) enabled :=
              ⟨filed, users, last, enable, disable, acts⟩
            exact ⟨_, .immediate asks⟩
        · have asks : r.Asks user none enabled := ⟨filed, users, given, enable, disable, acts⟩
          exact ⟨_, .immediate asks⟩
      · exact ⟨_, .refused (.noAction sized filed acts)⟩
    · exact ⟨_, .refused (.notOneUser filed one)⟩

theorem command_eq_iff {outcome : Except Fault Command} :
    command r = outcome ↔ Judged r outcome := by
  constructor
  · rintro rfl
    obtain ⟨outcome, judged⟩ := exists_judged r
    rw [judged.command]
    exact judged
  · exact Judged.command

end

/-! ### Lines -/

section

variable {optionsFirst : Bool} {words : List String}

theorem parse_eq_iff {outcome : Except Fault Command} :
    parse optionsFirst words = outcome ↔
      (∃ fault, Reads optionsFirst words (.error fault) ∧ outcome = .error fault) ∨
      ∃ r, Reads optionsFirst words (.ok r) ∧ Judged r outcome := by
  unfold parse
  simp only [← readWords_eq_iff, ← command_eq_iff]
  cases readWords optionsFirst words with
  | error fault => simp [bind, Except.bind, eq_comm]
  | ok r => simp [bind, Except.bind]

end

/-- Every line has one reading. It is a drain exactly if a file is given, a user is not and no action
is. It is for a user exactly if no file is given, the user is the only one, at most one status and some
action are, and the last password is not empty: then the password comes first and the status after it.
All other lines are refused, for the word that cannot be read or the first rule that is broken. -/
theorem parse_exact (optionsFirst : Bool) (words : List String) :
    (∃ reading, Reads optionsFirst words reading ∧
      ∀ other, Reads optionsFirst words other → other = reading) ∧
    (∀ file, parse optionsFirst words = .ok (.drain file) ↔
      ∃ r, Reads optionsFirst words (.ok r) ∧ r.AsksDrain file) ∧
    (∀ user actions, parse optionsFirst words = .ok (.immediate user actions) ↔
      ∃ r secret enabled, Reads optionsFirst words (.ok r) ∧ r.Asks user secret enabled ∧
        actions = requested secret enabled) ∧
    (∀ fault, parse optionsFirst words = .error fault ↔
      Reads optionsFirst words (.error fault) ∨
        ∃ r, Reads optionsFirst words (.ok r) ∧ r.Refused fault) := by
  refine ⟨?_, fun file => ?_, fun user actions => ?_, fun fault => ?_⟩
  · obtain ⟨reading, reads⟩ := exists_reads optionsFirst words
    refine ⟨reading, reads, fun other also => ?_⟩
    exact also.readWords.symm.trans reads.readWords
  · rw [parse_eq_iff]
    constructor
    · rintro (⟨_, _, ⟨⟩⟩ | ⟨r, reads, ⟨asks⟩⟩)
      exact ⟨r, reads, asks⟩
    · rintro ⟨r, reads, asks⟩
      exact .inr ⟨r, reads, .drain asks⟩
  · rw [parse_eq_iff]
    constructor
    · rintro (⟨_, _, ⟨⟩⟩ | ⟨r, reads, judged⟩)
      cases judged with
      | @immediate _ secret enabled asks => exact ⟨r, secret, enabled, reads, asks, rfl⟩
    · rintro ⟨r, secret, enabled, reads, asks, rfl⟩
      exact .inr ⟨r, reads, .immediate asks⟩
  · rw [parse_eq_iff]
    constructor
    · rintro (⟨_, reads, ⟨⟩⟩ | ⟨r, reads, ⟨⟩ | ⟨⟩ | ⟨refused⟩⟩)
      · exact .inl reads
      · exact .inr ⟨r, reads, refused⟩
    · rintro (reads | ⟨r, reads, refused⟩)
      · exact .inl ⟨fault, reads, rfl⟩
      · exact .inr ⟨r, reads, .refused refused⟩

end AccountSync.CommandLine
