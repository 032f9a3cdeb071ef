import AccountSync.Proofs.CommandLine.Options
import AccountSync.Proofs.Secrecy.Sources
import AccountSync.Settings

/-!
# Inputs that differ in a secret

Command lines that differ in the values of their `p` options only mean the same command or the same
fault (`parse_alike`), and inputs that differ in the bind password only give the same settings but
for it, or the same problems (`Settings.read_alike`).
-/

namespace AccountSync

/-- Commands that differ in passwords at most. -/
inductive Command.Alike : Command → Command → Prop where
  | drain (file : String) : Alike (.drain file) (.drain file)
  | immediate (user : String) {actions actions' : List Action}
    (alike : List.Forall₂ Action.Alike actions actions') :
    Alike (.immediate user actions) (.immediate user actions')

namespace CommandLine

/-! ### Words -/

/-- Command lines that differ in the values of `p` options, which are not empty. A word before such
an option leaves the options open, or is refused. -/
inductive Alike (optionsFirst : Bool) : List String → List String → Prop where
  | same (words : List String) : Alike optionsFirst words words
  | password {letters : List Char} {value value' : String} {words words' : List String}
    (spelling : Spelling) (plain : ∀ letter ∈ letters, letter = 'd' ∨ letter = 'e')
    (nonempty : value ≠ "") (nonempty' : value' ≠ "") (rest : Alike optionsFirst words words') :
    Alike optionsFirst (passwordWords letters value spelling ++ words)
      (passwordWords letters value' spelling ++ words')
  | positional {word : String} {words words' : List String} (is : Word.of word = .positional)
    (free : optionsFirst = false) (rest : Alike optionsFirst words words') :
    Alike optionsFirst (word :: words) (word :: words')
  | cluster {word : String} {letters : List Char} {flags : List Flag} {words words' : List String}
    (is : Word.of word = .cluster letters) (read : readCluster letters = .ok ⟨flags, none⟩)
    (rest : Alike optionsFirst words words') : Alike optionsFirst (word :: words) (word :: words')
  | valued {word argument : String} {letters : List Char} {flags : List Flag} {option : Valued}
    {words words' : List String} (is : Word.of word = .cluster letters)
    (read : readCluster letters = .ok ⟨flags, some option⟩)
    (rest : Alike optionsFirst words words') :
    Alike optionsFirst (word :: argument :: words) (word :: argument :: words')
  | refused {word : String} {words words' : List String}
    (is : (∃ text, Word.of word = .name text) ∨
      ∃ letters fault, Word.of word = .cluster letters ∧ readCluster letters = .error fault) :
    Alike optionsFirst (word :: words) (word :: words')

inductive Flag.Alike : Flag → Flag → Prop where
  | same (flag : Flag) : Alike flag flag
  | password {value value' : String} (nonempty : value ≠ "") (nonempty' : value' ≠ "") :
    Alike (.valued .password value) (.valued .password value')

structure Reading.Alike (r s : Reading) : Prop where
  flags : List.Forall₂ Flag.Alike r.flags s.flags
  users : r.users = s.users

theorem Reading.Alike.addFlags {flags flags' : List Flag} {r s : Reading}
    (alike : List.Forall₂ Flag.Alike flags flags') (readings : r.Alike s) :
    (r.addFlags flags).Alike (s.addFlags flags') :=
  ⟨List.rel_append alike readings.flags, readings.users⟩

theorem Reading.Alike.addUser (user : String) {r s : Reading} (readings : r.Alike s) :
    (r.addUser user).Alike (s.addUser user) :=
  ⟨readings.flags, congrArg (user :: ·) readings.users⟩

theorem Flag.forall₂_same (flags : List Flag) : List.Forall₂ Flag.Alike flags flags :=
  List.forall₂_same.mpr fun _ _ => .same _

theorem readWords_alike {optionsFirst : Bool} {words words' : List String}
    (alike : Alike optionsFirst words words') :
    Both Reading.Alike (readWords optionsFirst words) (readWords optionsFirst words') := by
  induction alike with
  | same words => exact .refl (fun r => ⟨Flag.forall₂_same _, rfl⟩) _
  | password spelling plain nonempty nonempty' _ ih =>
    rw [readWords_password optionsFirst plain nonempty,
      readWords_password optionsFirst plain nonempty']
    refine ih.map fun readings => Reading.Alike.addFlags ?_ readings
    exact List.rel_append (Flag.forall₂_same _) (.cons (.password nonempty nonempty') .nil)
  | positional is free _ ih =>
    rw [readWords, readWords, is, free]
    rw [free] at ih
    exact ih.map (Reading.Alike.addUser _)
  | cluster is read _ ih =>
    rw [readWords, readWords, is]
    simp only [read]
    exact ih.map fun readings => Reading.Alike.addFlags (Flag.forall₂_same _) readings
  | valued is read _ ih =>
    rw [readWords_valued is read, readWords_valued is read]
    exact ih.map fun readings => Reading.Alike.addFlags (Flag.forall₂_same _) readings
  | refused is =>
    rw [readWords, readWords]
    obtain ⟨text, is⟩ | ⟨letters, fault, is, read⟩ := is
    · rw [is]
      exact .failed _
    · rw [is]
      simp only [read]
      exact .failed _

/-! ### Commands -/

/-- Arguments that are the same, or passwords that are not empty. -/
def Argued (option : Valued) (value value' : String) : Prop :=
  value = value' ∨ option = .password ∧ value ≠ "" ∧ value' ≠ ""

theorem findSome?_alike {α β : Type} {like : α → α → Prop} {like' : β → β → Prop}
    {f : α → Option β} (found : ∀ a b, like a b → Option.Rel like' (f a) (f b)) {left right : List α}
    (alike : List.Forall₂ like left right) :
    Option.Rel like' (left.findSome? f) (right.findSome? f) := by
  induction alike with
  | nil => exact .none
  | @cons a b _ _ first _ ih =>
    rw [List.findSome?_cons, List.findSome?_cons]
    have here := found a b first
    generalize f a = x at here
    generalize f b = y at here
    cases here with
    | none => exact ih
    | some both => exact .some both

theorem argument?_alike {r s : Reading} (readings : r.Alike s) (option : Valued) :
    Option.Rel (Argued option) (r.argument? option) (s.argument? option) := by
  refine findSome?_alike ?_ (List.forall₂_reverse_iff.mpr readings.flags)
  rintro flag flag' (_ | ⟨nonempty, nonempty'⟩)
  · cases flag with
    | valued option' value =>
      dsimp only
      split
      · exact .some (.inl rfl)
      · exact .none
    | _ => exact .none
  · dsimp only
    split
    · next same => exact .some (.inr ⟨same.symm, nonempty, nonempty'⟩)
    · exact .none

theorem Flag.mem_alike {flags flags' : List Flag} (alike : List.Forall₂ Flag.Alike flags flags')
    {flag : Flag} (status : ∀ value, flag ≠ .valued .password value) :
    flag ∈ flags ↔ flag ∈ flags' := by
  induction alike with
  | nil => exact Iff.rfl
  | cons first _ ih =>
    rw [List.mem_cons, List.mem_cons, ih]
    cases first with
    | same => exact Iff.rfl
    | password => simp only [status, false_or]

theorem passwordActions_alike {password password' : Option String}
    (alike : Option.Rel (Argued .password) password password') :
    Both (List.Forall₂ Action.Alike) (passwordActions password) (passwordActions password') := by
  cases alike with
  | none => exact .done .nil
  | some argued =>
    obtain rfl | ⟨_, nonempty, nonempty'⟩ := argued
    · exact .refl (fun actions => List.forall₂_same.mpr fun _ _ => .same _) _
    · rw [passwordActions, passwordActions, Password.ofText?, Password.ofText?, dif_neg nonempty,
        dif_neg nonempty']
      exact .done (.cons (.secret _ _) .nil)

theorem immediateCommand_alike (user : String) {password password' : Option String}
    (alike : Option.Rel (Argued .password) password password') (enable disable : Bool) :
    Both Command.Alike (immediateCommand user password enable disable)
      (immediateCommand user password' enable disable) := by
  refine (passwordActions_alike alike).bind fun secrets => ?_
  refine .done (.immediate user (List.rel_append secrets ?_))
  exact List.forall₂_same.mpr fun _ _ => .same _

theorem command_alike {r s : Reading} (readings : r.Alike s) :
    Both Command.Alike (command r) (command s) := by
  have enabled : Flag.enable ∈ r.flags ↔ Flag.enable ∈ s.flags :=
    Flag.mem_alike readings.flags fun _ same => nomatch same
  have disabled : Flag.disable ∈ r.flags ↔ Flag.disable ∈ s.flags :=
    Flag.mem_alike readings.flags fun _ same => nomatch same
  have files : r.argument? .file = s.argument? .file := by
    have argued := argument?_alike readings .file
    generalize r.argument? .file = file at argued ⊢
    generalize s.argument? .file = file' at argued ⊢
    cases argued with
    | none => rfl
    | some both => exact congrArg some (both.resolve_right fun other => nomatch other.1)
  have passwords := argument?_alike readings .password
  have given : (r.argument? .password).isSome = (s.argument? .password).isSome := by
    generalize r.argument? .password = password at passwords ⊢
    generalize s.argument? .password = password' at passwords ⊢
    cases passwords <;> rfl
  have missing : (r.argument? .password).isNone = (s.argument? .password).isNone := by
    rw [← Option.not_isSome, ← Option.not_isSome, given]
  unfold command
  simp only [enabled, disabled, files, given, missing, readings.users]
  split
  · exact .failed _
  · split
    · exact .failed _
    · split
      · exact .failed _
      · exact .done (.drain _)
  · split
    · exact .failed _
    · split
      · exact .failed _
      · exact immediateCommand_alike _ passwords _ _
  · exact .failed _

theorem parse_alike {optionsFirst : Bool} {words words' : List String}
    (alike : Alike optionsFirst words words') :
    Both Command.Alike (parse optionsFirst words) (parse optionsFirst words') :=
  (readWords_alike alike).bind command_alike

end CommandLine

/-! ### Settings -/

/-- The name of the setting that is a secret. -/
def secretField : String := "ad_bind_password"

/-- Environments that differ in the bind password at most. -/
def Environment.Alike (env env' : Environment) : Prop :=
  List.Forall₂ (fun v v' => v.1 = v'.1 ∧
    (v.2 = v'.2 ∨ Environment.lower v.1 = Environment.settingPrefix ++ secretField))
    env.bindings env'.bindings

namespace Settings

/-- Settings that differ in the bind password at most. -/
def Alike (s t : Settings) : Prop := { s with bindPassword := t.bindPassword } = t

/-- Values of one setting: the same, or two texts for the bind password. -/
def Given.Alike (field : String) (given given' : Given) : Prop :=
  given = given' ∨ field = secretField ∧ ∃ text text', given = .text text ∧ given' = .text text'

/-- Inputs that differ in the text of the bind password at most. -/
structure Inputs.Alike (inputs inputs' : Inputs) : Prop where
  outright : List.Forall₂ (fun given given' => given.1 = given'.1 ∧
    Given.Alike (Environment.lower given.1) given.2 given'.2) inputs.outright inputs'.outright
  env : inputs.env.Alike inputs'.env

theorem find?_alike {α : Type} {like : α → α → Prop} {p : α → Bool}
    (same : ∀ a b, like a b → p a = p b) {left right : List α} (alike : List.Forall₂ like left right) :
    Option.Rel (fun a b => like a b ∧ p a = true) (left.find? p) (right.find? p) := by
  induction alike with
  | nil => exact .none
  | @cons a b _ _ first _ ih =>
    rw [List.find?_cons, List.find?_cons, ← same a b first]
    cases found : p a with
    | true => exact .some ⟨first, found⟩
    | false => exact ih

theorem setting?_alike {env env' : Environment} (alike : env.Alike env') (field : String) :
    Option.Rel (fun value value' => value = value' ∨ field = secretField)
      (env.setting? field) (env'.setting? field) := by
  have found := find?_alike (p := fun v => Environment.lower v.1 = Environment.settingPrefix ++ field)
    (fun v v' both => by rw [both.1]) (List.forall₂_reverse_iff.mpr alike)
  unfold Environment.setting?
  generalize List.find? _ env.bindings.reverse = x at found
  generalize List.find? _ env'.bindings.reverse = y at found
  cases found with
  | none => exact .none
  | some both =>
    obtain ⟨⟨_, same | secret⟩, named⟩ := both
    · exact .some (.inl same)
    · have name := (of_decide_eq_true named).symm.trans secret
      exact .some (.inr ((String.append_right_inj _).mp name))

theorem get?_alike {inputs inputs' : Inputs} (alike : inputs.Alike inputs') (field : String) :
    Option.Rel (Given.Alike field) (inputs.get? field) (inputs'.get? field) := by
  have found := find?_alike (p := fun given => Environment.lower given.1 = field)
    (fun given given' both => by rw [both.1]) alike.outright
  have setting := setting?_alike alike.env field
  unfold Inputs.get?
  generalize List.find? _ inputs.outright = x at found
  generalize List.find? _ inputs'.outright = y at found
  cases found with
  | some both =>
    obtain ⟨⟨_, given⟩, named⟩ := both
    rw [of_decide_eq_true named] at given
    exact .some given
  | none =>
    dsimp only
    generalize inputs.env.setting? field = value at setting
    generalize inputs'.env.setting? field = value' at setting
    cases setting with
    | none => exact .none
    | some both =>
      obtain rfl | secret := both
      · exact .some (.inl rfl)
      · exact .some (.inr ⟨secret, _, _, rfl, rfl⟩)

theorem field_eq {α : Type} {inputs inputs' : Inputs} (alike : inputs.Alike inputs') {name : String}
    (other : name ≠ secretField) (read : Given → Except Complaint α) (default : α) :
    Both Eq (field inputs name read default) (field inputs' name read default) := by
  have given := get?_alike alike name
  unfold field
  generalize inputs.get? name = value at given
  generalize inputs'.get? name = value' at given
  cases given with
  | none => exact .done rfl
  | some both =>
    obtain rfl | ⟨secret, _⟩ := both
    · exact .refl (fun _ => rfl) _
    · exact (other secret).elim

/-- Every text is read as a password, so two texts leave the same problems: none. -/
theorem field_secret {inputs inputs' : Inputs} (alike : inputs.Alike inputs') :
    Both (fun _ _ => True) (field inputs secretField readOptional none)
      (field inputs' secretField readOptional none) := by
  have given := get?_alike alike secretField
  unfold field
  generalize inputs.get? secretField = value at given
  generalize inputs'.get? secretField = value' at given
  cases given with
  | none => exact .done trivial
  | some both =>
    obtain rfl | ⟨_, text, text', rfl, rfl⟩ := both
    · exact .refl (fun _ => trivial) _
    · exact .done trivial

theorem supply_alike {α β : Type} {like : α → α → Prop} {like' : β → β → Prop}
    {value value' : Except (List Problem) α} {f g : Except (List Problem) (α → β)}
    (values : Both like value value')
    (functions : Both (fun f g => ∀ a b, like a b → like' (f a) (g b)) f g) :
    Both like' (supply value f) (supply value' g) := by
  cases functions with
  | done maps => exact values.map fun both => maps _ _ both
  | failed problems =>
    cases values with
    | done _ => exact .failed _
    | failed more => exact .failed _

theorem readFields_alike {inputs inputs' : Inputs} (alike : inputs.Alike inputs') :
    Both Alike (readFields inputs) (readFields inputs') := by
  have other := fun {α : Type} {name : String} (h : name ≠ secretField) =>
    @field_eq α inputs inputs' alike name h
  unfold readFields
  refine supply_alike (other (by decide) _ _) ?_
  refine supply_alike (other (by decide) _ _) ?_
  refine supply_alike (field_secret alike) ?_
  iterate 13 refine supply_alike (other (by decide) _ _) ?_
  refine .done ?_
  rintro _ _ rfl _ _ rfl _ _ rfl _ _ rfl _ _ rfl _ _ rfl _ _ rfl _ _ rfl _ _ rfl _ _ rfl _ _ rfl
    _ _ rfl _ _ rfl _ _ _ _ _ rfl _ _ rfl
  rfl

theorem unknownNames_alike {inputs inputs' : Inputs} (alike : inputs.Alike inputs') :
    unknownNames inputs = unknownNames inputs' := by
  have byNames : ∀ inputs : Inputs, unknownNames inputs =
      (((inputs.outright.map fun given => given.1).filter fun name =>
        Environment.lower name ∉ fieldNames).map fun name => ⟨name, .unknown⟩) := by
    intro inputs
    rw [List.filter_map, List.map_map]
    rfl
  have names : (inputs.outright.map fun given => given.1) =
      inputs'.outright.map fun given => given.1 := by
    rw [← List.forall₂_eq_eq_eq, List.forall₂_map_left_iff, List.forall₂_map_right_iff]
    exact alike.outright.imp fun _ _ both => both.1
  rw [byNames, byNames, names]

theorem read_alike {inputs inputs' : Inputs} (alike : inputs.Alike inputs') :
    Both Alike (read inputs) (read inputs') := by
  have fields := readFields_alike alike
  unfold read
  rw [unknownNames_alike alike]
  cases unknownNames inputs' with
  | nil => exact fields
  | cons problem rest =>
    generalize readFields inputs = settings at fields
    generalize readFields inputs' = settings' at fields
    cases fields with
    | failed problems => exact .failed _
    | done _ => exact .failed _

end Settings

namespace Environment

theorem get?_alike {env env' : Environment} (alike : env.Alike env') {name : String}
    (other : lower name ≠ settingPrefix ++ secretField) : env.get? name = env'.get? name := by
  obtain ⟨bindings⟩ := env
  obtain ⟨bindings'⟩ := env'
  change List.Forall₂ _ bindings bindings' at alike
  change bindings.lookup name = bindings'.lookup name
  induction alike with
  | nil => rfl
  | @cons v v' _ _ first _ ih =>
    obtain ⟨named, value⟩ := first
    rw [List.lookup_cons, List.lookup_cons, ih, ← named]
    cases here : name == v.1 with
    | false => rfl
    | true =>
      rw [beq_iff_eq] at here
      exact congrArg some (value.resolve_right (here ▸ other))

theorem optionsFirst_alike {env env' : Environment} (alike : env.Alike env') :
    env.optionsFirst = env'.optionsFirst := by
  rw [optionsFirst, optionsFirst, get?_alike alike (by decide)]

end Environment

end AccountSync
