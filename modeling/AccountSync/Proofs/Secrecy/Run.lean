import AccountSync.Proofs.Secrecy.Backends
import AccountSync.Proofs.Secrecy.Inputs
import AccountSync.Run

/-!
# Secrets stay unseen

Runs that differ in passwords only, given as options, in a queue file or as a setting, return or fail
alike, print and log the same, and leave files of the same names (`secrets_unobservable`).
-/

namespace AccountSync

variable {σ : Type} {peers : σ → σ → Prop}

section

variable {lineLimit : Int} {backend backend' : Backend σ}

theorem route_alike (alike : backend.Alike (Files.Alike lineLimit.toNat) peers backend')
    (realm : Option String) {command command' : Command} (commands : command.Alike command') :
    Act.Alike (Files.Alike lineLimit.toNat) peers (fun _ _ => True)
      (route backend realm lineLimit command) (route backend' realm lineLimit command') := by
  cases commands with
  | drain file => exact Act.Alike.discard (drain_alike alike realm file)
  | immediate user actions =>
    refine Act.Alike.bind (resolve_alike realm user) ?_
    rintro principal _ rfl
    exact Act.Alike.forM actions fun action => dispatch_alike alike realm principal action user

theorem reported_alike {files : Files → Files → Prop} (program : String) {x y : Act σ Unit}
    (alike : Act.Alike files peers (fun _ _ => True) x y) :
    Act.Alike files peers Eq (reported program x) (reported program y) :=
  fun _ _ start => (alike.run start).reported program Act.Alike.emit

end

/-- Runs with settings, command lines and backends that differ in secrets end alike. -/
theorem runWith_alike {settings settings' : Settings} (same : settings.Alike settings')
    {optionsFirst : Bool} {words words' : List String}
    (lines : CommandLine.Alike optionsFirst words words') {factory factory' : Act σ (Backend σ)}
    (backends : Act.Alike (Files.Alike settings.queueLineLimit.value.toNat) peers
      (Backend.Alike (Files.Alike settings.queueLineLimit.value.toNat) peers) factory factory') :
    Act.Alike (Files.Alike settings.queueLineLimit.value.toNat) peers Eq
      (runWith settings optionsFirst words factory) (runWith settings' optionsFirst words' factory') := by
  rw [← same]
  have parsed := CommandLine.parse_alike lines
  unfold runWith
  dsimp only
  split
  · exact Parallel.throw _
  generalize CommandLine.parse optionsFirst words = command at parsed
  generalize CommandLine.parse optionsFirst words' = command' at parsed
  cases parsed with
  | failed fault => exact Parallel.pure rfl
  | done commands =>
    refine reported_alike settings.programName (Act.Alike.bind backends fun alike => ?_)
    exact Act.Alike.ensuring (route_alike alike settings.realm commands) alike.close

/-! ### What is seen of a run -/

/-- What answers a run: a script, or a directory behind its connection. -/
inductive Collaborator where
  | scripted (replies : List Reply) (initError : Option String)
  | directory (connection : Directory.Connection)

structure Observed where
  result : Except Fault Exit
  log : List Log.Record
  /-- What the log prints at a given time. -/
  output : String → String
  files : Files

def Settings.observe (settings : Settings) (outcome : Except Fault Exit × Site σ) : Observed :=
  ⟨outcome.1, outcome.2.log, fun time => settings.output time outcome.2.log, outcome.2.files⟩

def Collaborator.run (settings : Settings) (optionsFirst : Bool) (words : List String)
    (files : Files) : Collaborator → Observed
  | .scripted replies initError =>
    settings.observe ((runWith settings optionsFirst words
      (Script.connect settings.realm settings.queueLineLimit.value replies.length initError)).run
        (.start files (.start replies)))
  | .directory connection =>
    settings.observe ((runWith settings optionsFirst words
      (Directory.connect settings.endpoint settings.directory)).run (.start files connection))

/-- A run from its settings on, or the problems of these. -/
def Collaborator.execute (collaborator : Collaborator) (inputs : Settings.Inputs)
    (words : List String) (files : Files) : Except (List Settings.Problem) Observed := do
  let settings ← Settings.read inputs
  return collaborator.run settings inputs.env.optionsFirst words files

/-- The files that are left have the same names, and differ in their fourth lines at most. -/
structure Observed.Same (o o' : Observed) : Prop where
  result : o.result = o'.result
  log : o.log = o'.log
  output : o.output = o'.output
  files : ∃ limit, o.files.Alike limit o'.files

theorem output_alike {settings settings' : Settings} (same : settings.Alike settings') :
    settings.output = settings'.output := by
  rw [← same]
  unfold Settings.output Settings.written Settings.line
  rfl

theorem observe_same {settings settings' : Settings} (same : settings.Alike settings')
    {left right : Except Fault Exit × Site σ} (result : left.1 = right.1)
    (log : left.2.log = right.2.log) (files : ∃ limit, left.2.files.Alike limit right.2.files) :
    (settings.observe left).Same (settings'.observe right) where
  result := result
  log := log
  output := by
    unfold Settings.observe
    dsimp only
    rw [log, output_alike same]
  files := files

theorem observe_alike {settings settings' : Settings} (same : settings.Alike settings')
    {files : Files → Files → Prop} (alike : ∀ {f f'}, files f f' → ∃ limit, f.Alike limit f')
    {x y : Act σ Exit} (runs : Act.Alike files peers Eq x y) {s t : Site σ}
    (start : Site.Alike files peers s t) :
    (settings.observe (x.run s)).Same (settings'.observe (y.run t)) := by
  have ended := runs.run start
  generalize x.run s = left at ended
  generalize y.run t = right at ended
  cases ended with
  | failed e left => exact observe_same same rfl left.log (alike left.files)
  | done result left => exact observe_same same (congrArg Except.ok result) left.log (alike left.files)

/-- Whatever answers a run, nothing that is seen of it tells the value of a `p` option, the fourth
line of a queue file or the bind password. -/
theorem secrets_unobservable (collaborator : Collaborator) {inputs inputs' : Settings.Inputs}
    (settings : inputs.Alike inputs') {words words' : List String}
    (lines : CommandLine.Alike inputs.env.optionsFirst words words') {files files' : Files}
    (trees : ∀ settings, Settings.read inputs = .ok settings →
      files.Alike settings.queueLineLimit.value.toNat files') :
    Both Observed.Same (collaborator.execute inputs words files)
      (collaborator.execute inputs' words' files') := by
  have read := Settings.read_alike settings
  unfold Collaborator.execute
  rw [← Environment.optionsFirst_alike settings.env]
  generalize Settings.read inputs = given at read trees
  generalize Settings.read inputs' = given' at read
  cases read with
  | failed problems => exact .failed _
  | @done s s' same =>
    have alike := trees s rfl
    refine .done ?_
    cases collaborator with
    | scripted replies initError =>
      have connect : Script.connect s'.realm s'.queueLineLimit.value replies.length initError =
          Script.connect s.realm s.queueLineLimit.value replies.length initError := by
        rw [← same]
        rfl
      unfold Collaborator.run
      dsimp only
      rw [connect]
      have runs := runWith_alike same lines
        (Script.connect_alike s.realm s.queueLineLimit.value replies.length initError)
      exact observe_alike same (fun alike => ⟨_, alike⟩) runs ⟨alike, rfl, rfl, rfl, rfl⟩
    | directory connection =>
      have config : s'.directory = s.directory := by
        rw [← same]
        rfl
      have host : s.endpoint.host = s'.endpoint.host := by
        rw [← same]
        rfl
      unfold Collaborator.run
      dsimp only
      rw [config]
      have runs := runWith_alike same lines (Directory.connect_alike host s.directory)
      exact observe_alike same (fun alike => ⟨_, alike⟩) runs ⟨alike, rfl, rfl, rfl, rfl⟩

/-- A directory with one queue file, for a password. -/
def queued (secret : Password) : Files where
  entries := [(["q"], .file (.ofBytes (Queue.Record.encode ⟨"u", .activeDirectory, .password secret⟩)))]
  here := []
  refusal := none

def boundWith (password : String) : Settings.Inputs :=
  ⟨[("queue_line_limit", .integer 12)],
    ⟨[("KRB5_SYNC_DEFAULT_REALM", "R"), ("krb5_sync_ad_bind_password", password)]⟩⟩

/-- The password of the queue file and that of the setting differ. -/
theorem secrets_unobservable_queued :
    (boundWith "one").Alike (boundWith "two") ∧
      CommandLine.Alike (boundWith "one").env.optionsFirst ["-f", "q"] ["-f", "q"] ∧
      (∀ settings, Settings.read (boundWith "one") = .ok settings →
        (queued ⟨"un été", by decide⟩).Alike settings.queueLineLimit.value.toNat
          (queued ⟨"n", by decide⟩)) ∧
      Both Observed.Same
        ((Collaborator.scripted [⟨⟨53, "refused"⟩, [], none⟩] none).execute (boundWith "one")
          ["-f", "q"] (queued ⟨"un été", by decide⟩))
        ((Collaborator.scripted [⟨⟨53, "refused"⟩, [], none⟩] none).execute (boundWith "two")
          ["-f", "q"] (queued ⟨"n", by decide⟩)) := by
  have alike : (boundWith "one").Alike (boundWith "two") :=
    ⟨.cons ⟨rfl, .inl rfl⟩ .nil, .cons ⟨rfl, .inl rfl⟩ (.cons ⟨rfl, .inr (by decide)⟩ .nil)⟩
  have trees : ∀ settings, Settings.read (boundWith "one") = .ok settings →
      (queued ⟨"un été", by decide⟩).Alike settings.queueLineLimit.value.toNat
        (queued ⟨"n", by decide⟩) := by
    intro settings read
    have limit : (Settings.read (boundWith "one")).map (fun s => s.queueLineLimit.value) = .ok 12 := by
      decide +kernel
    rw [read] at limit
    injection limit with limit
    change settings.queueLineLimit.value = 12 at limit
    rw [limit]
    refine ⟨.cons ⟨rfl, .file (Queue.Record.encode_alike (by decide) _ ?_ ?_)⟩ .nil, rfl, rfl⟩
    · exact ⟨by decide, by decide, by decide⟩
    · exact ⟨by decide, by decide, by decide⟩
  exact ⟨alike, .same _, trees, secrets_unobservable _ alike (.same _) trees⟩

end AccountSync
