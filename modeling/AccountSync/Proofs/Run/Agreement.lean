import AccountSync.Proofs.CommandLine.Options
import AccountSync.Proofs.Drain.Rival
import AccountSync.Proofs.Queue.Format
import AccountSync.Proofs.Run.Detached
import AccountSync.Proofs.Run.Parallel
import AccountSync.Run

/-!
# An action now or from the queue

An action that is given on the command line and the same action in a queue file lead to the same
requests, the same exit and the same events, whatever the backend answers, as long as it is detached
(`now_and_queued_agree`). The file is removed once the action was carried out, even if closing the
backend fails after it (`removed_without_success`).
-/

namespace AccountSync

variable {σ : Type}

/-! ### Two sites -/

def Log.Event.isStage : Log.Event → Bool
  | .drainStage .. => true
  | _ => false

/-- The events of a log but for the stages of drains. -/
def Log.told (records : List Log.Record) : List Log.Event :=
  (records.map fun record => record.event).filter fun event => !event.isStage

theorem Log.told_append (first second : List Log.Record) :
    Log.told (first ++ second) = Log.told first ++ Log.told second := by
  rw [told, List.map_append, List.filter_append]
  rfl

theorem Log.told_marked (events : List Log.Event) (mark mark' : Option String) :
    Log.told (events.map fun event => ⟨event, mark⟩) =
      Log.told (events.map fun event => ⟨event, mark'⟩) := by
  rw [told, told, List.map_map, List.map_map]
  rfl

/-- Sites where the same was told, with the same memory of the collaborator. The second one has the
given files. -/
structure Beside (memories : σ → Prop) (files : Files) (s t : Site σ) : Prop where
  peer : s.peer = t.peer
  known : memories t.peer
  told : Log.told s.log = Log.told t.log
  files : t.files = files

namespace Beside

variable {memories : σ → Prop} {files : Files} {s t : Site σ}

theorem absorb (beside : Beside memories files s t) (events : List Log.Event) {memory : σ}
    (known : memories memory) :
    Beside memories files (s.absorb events memory) (t.absorb events memory) where
  peer := rfl
  known := known
  told := by
    rw [Site.absorb, Site.absorb, Log.told_append, Log.told_append, beside.told,
      Log.told_marked events s.queueFile t.queueFile]
  files := beside.files

theorem note (beside : Beside memories files s t) (event : Log.Event) :
    Beside memories files (s.note event) (t.note event) where
  peer := beside.peer
  known := beside.known
  told := by
    rw [Site.note, Site.note, Log.told_append, Log.told_append, beside.told]
    rfl
  files := beside.files

/-- Stages are not told. -/
theorem move (beside : Beside memories files s t) (next : Stage) :
    Beside memories files s (t.move next) where
  peer := beside.peer
  known := beside.known
  told := by
    rw [Site.move, Site.note, Log.told_append, beside.told]
    exact (List.append_nil _).symm
  files := beside.files

theorem enter (beside : Beside memories files s t) (file : String) :
    Beside memories files s (t.enter file) :=
  ⟨beside.peer, beside.known, beside.told, beside.files⟩

theorem leave (beside : Beside memories files s t) (mark : Option String) :
    Beside memories files s { t with queueFile := mark } :=
  ⟨beside.peer, beside.known, beside.told, beside.files⟩

theorem setFiles (beside : Beside memories files s t) (left : Files) :
    Beside memories left s { t with files := left } :=
  ⟨beside.peer, beside.known, beside.told, rfl⟩

theorem reached (beside : Beside memories files s t) (file : String) :
    Beside memories files s (Controller.reached file t) :=
  ((beside.enter file).move .opened).move .parsed

/-- A detached step does the same on both sites. -/
theorem run {α : Type} {x : Act σ α} {fitting : α → Prop} (apart : x.Detached memories fitting)
    (beside : Beside memories files s t) :
    ∃ result events after, x.run s = (result, s.absorb events after) ∧
      x.run t = (result, t.absorb events after) ∧
      Beside memories files (s.absorb events after) (t.absorb events after) ∧
      ∀ a, result = .ok a → fitting a := by
  obtain ⟨result, events, after, ran, known, fits⟩ := apart t.peer beside.known
  exact ⟨result, events, after, ran s beside.peer, ran t rfl, beside.absorb events known, fits⟩

theorem parallel {α : Type} {x : Act σ α} {fitting : α → Prop} (apart : x.Detached memories fitting) :
    Parallel (Beside memories files) (Beside memories files) (Beside memories files) Eq x x := by
  intro s t beside
  obtain ⟨result, events, after, ranLeft, ranRight, left, _⟩ := beside.run apart
  change Ends _ _ _ (x.run s) (x.run t)
  rw [ranLeft, ranRight]
  cases result with
  | error fault => exact .failed fault left
  | ok a => exact .done rfl left

theorem emit (event : Log.Event) :
    Parallel (Beside memories files) (Beside memories files) (Beside memories files) (fun _ _ => True)
      (Act.emit event : Act σ Unit) (Act.emit event) :=
  fun _ _ beside => .done trivial (beside.note event)

/-- A failure moves a drain that got past reading to its last stage, which is not told. -/
theorem conclude {α : Type} (beside : Beside memories files s t) (stage : t.stage = some .parsed)
    (fault : Fault) :
    ∃ left, AccountSync.conclude (.error fault, t) = ((.error fault, left) : Except Fault α × Site σ) ∧
      Beside memories files s left := by
  cases fault with
  | defect d => exact ⟨t, rfl, beside⟩
  | failure f =>
    have allowed : Stage.failed ∈ Stage.successors t.stage := by
      rw [stage]
      decide
    exact ⟨t.move .failed, if_pos allowed, beside.move .failed⟩

end Beside

/-! ### One action -/

/-- The files after a drain whose action ended so. -/
def Files.settled {α : Type} (files left : Files) : Except Fault α → Files
  | .ok _ => left
  | .error _ => files

theorem run_immediate (b : Backend σ) (realm : Option String) (limit : Int) (user : String)
    (action : Action) (site : Site σ) :
    (route b realm limit (.immediate user [action])).run site =
      match Principal.parse realm user with
      | .ok principal => (dispatch b realm principal action user).run site
      | .error why => (.error (.failure (.badPrincipal user why)), site) := by
  unfold route
  rw [Act.run_bind, run_resolve]
  cases Principal.parse realm user with
  | error why => rfl
  | ok principal =>
    change (dispatch b realm principal action user >>= fun _ => pure ()).run site = _
    rw [bind_pure_unit]

section

variable {memories : σ → Prop} {files left : Files} {s t : Site σ} {b : Backend σ} {limit : Int}
  {path : String} {source : Queue.Source} {record : Queue.Record}

theorem run_queued (b : Backend σ) (realm : Option String) (site : Site σ) (clean : '\x00' ∉ path.toList)
    (opened : site.files.openSource (.ofText path) = .ok source)
    (read : ((Queue.Record.readWithin limit path).run source).1 = .ok record) :
    (Controller.drain ⟨b, realm, limit⟩ path).run site =
      remark site.queueFile (conclude (match Principal.parse realm record.principalName with
        | .ok principal => Controller.finish path record
            ((b.perform ⟨realm, principal, record.action⟩).run (Controller.reached path site))
        | .error why => (.error (.failure (.badPrincipal record.principalName why)),
            Controller.reached path site))) := by
  have accepted : path.toList.contains '\x00' = false := by simpa using clean
  rw [Controller.run_drain, Controller.pursue, arrive, Site.enter_files]
  simp only [accepted, opened, read, Bool.false_eq_true, if_false]
  cases Principal.parse realm record.principalName with
  | error why => rfl
  | ok principal => rfl

/-- An action and the drain of a file with it end alike, and the drain removes the file if the
action succeeded. -/
theorem route_agree (realm : Option String) (apart : b.Detached memories)
    (clean : '\x00' ∉ path.toList)
    (opened : files.openSource (.ofText path) = .ok source)
    (read : ((Queue.Record.readWithin limit path).run source).1 = .ok record)
    (unlinks : files.unlink (.ofText path) = .ok left) (beside : Beside memories files s t) :
    let now := (route b realm limit (.immediate record.principalName [record.action])).run s
    Ends (Beside memories (files.settled left now.1)) (Beside memories (files.settled left now.1)) Eq
      now ((route b realm limit (.drain path)).run t) := by
  have drained := run_queued b realm t clean (beside.files ▸ opened) read
  have reached := beside.reached path
  dsimp only
  rw [route, run_discard, drained, run_immediate]
  cases Principal.parse realm record.principalName with
  | error why =>
    obtain ⟨last, concluded, kept⟩ := reached.conclude (α := Queue.Record) rfl
      (.failure (.badPrincipal record.principalName why))
    dsimp only
    rw [concluded]
    exact .failed _ (kept.leave t.queueFile)
  | ok principal =>
    -- the drain has passed two stages by now, which a detached backend cannot tell
    obtain ⟨outcome, events, after, ranLeft, ranRight, called, _⟩ :=
      reached.run (apart.perform ⟨realm, principal, record.action⟩)
    dsimp only
    rw [run_dispatch, ranLeft, ranRight]
    cases outcome with
    | error fault =>
      obtain ⟨last, concluded, kept⟩ := called.conclude (α := Queue.Record) rfl fault
      rw [Controller.finish, concluded]
      exact .failed fault (kept.leave t.queueFile)
    | ok answer =>
      dsimp only
      rw [Controller.finish]
      by_cases accepted : answer.isOk
      · have noted := called.note (record.action.notice record.principalName)
        rw [if_pos accepted, if_pos accepted, Controller.complete_parsed rfl, noted.files, unlinks]
        exact .done rfl ((((noted.move .dispatched).setFiles left).move .deleted).leave t.queueFile)
      · obtain ⟨last, concluded, kept⟩ := called.conclude (α := Queue.Record) rfl (.failure
          (.backendRefused record.action.operation record.principalName answer.status answer.message))
        rw [if_neg accepted, if_neg accepted, concluded]
        exact .failed _ (kept.leave t.queueFile)

end

/-! ### Whole runs -/

/-- What a run of a command does before it closes its backend. -/
def undertake (settings : Settings) (factory : Act σ (Backend σ)) (command : Command) :
    Act σ (Backend σ) := do
  match Log.threshold settings.logLevel with
  | .error defect => Act.breach defect
  | .ok _ =>
    let backend ← factory
    route backend settings.realm settings.queueLineLimit.value command
    return backend

section

variable {settings : Settings} {factory : Act σ (Backend σ)} {threshold : Nat}

theorem run_undertake (leveled : Log.threshold settings.logLevel = .ok threshold) (command : Command)
    (site : Site σ) :
    (undertake settings factory command).run site =
      match factory.run site with
      | (.ok b, after) =>
        (((route b settings.realm settings.queueLineLimit.value command).run after).1.map fun _ => b,
          ((route b settings.realm settings.queueLineLimit.value command).run after).2)
      | (.error fault, after) => (.error fault, after) := by
  rw [undertake, leveled]
  dsimp only
  rw [Act.run_bind]
  obtain ⟨made, after⟩ := factory.run site
  cases made with
  | error fault => rfl
  | ok b =>
    dsimp only
    rw [Act.run_bind]
    obtain ⟨result, last⟩ := (route b settings.realm settings.queueLineLimit.value command).run after
    cases result with
    | error fault => rfl
    | ok _ => rfl

theorem settled_map {α β : Type} (files left : Files) (f : α → β) (result : Except Fault α) :
    files.settled left (result.map f) = files.settled left result := by
  cases result with
  | error fault => rfl
  | ok a => rfl

variable {memories : σ → Prop} {files left : Files} {s t : Site σ} {path : String}
  {source : Queue.Source} {record : Queue.Record}

theorem serve_agree (apart : factory.Detached memories (Backend.Detached memories))
    (leveled : Log.threshold settings.logLevel = .ok threshold) (clean : '\x00' ∉ path.toList)
    (opened : files.openSource (.ofText path) = .ok source)
    (read : ((Queue.Record.readWithin settings.queueLineLimit.value path).run source).1 = .ok record)
    (unlinks : files.unlink (.ofText path) = .ok left) (beside : Beside memories files s t) :
    let command := Command.immediate record.principalName [record.action]
    let settled := files.settled left ((undertake settings factory command).run s).1
    Ends (Beside memories settled) (Beside memories settled) Eq
      ((serve settings factory command).run s) ((serve settings factory (.drain path)).run t) := by
  obtain ⟨made, events, after, ranLeft, ranRight, begun, fits⟩ := beside.run apart
  dsimp only
  rw [run_undertake leveled, serve, serve, Act.run_bind, Act.run_bind, ranLeft, ranRight]
  cases made with
  | error fault => exact .failed fault begun
  | ok b =>
    have routed := route_agree settings.realm (fits b rfl) clean opened read unlinks begun
    dsimp only at routed ⊢
    rw [settled_map]
    exact routed.ensuring (Beside.parallel (fits b rfl).close)

/-- The closing of the backend counts: its fault takes the place of a success. -/
theorem serve_ok_iff (leveled : Log.threshold settings.logLevel = .ok threshold) (command : Command)
    (site : Site σ) :
    ((serve settings factory command).run site).1 = .ok () ↔
      ((undertake settings factory command >>= Backend.close).run site).1 = .ok () := by
  rw [Act.run_bind, run_undertake leveled, serve, Act.run_bind]
  obtain ⟨made, after⟩ := factory.run site
  cases made with
  | error fault => exact .rfl
  | ok b =>
    dsimp only
    change (Act.ensuring _ _ after).1 = _ ↔ _
    unfold Act.ensuring
    obtain ⟨result, last⟩ := (route b settings.realm settings.queueLineLimit.value command).run after
    dsimp only
    cases result with
    | ok _ =>
      change _ ↔ (b.close.run last).1 = .ok ()
      obtain ⟨closing, left⟩ := b.close.run last
      cases closing <;> exact .rfl
    | error fault =>
      obtain ⟨closing, left⟩ := b.close.run last
      cases closing <;> exact ⟨(fun same => nomatch same), fun same => nomatch same⟩

theorem reported_success_iff (program : String) (x : Act σ Unit) (site : Site σ) :
    ((reported program x).run site).1 = .ok .success ↔ (x.run site).1 = .ok () := by
  change (reported program x site).1 = _ ↔ _
  unfold reported
  obtain ⟨result, after⟩ := x.run site
  cases result with
  | ok _ => exact ⟨fun _ => rfl, fun _ => rfl⟩
  | error fault =>
    refine ⟨fun same => ?_, fun same => nomatch same⟩
    cases fault with
    | defect d => cases same
    | failure f =>
      have status := congrArg Exit.status (Except.ok.inj same)
      cases status

/-- Runs for an action and for a queue file with it end alike. -/
theorem runWith_agree (apart : factory.Detached memories (Backend.Detached memories))
    (optionsFirst : Bool) (spelling : CommandLine.Spelling) (clean : '\x00' ∉ path.toList)
    (opened : files.openSource (.ofText path) = .ok source)
    (read : ((Queue.Record.readWithin settings.queueLineLimit.value path).run source).1 = .ok record)
    (unlinks : files.unlink (.ofText path) = .ok left) (beside : Beside memories files s t) :
    let words := record.action.words spelling ++ ["--", record.principalName]
    let carried := undertake settings factory (.immediate record.principalName [record.action])
    let settled := files.settled left (carried.run s).1
    Ends (Beside memories settled) (Beside memories settled) Eq
      ((runWith settings optionsFirst words factory).run s)
      ((runWith settings optionsFirst ["-f", path] factory).run t) := by
  dsimp only
  unfold runWith
  rw [CommandLine.parse_words, CommandLine.parse_file]
  cases leveled : Log.threshold settings.logLevel with
  | error defect =>
    -- a level without a threshold stops both runs before they make a backend
    have settled : (undertake settings factory
        (.immediate record.principalName [record.action])).run s = (.error (.defect defect), s) := by
      rw [undertake, leveled]
      rfl
    rw [settled]
    exact .failed _ beside
  | ok threshold =>
    exact (serve_agree apart leveled clean opened read unlinks beside).reported _ Beside.emit

/-- A run of a command succeeds if the command is carried out and closing the backend succeeds. -/
theorem runWith_success_iff {optionsFirst : Bool} {words : List String} {command : Command}
    (parsed : CommandLine.parse optionsFirst words = .ok command) (site : Site σ) :
    ((runWith settings optionsFirst words factory).run site).1 = .ok .success ↔
      ((undertake settings factory command >>= Backend.close).run site).1 = .ok () := by
  unfold runWith
  rw [parsed]
  cases leveled : Log.threshold settings.logLevel with
  | error defect =>
    rw [Act.run_bind, undertake, leveled]
    exact ⟨(fun same => nomatch same), fun same => nomatch same⟩
  | ok threshold => exact (reported_success_iff _ _ site).trans (serve_ok_iff leveled command site)

end

theorem Ends.beside {α : Type} {memories : σ → Prop} {files : Files}
    {left right : Except Fault α × Site σ}
    (ended : Ends (Beside memories files) (Beside memories files) Eq left right) :
    right.1 = left.1 ∧ Beside memories files left.2 right.2 := by
  cases ended with
  | failed fault left => exact ⟨rfl, left⟩
  | done same left => exact ⟨congrArg Except.ok same.symm, left⟩

/-- The requests that a run makes of its backend. -/
def requests (settings : Settings) (optionsFirst : Bool) (words : List String)
    (factory : Act σ (Backend σ)) (files : Files) (memory : σ) : List Request :=
  ((runWith settings optionsFirst words (recorded factory)).run (.start files ([], memory))).2.peer.1

/-- A run that asks for an action, and a run that drains a queue file with it, make the same requests,
end alike and log the same but for the stages of the drain. The file is removed exactly if the action
was carried out, and both succeed exactly if closing the backend succeeds after it. -/
theorem now_and_queued_agree {memories : σ → Prop} {factory : Act σ (Backend σ)}
    (apart : factory.Detached memories (Backend.Detached memories)) {memory : σ}
    (known : memories memory) (settings : Settings) (optionsFirst : Bool)
    (spelling : CommandLine.Spelling) (bounded : settings.queueLineLimit.value < 2 ^ 63)
    {record : Queue.Record} (admitted : ∀ line ∈ record.lines,
      '\n' ∉ line.toList ∧ Utf8.size line + 1 ≤ settings.queueLineLimit.value)
    {path : String} (clean : '\x00' ∉ path.toList) {files left : Files} {rest : List UInt8}
    (holds : files.openSource (.ofText path) = .ok (.ofBytes (record.encode ++ rest)))
    (unlinks : files.unlink (.ofText path) = .ok left) :
    let words := record.action.words spelling ++ ["--", record.principalName]
    let site := Site.start files memory
    let now := (runWith settings optionsFirst words factory).run site
    let queued := (runWith settings optionsFirst ["-f", path] factory).run site
    let carried := undertake settings factory (.immediate record.principalName [record.action])
    queued.1 = now.1 ∧ queued.2.peer = now.2.peer ∧ Log.told queued.2.log = Log.told now.2.log ∧
      requests settings optionsFirst ["-f", path] factory files memory =
        requests settings optionsFirst words factory files memory ∧
      queued.2.files = files.settled left (carried.run site).1 ∧
      (now.1 = .ok .success ↔ ((carried >>= Backend.close).run site).1 = .ok ()) := by
  have read := Queue.Record.read_admitted settings.queueLineLimit.bound_lt_value bounded path admitted rest
  have start : Beside memories files (.start files memory) (.start files memory) :=
    ⟨rfl, known, rfl, rfl⟩
  have watched : Beside (fun memory => memories memory.2) files
      (.start files (([] : List Request), memory)) (.start files ([], memory)) :=
    ⟨rfl, known, rfl, rfl⟩
  obtain ⟨exit, beside⟩ :=
    (runWith_agree apart optionsFirst spelling clean holds read unlinks start).beside
  obtain ⟨_, besideWatched⟩ :=
    (runWith_agree (recorded_detached apart) optionsFirst spelling clean holds read unlinks
      watched).beside
  exact ⟨exit, beside.peer.symm, beside.told.symm, congrArg Prod.fst besideWatched.peer.symm,
    beside.files, runWith_success_iff (CommandLine.parse_words optionsFirst spelling _ _) _⟩

/-- Settings for a realm, with a limit for the lines of queue files. -/
def Settings.serving (realm : String) (limit : Above 1) : Settings where
  programName := "krb5-sync"
  logLevel := "INFO"
  logJson := false
  syslog := false
  syslogAddress := "/dev/log"
  queueLineLimit := limit
  messageLimit := ⟨512, by decide⟩
  defaultRealm := some realm
  ldapHost := "localhost"
  ldapPort := 636
  useSsl := true
  ldapBase := ""
  bindDn := none
  bindPassword := none
  baseInstance := none
  timeout := 30

/-- A folder with one queue file. -/
def Files.queueing (record : Queue.Record) (rest : List UInt8) : Files where
  entries := [(["q"], .file (.ofBytes (record.encode ++ rest)))]
  here := []
  refusal := none

/-- A password of two words, for a user who looks like an option. -/
def dashed : Queue.Record := ⟨"-é", .activeDirectory, .password ⟨"né p", by decide⟩⟩

/-- The longest line fills the limit. -/
theorem now_and_queued_agree_dashed :
    let settings := Settings.serving "R" ⟨9, by decide⟩
    let files := Files.queueing dashed (Utf8.encode "more")
    let factory := Script.connect (some "R") 9 0 none
    let site := Site.start files (Script.start [])
    let now := (runWith settings false ["-pné p", "--", "-é"] factory).run site
    let queued := (runWith settings false ["-f", "q"] factory).run site
    factory.Detached Script.Still (Backend.Detached Script.Still) ∧ (Script.start []).Still ∧
      settings.queueLineLimit.value < 2 ^ 63 ∧
      (∀ line ∈ dashed.lines,
        '\n' ∉ line.toList ∧ Utf8.size line + 1 ≤ settings.queueLineLimit.value) ∧
      '\x00' ∉ "q".toList ∧
      files.openSource (.ofText "q") = .ok (.ofBytes (dashed.encode ++ Utf8.encode "more")) ∧
      files.unlink (.ofText "q") = .ok (.empty []) ∧
      now.1 = .ok .success ∧ queued.1 = now.1 ∧ queued.2.peer = now.2.peer ∧
      Log.told queued.2.log = Log.told now.2.log ∧
      requests settings false ["-f", "q"] factory files (.start []) =
        [⟨some "R", ⟨["-é"], "R"⟩, dashed.action⟩] ∧
      queued.2.files = .empty [] := by
  have apart := Script.connect_detached (some "R") 9 0 none
  have still : (Script.start []).Still := fun _ member => nomatch member
  have admitted : ∀ line ∈ dashed.lines, '\n' ∉ line.toList ∧ Utf8.size line + 1 ≤ (9 : Int) := by
    decide
  have clean : '\x00' ∉ "q".toList := by decide
  have holds : (Files.queueing dashed (Utf8.encode "more")).openSource (.ofText "q") =
      .ok (.ofBytes (dashed.encode ++ Utf8.encode "more")) := by decide +kernel
  have unlinks : (Files.queueing dashed (Utf8.encode "more")).unlink (.ofText "q") =
      .ok (.empty []) := by decide +kernel
  have words : dashed.action.words .attached ++ ["--", dashed.principalName] =
      ["-pné p", "--", "-é"] := by decide +kernel
  have agree := now_and_queued_agree apart still (.serving "R" ⟨9, by decide⟩) false .attached
    (by decide) admitted clean holds unlinks
  rw [words] at agree
  obtain ⟨exit, peer, told, same, removed, succeeds⟩ := agree
  refine ⟨apart, still, by decide, admitted, clean, holds, unlinks, succeeds.mpr ?_, exit, peer, told,
    same.trans ?_, removed.trans ?_⟩
  · cbv
  · decide +kernel
  · cbv

/-- A connection to a directory with one account, which is enabled; it breaks when it is left. -/
def Directory.Connection.breaking : Connection :=
  { Connection.start [("u", ⟨"D", .text "512"⟩)] with unbind := [.raised "boom"] }

/-- The file is gone though neither run returned zero: closing the backend failed. There was nothing to
write for either of them, as the account had been enabled before. -/
theorem removed_without_success :
    let settings := Settings.serving "R" ⟨8192, by decide⟩
    let record : Queue.Record := ⟨"u", .activeDirectory, .enable⟩
    let files := Files.queueing record []
    let factory := Directory.connect settings.endpoint settings.directory
    let site := Site.start files Directory.Connection.breaking
    let now := (runWith settings false ["-e", "--", "u"] factory).run site
    let queued := (runWith settings false ["-f", "q"] factory).run site
    factory.Detached (fun _ => True) (Backend.Detached fun _ => True) ∧
      settings.queueLineLimit.value < 2 ^ 63 ∧
      (∀ line ∈ record.lines,
        '\n' ∉ line.toList ∧ Utf8.size line + 1 ≤ settings.queueLineLimit.value) ∧
      '\x00' ∉ "q".toList ∧ files.openSource (.ofText "q") = .ok (.ofBytes record.encode) ∧
      files.unlink (.ofText "q") = .ok (.empty []) ∧
      ¬ (queued.2.files = .empty [] ↔
        now.1.map Exit.status = .ok 0 ∧ queued.1.map Exit.status = .ok 0) := by
  refine ⟨Directory.connect_detached _ _, by decide, by decide, by decide, by decide +kernel,
    by decide +kernel, fun removed => ?_⟩
  obtain ⟨returned, _⟩ := removed.mp (by decide +kernel)
  have failed : ((runWith (.serving "R" ⟨8192, by decide⟩) false ["-e", "--", "u"]
      (Directory.connect (Settings.serving "R" ⟨8192, by decide⟩).endpoint
        (Settings.serving "R" ⟨8192, by decide⟩).directory)).run
      (.start (.queueing ⟨"u", .activeDirectory, .enable⟩ []) .breaking)).1.isOk = false := by
    decide +kernel
  generalize Prod.fst _ = result at returned failed
  cases result with
  | error fault => cases returned
  | ok exit => cases failed

end AccountSync
