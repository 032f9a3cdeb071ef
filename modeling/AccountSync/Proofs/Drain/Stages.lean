import AccountSync.Proofs.Drain.Canonical
import AccountSync.Proofs.Drain.Outcome

/-!
# What the stages of a drain tell

The moves that a drain logs go from each stage to one that may follow it, and the last stage tells
how the drain ended, whatever stage the drain before it left (`drain_stages`).
-/

namespace AccountSync

variable {σ : Type}

/-! ### Moves in a log -/

def Log.Event.move? : Log.Event → Option (Option Stage × Stage)
  | .drainStage previous next => some (previous, next)
  | _ => none

/-- The moves that records tell of: from which stage, and to which. -/
def Log.moves (records : List Log.Record) : List (Option Stage × Stage) :=
  records.filterMap fun record => record.event.move?

theorem Log.moves_append (first second : List Log.Record) :
    Log.moves (first ++ second) = Log.moves first ++ Log.moves second :=
  List.filterMap_append

theorem Action.move?_notice (action : Action) (name : String) :
    (action.notice name).move? = none := by
  cases action <;> rfl

namespace Stage

variable {previous : Option Stage} {stages : List Stage} {next : Stage}

/-- The moves from stage to stage. -/
def trail : Option Stage → List Stage → List (Option Stage × Stage)
  | _, [] => []
  | previous, next :: rest => (previous, next) :: trail (some next) rest

/-- Each stage is one that may follow the stage before it. -/
def Allowed : Option Stage → List Stage → Prop
  | _, [] => True
  | previous, next :: rest => next ∈ successors previous ∧ Allowed (some next) rest

theorem last_cons (first : Stage) (rest : List Stage) :
    (first :: rest).getLast?.or previous = rest.getLast?.or (some first) := by
  rw [List.getLast?_cons]
  cases rest.getLast? <;> rfl

theorem trail_append :
    trail previous (stages ++ [next]) =
      trail previous stages ++ [(stages.getLast?.or previous, next)] := by
  induction stages generalizing previous with
  | nil => rfl
  | cons first rest ih =>
    rw [List.cons_append, trail, ih, trail, List.cons_append, last_cons]

theorem allowed_append :
    Allowed previous (stages ++ [next]) ↔
      Allowed previous stages ∧ next ∈ successors (stages.getLast?.or previous) := by
  induction stages generalizing previous with
  | nil => simp [Allowed]
  | cons first rest ih =>
    rw [List.cons_append, Allowed, ih, Allowed, and_assoc, last_cons]

end Stage

/-! ### Steps of a drain -/

/-- A drain that began with the log `before` has gone through these stages, and has logged each of its
moves. -/
structure Passed (before : List Log.Record) (stages : List Stage) (site : Site σ) : Prop where
  log : ∃ records, site.log = before ++ records ∧ Log.moves records = Stage.trail none stages
  allowed : Stage.Allowed none stages
  stage : site.stage = stages.getLast?

namespace Passed

variable {before : List Log.Record} {stages : List Stage} {site : Site σ}

theorem enter (site : Site σ) (file : String) : Passed site.log [] (site.enter file) :=
  ⟨⟨[], (List.append_nil _).symm, rfl⟩, trivial, rfl⟩

/-- Whatever logs no move and leaves the stage changes nothing. -/
theorem keep (passed : Passed before stages site) {after : Site σ} (stage : after.stage = site.stage)
    (log : ∃ records, after.log = site.log ++ records ∧ Log.moves records = []) :
    Passed before stages after := by
  obtain ⟨records, logged, moves⟩ := passed.log
  obtain ⟨more, added, none⟩ := log
  refine ⟨⟨records ++ more, ?_, ?_⟩, passed.allowed, stage.trans passed.stage⟩
  · rw [added, logged, List.append_assoc]
  · rw [Log.moves_append, moves, none, List.append_nil]

theorem move (passed : Passed before stages site) {next : Stage}
    (follows : next ∈ Stage.successors site.stage) :
    Passed before (stages ++ [next]) (site.move next) := by
  obtain ⟨⟨records, logged, moves⟩, allowed, stage⟩ := passed
  refine ⟨⟨records ++ [⟨.drainStage site.stage next, site.queueFile⟩], ?_, ?_⟩, ?_, ?_⟩
  · rw [← List.append_assoc, ← logged]
    rfl
  · rw [Log.moves_append, moves, Stage.trail_append, Option.or_none, ← stage]
    rfl
  · rw [Stage.allowed_append, Option.or_none, ← stage]
    exact ⟨allowed, follows⟩
  · rw [List.getLast?_append_cons]
    rfl

theorem pass (passed : Passed before stages site) {more : List Stage}
    (allowed : Stage.Allowed site.stage more) :
    Passed before (stages ++ more) (site.pass more) := by
  induction more generalizing stages site with
  | nil =>
    rw [List.append_nil]
    exact passed
  | cons next rest ih =>
    obtain ⟨follows, onward⟩ := allowed
    have moved := ih (passed.move follows) onward
    rw [List.append_assoc] at moved
    exact moved

end Passed

/-- A failure moves on to the last stage, and a defect leaves the stage. -/
def Fault.stages : Fault → List Stage
  | .failure _ => [.failed]
  | .defect _ => []

theorem Passed.stop {before : List Log.Record} {stages : List Stage} {site : Site σ}
    (passed : Passed before stages site) (follows : .failed ∈ Stage.successors site.stage)
    (fault : Fault) : Passed before (stages ++ fault.stages) (site.stop fault) := by
  cases fault with
  | failure f => exact passed.move follows
  | defect d =>
    rw [Fault.stages, List.append_nil]
    exact passed

/-! ### What the last stage tells -/

/-- How the stages of a drain, and the last of them, go with its result and with whether its call
succeeded. -/
structure Told (result : Except Fault Queue.Record) (stages : List Stage) (last : Option Stage)
    (succeeded : Prop) : Prop where
  shape : ∃ passed, passed <+: [.opened, .parsed, .dispatched, .deleted] ∧
    (stages = passed ∨ stages = passed ++ [.failed])
  returned : last = some .deleted ↔ ∃ record, result = .ok record
  failed : last = some .failed ↔ ∃ f, result = .error (.failure f)
  escaped : last = none ∨ last = some .opened ∨ last = some .parsed ↔
    ∃ d, result = .error (.defect d)
  dispatched : .dispatched ∈ stages ↔ succeeded

/-- The stages of a drain before its action is carried out. -/
def Early (passed : List Stage) : Prop :=
  passed = [] ∨ passed = [.opened] ∨ passed = [.opened, .parsed]

theorem Early.allowed {passed : List Stage} (early : Early passed) : Stage.Allowed none passed := by
  rcases early with rfl | rfl | rfl
  all_goals simp [Stage.Allowed, Stage.successors]

namespace Told

variable {succeeded : Prop}

/-- A drain that stops before its action was carried out. -/
theorem stop {passed : List Stage} (early : Early passed) (fault : Fault) (fails : ¬ succeeded) :
    Told (.error fault) (passed ++ fault.stages) (passed ++ fault.stages).getLast? succeeded := by
  have start : passed <+: [.opened, .parsed, .dispatched, .deleted] := by
    rcases early with rfl | rfl | rfl
    all_goals decide
  cases fault with
  | failure f =>
    refine ⟨⟨passed, start, .inr rfl⟩, ?_, ?_, ?_, ?_⟩
    all_goals rcases early with rfl | rfl | rfl
    all_goals simp [Fault.stages, fails]
  | defect d =>
    refine ⟨⟨passed, start, .inl (List.append_nil _)⟩, ?_, ?_, ?_, ?_⟩
    all_goals rcases early with rfl | rfl | rfl
    all_goals simp [Fault.stages, fails]

theorem keep (file : String) (why : OsError) (succeeds : succeeded) :
    Told (.error (.failure (.cannotUnlink file why))) [.opened, .parsed, .dispatched, .failed]
      (some .failed) succeeded where
  shape := ⟨[.opened, .parsed, .dispatched], ⟨[.deleted], rfl⟩, .inr rfl⟩
  returned := by simp
  failed := by simp
  escaped := by simp
  dispatched := by simp [succeeds]

theorem remove (record : Queue.Record) (succeeds : succeeded) :
    Told (.ok record) [.opened, .parsed, .dispatched, .deleted] (some .deleted) succeeded where
  shape := ⟨_, List.prefix_refl _, .inl rfl⟩
  returned := by simp
  failed := by simp
  escaped := by simp
  dispatched := by simp [succeeds]

end Told

/-- What a drain makes of a call that left the stages as they were. -/
theorem told_settle (call : Call) {before : List Log.Record} {site : Site σ}
    (called : Passed before [.opened, .parsed] site) (file : String) (record : Queue.Record) :
    let settled := Controller.settle file record (call.result, site)
    ∃ stages, Passed before stages settled.2 ∧
      Told settled.1 stages settled.2.stage call.Succeeds ∧
      ∀ d, settled.1 = .error (.defect d) → call.result = .error (.defect d) := by
  have parsed : site.stage = some .parsed := called.stage
  have early : Early [.opened, .parsed] := .inr (.inr rfl)
  have fails : .failed ∈ Stage.successors site.stage := by
    rw [parsed]
    decide
  cases result : call.result with
  | error fault =>
    have raised : ¬ call.Succeeds := by
      rintro ⟨answer, returned, _⟩
      cases result.symm.trans returned
    have passed := called.stop fails fault
    have told := Told.stop early fault raised
    rw [← passed.stage] at told
    refine ⟨_, passed, told, ?_⟩
    rintro d ⟨⟩
    rfl
  | ok answer =>
    by_cases accepted : answer.isOk
    · have succeeds : call.Succeeds := ⟨answer, result, by simpa [Answer.isOk] using accepted⟩
      let notice := record.action.notice record.principalName
      have noted : Passed before [.opened, .parsed] (site.note notice) :=
        called.keep rfl ⟨_, rfl, by simp [Log.moves, notice, Action.move?_notice]⟩
      have follows : .dispatched ∈ Stage.successors (site.note notice).stage := by
        change _ ∈ Stage.successors site.stage
        rw [parsed]
        decide
      have carried := noted.move follows
      cases unlink : site.files.unlink (.ofText file) with
      | error why =>
        rw [Controller.settle_kept accepted unlink]
        have ends : .failed ∈ Stage.successors (some .dispatched) := by decide
        refine ⟨_, carried.move ends, .keep file why succeeds, ?_⟩
        rintro d ⟨⟩
      | ok files =>
        rw [Controller.settle_removed accepted unlink]
        have left : Passed before [.opened, .parsed, .dispatched]
            { (site.note notice).move .dispatched with files } :=
          ⟨carried.log, carried.allowed, carried.stage⟩
        have ends : .deleted ∈ Stage.successors (some .dispatched) := by decide
        refine ⟨_, left.move ends, .remove record succeeds, ?_⟩
        rintro d ⟨⟩
    · have refused : ¬ call.Succeeds := by
        rintro ⟨given, returned, zero⟩
        cases result.symm.trans returned
        exact accepted (by simpa [Answer.isOk] using zero)
      rw [Controller.settle_refused accepted]
      have told := Told.stop early (.failure (.backendRefused record.action.operation
        record.principalName answer.status answer.message)) refused
      refine ⟨_, called.move fails, told, ?_⟩
      rintro d ⟨⟩

/-! ### A whole drain -/

/-- The backend starts no drain: it leaves the stage, and logs no move. -/
structure Backend.Uninvolved (b : Backend σ) : Prop where
  stage : ∀ request site, ((b.perform request).run site).2.stage = site.stage
  log : ∀ request site, ∃ records,
    ((b.perform request).run site).2.log = site.log ++ records ∧ Log.moves records = []

theorem stopped_early {realm : Option String} {limit : Int} {file : String} {files : Files}
    {passed : List Stage} {fault : Fault}
    (arrival : arrive realm limit file files = .stopped passed fault) :
    Early passed := by
  cases arrive_stopped arrival
  all_goals simp [Early]

/-- What a drain finds out by itself is no move that is refused. -/
theorem stopped_follows {realm : Option String} {limit : Int} {file : String} {files : Files}
    {passed : List Stage} {fault : Fault}
    (arrival : arrive realm limit file files = .stopped passed fault) (previous : Option Stage)
    (next : Stage) : fault ≠ .defect (.invalidTransition previous next) := by
  let allowed (fault : Fault) : Prop := fault ≠ .defect (.invalidTransition previous next)
  have reads : Queue.Record.Raises allowed (Queue.Record.readWithin limit file) :=
    Queue.Record.raises_ofLimit (fun _ _ => nofun) nofun nofun limit file
  exact stopped_raises allowed nofun nofun reads nofun arrival

section

variable {b : Backend σ} (uninvolved : b.Uninvolved) {realm : Option String} {limit : Int}
  {file : String} {site : Site σ}

include uninvolved

/-- The stages of a drain when its call has returned. -/
theorem passed_called (request : Request) :
    Passed site.log [.opened, .parsed]
      ((b.watched.perform request).run (Controller.reached file site.watched)).2 := by
  have begun : Passed site.log [] (site.watched.enter file) := .enter site.watched file
  have early : Early [.opened, .parsed] := .inr (.inr rfl)
  exact (begun.pass early.allowed).keep (uninvolved.stage request _) (uninvolved.log request _)

theorem told_ready {record : Queue.Record} {principal : Principal}
    (arrival : arrive realm limit file site.files = .ready record principal) :
    let drained := (Controller.drain ⟨b.watched, realm, limit⟩ file).run site.watched
    let call := b.callFor file site ⟨realm, principal, record.action⟩
    ∃ stages, Passed site.log stages drained.2 ∧
      Told drained.1 stages drained.2.stage call.Succeeds ∧
      ∀ d, drained.1 = .error (.defect d) → call.result = .error (.defect d) := by
  intro drained call
  let request : Request := ⟨realm, principal, record.action⟩
  have called : Passed site.log _ ((b.watched.perform request).run
    (Controller.reached file site.watched)).2 := passed_called uninvolved request
  have arrives : arrive realm limit file site.watched.files = .ready record principal := arrival
  have performed : (b.watched.perform request).run (Controller.reached file site.watched) =
      (call.result, _) := rfl
  have drains := Controller.run_drain_ready ⟨b.watched, realm, limit⟩ arrives performed called.stage
  change drained = _ at drains
  obtain ⟨stages, passed, told, escapes⟩ := told_settle call called file record
  rw [drains]
  exact ⟨stages, ⟨passed.log, passed.allowed, passed.stage⟩, told, escapes⟩

end

/-- Of a drain with a backend that starts none: its moves are logged, start without a stage whatever
the drain before left, and are all allowed. The last stage tells whether the drain returned, failed or
broke off, and the stage `dispatched` is among them if and only if the call succeeded. A move is only
refused where the backend itself says so. -/
theorem drain_stages {b : Backend σ} (uninvolved : b.Uninvolved) (realm : Option String)
    (limit : Int) (file : String) (site : Site σ) :
    let drained := (Controller.drain ⟨b.watched, realm, limit⟩ file).run site.watched
    let calls := drained.2.peer.1.calls
    (Controller.drain ⟨b, realm, limit⟩ file).run site = (drained.1, drained.2.forget) ∧
      ∃ stages, Passed site.log stages drained.2 ∧
        Told drained.1 stages drained.2.stage (∃ made ∈ calls, made.1.Succeeds) ∧
        ∀ previous next, drained.1 = .error (.defect (.invalidTransition previous next)) →
          ∃ made ∈ calls, made.1.result = .error (.defect (.invalidTransition previous next)) := by
  intro drained calls
  refine ⟨follows_drain (follows_watched b) realm limit file site.watched, ?_⟩
  cases arrival : arrive realm limit file site.files with
  | stopped passed fault =>
    have arrives : arrive realm limit file site.watched.files = .stopped passed fault := arrival
    have drains := Controller.run_drain_stopped ⟨b.watched, realm, limit⟩ arrives
    change drained = _ at drains
    have none : calls = [] := (drain_uncalled b site arrival).2.2
    have begun : Passed site.log [] (site.watched.enter file) := .enter site.watched file
    have early := stopped_early arrival
    have fails := Course.failed_follows arrives site.watched
    have passed := (begun.pass early.allowed).stop fails fault
    have uncalled : ¬ ∃ made ∈ calls, made.1.Succeeds := by simp [none]
    have told := Told.stop early fault uncalled
    rw [List.nil_append] at passed
    rw [← passed.stage] at told
    rw [drains]
    refine ⟨_, ⟨passed.log, passed.allowed, passed.stage⟩, told, ?_⟩
    rintro previous next ⟨⟩
    exact (stopped_follows arrival previous next rfl).elim
  | ready record principal =>
    have made : calls = [(b.callFor file site ⟨realm, principal, record.action⟩, [])] :=
      (drain_called b site arrival).1
    obtain ⟨stages, passed, told, escapes⟩ := told_ready uninvolved arrival
    rw [made]
    refine ⟨stages, passed, by simpa using told, fun previous next refused => ?_⟩
    exact ⟨_, List.mem_singleton_self _, escapes _ refused⟩

/-- The drain before was done, and now the system does not let the file go. -/
theorem drain_stages_kept :
    let b : Backend Unit := ⟨fun _ => pure .success, pure ()⟩
    let files : Files :=
      ⟨[(["q"], .file (.ofBytes (Queue.utf8 "u\nad\nenable\n")))], [], some .busy⟩
    let site : Site Unit := { Site.start files () with stage := some .deleted }
    let drained := (Controller.drain ⟨b.watched, some "R", 7⟩ "q").run site.watched
    b.Uninvolved ∧ drained.2.stage = some .failed ∧ (∃ f, drained.1 = .error (.failure f)) ∧
      ∃ stages, Log.moves drained.2.log = Stage.trail none stages ∧ stages.getLast? = some .failed ∧
        (.dispatched ∈ stages ↔ ∃ made ∈ drained.2.peer.1.calls, made.1.Succeeds) := by
  intro b files site drained
  have uninvolved : b.Uninvolved := ⟨fun _ _ => rfl, fun _ _ => ⟨[], (List.append_nil _).symm, rfl⟩⟩
  have last : drained.2.stage = some .failed := by decide
  obtain ⟨-, stages, ⟨⟨records, logged, moves⟩, -, stage⟩, told, -⟩ :=
    drain_stages uninvolved (some "R") 7 "q" site
  refine ⟨uninvolved, last, told.failed.mp last, stages, ?_, stage.symm.trans last, told.dispatched⟩
  rw [← moves]
  exact congrArg Log.moves logged

end AccountSync
