import AccountSync.Proofs.Drain.Course
import AccountSync.Proofs.Queue.Faults

/-!
# The outcome of a drain

A backend that leaves the stage as it finds it lets every drain go its way to the end: then
`run_drain_stopped` and `run_drain_ready` say all that a drain does, and no stage is ever refused.
What stops a drain before its call is one of four things (`stopped_raises`).
-/

namespace AccountSync

variable {σ α : Type}

/-- A failure is the last stage of a drain. A defect leaves the stage. -/
def Site.stop (site : Site σ) : Fault → Site σ
  | .failure _ => site.move .failed
  | .defect _ => site

namespace Site

@[simp] theorem stop_peer (site : Site σ) (fault : Fault) : (site.stop fault).peer = site.peer := by
  cases fault <;> rfl

end Site

theorem conclude_stop {site : Site σ} (follows : .failed ∈ Stage.successors site.stage)
    (fault : Fault) :
    conclude (.error fault, site) = ((.error fault, site.stop fault) : Except Fault α × Site σ) := by
  cases fault with
  | failure f => exact if_pos follows
  | defect d => rfl

namespace Controller

/-- What a drain makes of the outcome of its call, if the call left the stage as it was. -/
def settle (file : String) (record : Queue.Record) :
    Except Fault Answer × Site σ → Except Fault Queue.Record × Site σ
  | (.error fault, site) => (.error fault, site.stop fault)
  | (.ok answer, site) =>
    if answer.isOk then
      let carried := (site.note (record.action.notice record.principalName)).move .dispatched
      match site.files.unlink (.ofText file) with
      | .ok files => (.ok record, { carried with files }.move .deleted)
      | .error why => (.error (.failure (.cannotUnlink file why)), carried.move .failed)
    else
      (.error (.failure (.backendRefused record.action.operation record.principalName answer.status
        answer.message)), site.move .failed)

section

variable {file : String} {record : Queue.Record} {answer : Answer} {site : Site σ}

theorem settle_refused (refused : ¬ answer.isOk) :
    settle file record (.ok answer, site) =
      (.error (.failure (.backendRefused record.action.operation record.principalName answer.status
        answer.message)), site.move .failed) :=
  if_neg refused

theorem settle_kept (accepted : answer.isOk) {why : OsError}
    (unlink : site.files.unlink (.ofText file) = .error why) :
    settle file record (.ok answer, site) =
      (.error (.failure (.cannotUnlink file why)),
        ((site.note (record.action.notice record.principalName)).move .dispatched).move .failed) := by
  rw [settle, if_pos accepted]
  dsimp only
  rw [unlink]

theorem settle_removed (accepted : answer.isOk) {files : Files}
    (unlink : site.files.unlink (.ofText file) = .ok files) :
    settle file record (.ok answer, site) =
      (.ok record, { (site.note (record.action.notice record.principalName)).move .dispatched with
        files }.move .deleted) := by
  rw [settle, if_pos accepted]
  dsimp only
  rw [unlink]

end

theorem conclude_finish {file : String} {record : Queue.Record}
    (outcome : Except Fault Answer × Site σ) (stage : outcome.2.stage = some .parsed) :
    conclude (finish file record outcome) = settle file record outcome := by
  obtain ⟨result, site⟩ := outcome
  change site.stage = some .parsed at stage
  have follows : .failed ∈ Stage.successors site.stage := by
    rw [stage]
    decide
  cases result with
  | error fault => exact conclude_stop follows fault
  | ok answer =>
    by_cases accepted : answer.isOk
    · have noted : (site.note (record.action.notice record.principalName)).stage = some .parsed := stage
      rw [finish, if_pos accepted, complete_parsed noted, Site.note_files]
      cases unlink : site.files.unlink (.ofText file) with
      | ok files =>
        rw [settle_removed accepted unlink]
        rfl
      | error why =>
        rw [settle_kept accepted unlink]
        rfl
    · rw [finish, if_neg accepted, settle_refused accepted]
      exact conclude_stop follows _

section

variable (c : Controller σ) {file : String} {site : Site σ}

theorem run_drain_stopped {passed : List Stage} {fault : Fault}
    (arrival : arrive c.realm c.lineLimit file site.files = .stopped passed fault) :
    (c.drain file).run site =
      remark site.queueFile (.error fault, ((site.enter file).pass passed).stop fault) := by
  rw [run_drain, pursue_stopped c (site.enter file) arrival,
    conclude_stop (Course.failed_follows arrival site)]

theorem run_drain_ready {record : Queue.Record} {principal : Principal}
    (arrival : arrive c.realm c.lineLimit file site.files = .ready record principal)
    {outcome : Except Fault Answer × Site σ}
    (call : (c.backend.perform ⟨c.realm, principal, record.action⟩).run (reached file site) = outcome)
    (stage : outcome.2.stage = some .parsed) :
    (c.drain file).run site = remark site.queueFile (settle file record outcome) := by
  rw [run_drain, pursue_ready c (site.enter file) arrival]
  change remark _ (conclude (finish file record ((c.backend.perform _).run (reached file site)))) = _
  rw [call, conclude_finish outcome stage]

end

end Controller

/-! ### What stops a drain -/

theorem stopped_raises {realm : Option String} {limit : Int} {file : String} {files : Files}
    {passed : List Stage} {fault : Fault} (about : Fault → Prop)
    (path : about (.defect .nulInPath)) (opens : ∀ why, about (.failure (.cannotOpen file why)))
    (reads : Queue.Record.Raises about (Queue.Record.readWithin limit file))
    (parses : ∀ name why, about (.failure (.badPrincipal name why)))
    (arrival : arrive realm limit file files = .stopped passed fault) : about fault := by
  cases arrive_stopped arrival with
  | nul => exact path
  | unopened => exact opens _
  | unread _ failed => exact reads _ _ failed
  | unparsed => exact parses _ _

end AccountSync
