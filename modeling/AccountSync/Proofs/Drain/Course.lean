import AccountSync.Drain.Basic

/-!
# The course of a drain

`Controller.run_drain` says all that a drain does, whatever its backend: `arrive` is what it finds
out by itself, `finish` what it does with the outcome of the one call, and `conclude` how a failure
becomes the last stage.
-/

namespace AccountSync

variable {σ α : Type}

/-! ### Steps -/

namespace Site

def note (event : Log.Event) (site : Site σ) : Site σ :=
  { site with log := site.log ++ [⟨event, site.queueFile⟩] }

def move (site : Site σ) (next : Stage) : Site σ :=
  { site.note (.drainStage site.stage next) with stage := some next }

def pass (site : Site σ) (stages : List Stage) : Site σ := stages.foldl move site

def enter (site : Site σ) (file : String) : Site σ :=
  { site with stage := none, queueFile := some file }

@[simp] theorem note_files (event : Log.Event) (site : Site σ) :
    (site.note event).files = site.files := rfl

@[simp] theorem move_files (site : Site σ) (next : Stage) : (site.move next).files = site.files := rfl

@[simp] theorem move_peer (site : Site σ) (next : Stage) : (site.move next).peer = site.peer := rfl

@[simp] theorem move_stage (site : Site σ) (next : Stage) : (site.move next).stage = some next := rfl

@[simp] theorem pass_files (site : Site σ) (stages : List Stage) :
    (site.pass stages).files = site.files := by
  induction stages generalizing site with
  | nil => rfl
  | cons next rest ih => exact (ih _).trans (move_files site next)

@[simp] theorem pass_peer (site : Site σ) (stages : List Stage) :
    (site.pass stages).peer = site.peer := by
  induction stages generalizing site with
  | nil => rfl
  | cons next rest ih => exact (ih _).trans (move_peer site next)

@[simp] theorem enter_files (site : Site σ) (file : String) :
    (site.enter file).files = site.files := rfl

@[simp] theorem enter_peer (site : Site σ) (file : String) : (site.enter file).peer = site.peer := rfl

@[simp] theorem enter_stage (site : Site σ) (file : String) : (site.enter file).stage = none := rfl

end Site

def remark (mark : Option String) (outcome : Except Fault α × Site σ) : Except Fault α × Site σ :=
  (outcome.1, { outcome.2 with queueFile := mark })

theorem run_marked (file : String) (x : Act σ α) (site : Site σ) :
    (Act.marked file x).run site =
      remark site.queueFile (x.run { site with queueFile := some file }) := rfl

theorem run_discard {α : Type} (x : Act σ α) (site : Site σ) :
    (discard x : Act σ Unit).run site = ((x.run site).1.map fun _ => (), (x.run site).2) := by
  change ((fun _ => ()) <$> x : Act σ Unit).run site = _
  rw [map_eq_pure_bind, Act.run_bind]
  obtain ⟨result, after⟩ := x.run site
  cases result with
  | ok a => rfl
  | error fault => rfl

theorem run_advance (next : Stage) (site : Site σ) :
    (advance next).run site =
      if next ∈ Stage.successors site.stage then (.ok (), site.move next)
      else (.error (.defect (.invalidTransition site.stage next)), site) := by
  unfold advance
  rw [Act.run_bind]
  change Act.run (if _ then _ else _) site = _
  split
  · rfl
  · rfl

theorem run_checkPath (file : String) (site : Site σ) :
    (checkPath file).run site =
      if file.toList.contains '\x00' then (.error (.defect .nulInPath), site)
      else (.ok (.ofText file), site) := by
  unfold checkPath
  split
  · rfl
  · rfl

theorem run_openFile (file : String) (path : Path) (site : Site σ) :
    (openFile file path).run site =
      match site.files.openSource path with
      | .ok source => (.ok source, site)
      | .error why => (.error (.failure (.cannotOpen file why)), site) := by
  unfold openFile
  rw [Act.run_bind]
  change Act.run (match site.files.openSource path with | .ok _ => _ | .error _ => _) site = _
  cases site.files.openSource path with
  | ok source => rfl
  | error why => rfl

theorem run_readRecord (limit : Int) (file : String) (source : Queue.Source) (site : Site σ) :
    (readRecord limit file source).run site =
      (((Queue.Record.readWithin limit file).run source).1, site) := by
  unfold readRecord
  obtain ⟨result, rest⟩ := (Queue.Record.readWithin limit file).run source
  cases result with
  | ok record => rfl
  | error fault => rfl

theorem run_resolve (realm : Option String) (text : String) (site : Site σ) :
    (resolve realm text).run site =
      match Principal.parse realm text with
      | .ok principal => (.ok principal, site)
      | .error why => (.error (.failure (.badPrincipal text why)), site) := by
  unfold resolve
  cases Principal.parse realm text with
  | ok principal => rfl
  | error why => rfl

theorem run_dispatch (backend : Backend σ) (realm : Option String) (principal : Principal)
    (action : Action) (name : String) (site : Site σ) :
    (dispatch backend realm principal action name).run site =
      match (backend.perform ⟨realm, principal, action⟩).run site with
      | (.ok answer, after) =>
        if answer.isOk then (.ok (), after.note (action.notice name))
        else (.error (.failure
          (.backendRefused action.operation name answer.status answer.message)), after)
      | (.error fault, after) => (.error fault, after) := by
  unfold dispatch
  rw [Act.run_bind]
  obtain ⟨result, after⟩ := (backend.perform ⟨realm, principal, action⟩).run site
  cases result with
  | error fault => rfl
  | ok answer =>
    change Act.run (if answer.isOk then _ else _) after = if answer.isOk then _ else _
    split
    · rfl
    · rfl

theorem run_unlinkFile (file : String) (path : Path) (site : Site σ) :
    (unlinkFile file path).run site =
      match site.files.unlink path with
      | .ok files => (.ok (), { site with files })
      | .error why => (.error (.failure (.cannotUnlink file why)), site) := by
  unfold unlinkFile
  rw [Act.run_bind]
  change Act.run (match site.files.unlink path with | .ok _ => _ | .error _ => _) site = _
  cases site.files.unlink path with
  | ok files => rfl
  | error why => rfl

/-! ### A whole drain -/

/-- What a drain finds out before it calls the backend: why it stops, and after which stages, or
whom its record is about. -/
inductive Arrival where
  | stopped (passed : List Stage) (fault : Fault)
  | ready (record : Queue.Record) (principal : Principal)

def arrive (realm : Option String) (limit : Int) (file : String) (files : Files) : Arrival :=
  if file.toList.contains '\x00' then .stopped [] (.defect .nulInPath)
  else
    match files.openSource (.ofText file) with
    | .error why => .stopped [] (.failure (.cannotOpen file why))
    | .ok source =>
      match ((Queue.Record.readWithin limit file).run source).1 with
      | .error fault => .stopped [.opened] fault
      | .ok record =>
        match Principal.parse realm record.principalName with
        | .error why =>
          .stopped [.opened, .parsed] (.failure (.badPrincipal record.principalName why))
        | .ok principal => .ready record principal

section Arrival

variable {realm : Option String} {limit : Int} {file : String} {files : Files}

theorem arrive_ready_iff {record : Queue.Record} {principal : Principal} :
    arrive realm limit file files = .ready record principal ↔
      file.toList.contains '\x00' = false ∧ ∃ source, files.openSource (.ofText file) = .ok source ∧
        ((Queue.Record.readWithin limit file).run source).1 = .ok record ∧
        Principal.parse realm record.principalName = .ok principal := by
  constructor
  · intro ready
    unfold arrive at ready
    split at ready
    · cases ready
    next clean =>
    split at ready
    · cases ready
    next source opened =>
    split at ready
    · cases ready
    next record' read =>
    split at ready
    · cases ready
    next principal' parsed =>
    cases ready
    exact ⟨by simpa using clean, source, opened, read, parsed⟩
  · rintro ⟨clean, source, opened, read, parsed⟩
    simp only [arrive, clean, opened, read, parsed, Bool.false_eq_true, if_false]

/-- Why a drain stops before its call, and after which stages. -/
inductive Halt (realm : Option String) (limit : Int) (file : String) (files : Files) :
    List Stage → Fault → Prop where
  | nul (path : file.toList.contains '\x00') : Halt realm limit file files [] (.defect .nulInPath)
  | unopened {why} (opens : files.openSource (.ofText file) = .error why) :
    Halt realm limit file files [] (.failure (.cannotOpen file why))
  | unread {source fault} (opens : files.openSource (.ofText file) = .ok source)
    (reads : ((Queue.Record.readWithin limit file).run source).1 = .error fault) :
    Halt realm limit file files [.opened] fault
  | unparsed {source record why} (opens : files.openSource (.ofText file) = .ok source)
    (reads : ((Queue.Record.readWithin limit file).run source).1 = .ok record)
    (parses : Principal.parse realm record.principalName = .error why) :
    Halt realm limit file files [.opened, .parsed] (.failure (.badPrincipal record.principalName why))

theorem arrive_stopped {passed : List Stage} {fault : Fault}
    (arrival : arrive realm limit file files = .stopped passed fault) :
    Halt realm limit file files passed fault := by
  unfold arrive at arrival
  split at arrival
  · next path =>
    cases arrival
    exact .nul path
  split at arrival
  · next opens =>
    cases arrival
    exact .unopened opens
  next source opens =>
  split at arrival
  · next reads =>
    cases arrival
    exact .unread opens reads
  next record reads =>
  split at arrival
  · next parses =>
    cases arrival
    exact .unparsed opens reads parses
  · cases arrival

theorem arrive_unopened {why : OsError} (clean : file.toList.contains '\x00' = false)
    (unopened : files.openSource (.ofText file) = .error why) :
    arrive realm limit file files = .stopped [] (.failure (.cannotOpen file why)) := by
  rw [arrive, unopened, clean]
  rfl

end Arrival

/-- A failure enters the stage `failed`, if that stage may follow. -/
def conclude : Except Fault α × Site σ → Except Fault α × Site σ
  | (.error (.failure f), site) =>
    if .failed ∈ Stage.successors site.stage then (.error (.failure f), site.move .failed)
    else (.error (.defect (.invalidTransition site.stage .failed)), site)
  | outcome => outcome

theorem run_onFailure (x : Act σ α) (site : Site σ) :
    (Act.onFailure x (advance .failed)).run site = conclude (x.run site) := by
  unfold Act.onFailure
  change (match x.run site with | (.error (.failure f), after) => _ | outcome => outcome) = _
  obtain ⟨result, after⟩ := x.run site
  cases result with
  | ok a => rfl
  | error fault =>
    cases fault with
    | defect d => rfl
    | failure f =>
      simp only [run_advance, conclude]
      by_cases allowed : Stage.failed ∈ Stage.successors after.stage
      · simp only [allowed, if_true]
      · simp only [allowed, if_false]

namespace Controller

def complete (file : String) (record : Queue.Record) (site : Site σ) :
    Except Fault Queue.Record × Site σ :=
  if .dispatched ∈ Stage.successors site.stage then
    match site.files.unlink (.ofText file) with
    | .ok files => (.ok record, { site.move .dispatched with files }.move .deleted)
    | .error why => (.error (.failure (.cannotUnlink file why)), site.move .dispatched)
  else (.error (.defect (.invalidTransition site.stage .dispatched)), site)

theorem dispatched_follows {stage : Option Stage} :
    .dispatched ∈ Stage.successors stage ↔ stage = some .parsed := by
  cases stage with
  | none => decide
  | some stage => cases stage <;> decide

theorem complete_parsed {file : String} {record : Queue.Record} {site : Site σ}
    (stage : site.stage = some .parsed) :
    complete file record site =
      match site.files.unlink (.ofText file) with
      | .ok files => (.ok record, { site.move .dispatched with files }.move .deleted)
      | .error why => (.error (.failure (.cannotUnlink file why)), site.move .dispatched) :=
  if_pos (dispatched_follows.mpr stage)

theorem complete_unparsed {file : String} {record : Queue.Record} {site : Site σ}
    (stage : site.stage ≠ some .parsed) :
    complete file record site = (.error (.defect (.invalidTransition site.stage .dispatched)), site) :=
  if_neg (mt dispatched_follows.mp stage)

def finish (file : String) (record : Queue.Record) :
    Except Fault Answer × Site σ → Except Fault Queue.Record × Site σ
  | (.ok answer, site) =>
    if answer.isOk then complete file record (site.note (record.action.notice record.principalName))
    else
      (.error (.failure (.backendRefused record.action.operation record.principalName answer.status
        answer.message)), site)
  | (.error fault, site) => (.error fault, site)

theorem run_complete (file : String) (record : Queue.Record) (site : Site σ) :
    (do
      advance .dispatched
      unlinkFile file (.ofText file)
      advance .deleted
      return record : Act σ Queue.Record).run site = complete file record site := by
  unfold complete
  rw [Act.run_bind, run_advance]
  by_cases allowed : Stage.dispatched ∈ Stage.successors site.stage
  · simp only [allowed, if_true]
    rw [Act.run_bind, run_unlinkFile, Site.move_files]
    cases site.files.unlink (.ofText file) with
    | error why => rfl
    | ok files =>
      simp only [Act.run_bind, run_advance, Site.move_stage]
      rfl
  · simp only [allowed, if_false]

def pursue (c : Controller σ) (file : String) (site : Site σ) : Except Fault Queue.Record × Site σ :=
  match arrive c.realm c.lineLimit file site.files with
  | .stopped passed fault => (.error fault, site.pass passed)
  | .ready record principal =>
    finish file record ((c.backend.perform ⟨c.realm, principal, record.action⟩).run
      (site.pass [.opened, .parsed]))

theorem run_process (c : Controller σ) (file : String) (site : Site σ) (unopened : site.stage = none) :
    (c.process file).run site = c.pursue file site := by
  unfold process pursue arrive
  rw [Act.run_bind, run_checkPath]
  by_cases nul : file.toList.contains '\x00'
  · simp only [nul, if_true]
    rfl
  simp only [nul, if_false, Bool.false_eq_true]
  rw [Act.run_bind, run_openFile]
  cases site.files.openSource (.ofText file) with
  | error why => rfl
  | ok source =>
    have opens : Stage.opened ∈ Stage.successors site.stage := by
      rw [unopened]
      decide
    have parses : Stage.parsed ∈ Stage.successors (site.move .opened).stage := by
      rw [Site.move_stage]
      decide
    simp only [Act.run_bind, run_advance, opens, if_true, run_readRecord]
    cases ((Queue.Record.readWithin c.lineLimit file).run source).1 with
    | error fault => rfl
    | ok record =>
      simp only [parses, if_true, run_resolve]
      cases Principal.parse c.realm record.principalName with
      | error why => rfl
      | ok principal =>
        simp only [run_dispatch, Site.pass, List.foldl]
        obtain ⟨result, after⟩ := (c.backend.perform ⟨c.realm, principal, record.action⟩).run
          ((site.move .opened).move .parsed)
        cases result with
        | error fault => rfl
        | ok answer =>
          by_cases accepted : answer.isOk
          · simp only [finish, accepted, if_true, ← run_complete, Act.run_bind, run_advance]
          · simp only [finish, accepted, if_false, Bool.false_eq_true]

theorem pursue_stopped (c : Controller σ) {file : String} (site : Site σ) {passed : List Stage}
    {fault : Fault} (arrival : arrive c.realm c.lineLimit file site.files = .stopped passed fault) :
    c.pursue file site = (.error fault, site.pass passed) := by
  rw [pursue, arrival]

theorem pursue_ready (c : Controller σ) {file : String} (site : Site σ) {record : Queue.Record}
    {principal : Principal}
    (arrival : arrive c.realm c.lineLimit file site.files = .ready record principal) :
    c.pursue file site = finish file record ((c.backend.perform
      ⟨c.realm, principal, record.action⟩).run (site.pass [.opened, .parsed])) := by
  rw [pursue, arrival]

def reached (file : String) (site : Site σ) : Site σ := (site.enter file).pass [.opened, .parsed]

@[simp] theorem reached_peer (file : String) (site : Site σ) :
    (reached file site).peer = site.peer := rfl

@[simp] theorem reached_stage (file : String) (site : Site σ) :
    (reached file site).stage = some .parsed := rfl

theorem run_drain (c : Controller σ) (file : String) (site : Site σ) :
    (c.drain file).run site = remark site.queueFile (conclude (c.pursue file (site.enter file))) := by
  unfold drain
  rw [Act.run_bind]
  change (Act.marked file _).run { site with stage := none } = _
  rw [run_marked, run_onFailure, run_process c file _ rfl]
  rfl

end Controller

/-! ### The ways a drain goes -/

inductive Course (c : Controller σ) (file : String) (start : Site σ) :
    Except Fault Queue.Record → Site σ → Prop where
  | stopped {passed fault left}
    (arrival : arrive c.realm c.lineLimit file start.files = .stopped passed fault)
    (files : left.files = start.files) (peer : left.peer = start.peer) :
    Course c file start (.error fault) left
  /-- The backend fails, refuses, or leaves a stage from which the drain cannot go on. -/
  | unfinished {record principal outcome after fault left}
    (arrival : arrive c.realm c.lineLimit file start.files = .ready record principal)
    (call : (c.backend.perform ⟨c.realm, principal, record.action⟩).run
      (Controller.reached file start) = (outcome, after))
    (rejected : ∀ answer, outcome = .ok answer → answer.isOk → after.stage ≠ some .parsed)
    (cause : outcome = .error fault ∨ (∃ defect, fault = .defect defect) ∨
      ∃ operation name status message,
        fault = .failure (.backendRefused operation name status message))
    (files : left.files = after.files) (peer : left.peer = after.peer) :
    Course c file start (.error fault) left
  /-- The action was carried out, but its file cannot be removed. -/
  | kept {record principal answer after why left}
    (arrival : arrive c.realm c.lineLimit file start.files = .ready record principal)
    (call : (c.backend.perform ⟨c.realm, principal, record.action⟩).run
      (Controller.reached file start) = (.ok answer, after))
    (accepted : answer.isOk) (stage : after.stage = some .parsed)
    (unlink : after.files.unlink (.ofText file) = .error why)
    (files : left.files = after.files) (peer : left.peer = after.peer) :
    Course c file start (.error (.failure (.cannotUnlink file why))) left
  | removed {record principal answer after left}
    (arrival : arrive c.realm c.lineLimit file start.files = .ready record principal)
    (call : (c.backend.perform ⟨c.realm, principal, record.action⟩).run
      (Controller.reached file start) = (.ok answer, after))
    (accepted : answer.isOk) (stage : after.stage = some .parsed)
    (unlink : after.files.unlink (.ofText file) = .ok left.files)
    (peer : left.peer = after.peer) (last : left.stage = some .deleted) :
    Course c file start (.ok record) left

namespace Course

/-- A fault comes through, unless it is a failure that a former stage has to be left for. -/
theorem conclude_error (fault : Fault) (site : Site σ) :
    ∃ last left, (conclude (.error fault, site) : Except Fault α × Site σ) = (.error last, left) ∧
      left.files = site.files ∧ left.peer = site.peer ∧
      (last = fault ∨ ∃ defect, last = .defect defect) ∧
      (.failed ∈ Stage.successors site.stage → last = fault) := by
  cases fault with
  | defect d => exact ⟨.defect d, site, rfl, rfl, rfl, .inl rfl, fun _ => rfl⟩
  | failure f =>
    by_cases allowed : Stage.failed ∈ Stage.successors site.stage
    · exact ⟨.failure f, site.move .failed, by rw [conclude, if_pos allowed], rfl, rfl, .inl rfl,
        fun _ => rfl⟩
    · exact ⟨_, site, by rw [conclude, if_neg allowed], rfl, rfl, .inr ⟨_, rfl⟩,
        fun may => (allowed may).elim⟩

theorem failed_follows {realm : Option String} {limit : Int} {file : String} {files : Files}
    {passed : List Stage} {fault : Fault}
    (arrival : arrive realm limit file files = .stopped passed fault) (site : Site σ) :
    .failed ∈ Stage.successors ((site.enter file).pass passed).stage := by
  cases arrive_stopped arrival
  all_goals simp [Site.pass, Stage.successors]

theorem finishing {c : Controller σ} {file : String} {start : Site σ} {record : Queue.Record}
    {principal : Principal}
    (arrival : arrive c.realm c.lineLimit file start.files = .ready record principal)
    {outcome : Except Fault Answer} {after : Site σ}
    (call : (c.backend.perform ⟨c.realm, principal, record.action⟩).run
      (Controller.reached file start) = (outcome, after)) (mark : Option String) :
    Course c file start
      (remark mark (conclude (Controller.finish file record (outcome, after)))).1
      (remark mark (conclude (Controller.finish file record (outcome, after)))).2 := by
  cases outcome with
  | error fault =>
    obtain ⟨last, left, concluded, files, peer, cause, _⟩ :=
      conclude_error (α := Queue.Record) fault after
    rw [Controller.finish, concluded]
    refine .unfinished arrival call (fun _ same => nomatch same) ?_ files peer
    exact cause.elim (fun same => .inl (congrArg _ same.symm)) fun defect => .inr (.inl defect)
  | ok answer =>
    rw [Controller.finish]
    by_cases accepted : answer.isOk
    · rw [if_pos accepted]
      let noted := after.note (record.action.notice record.principalName)
      by_cases stage : noted.stage = some .parsed
      · rw [Controller.complete_parsed stage, Site.note_files]
        cases unlink : after.files.unlink (.ofText file) with
        | error why => exact .kept arrival call accepted stage unlink rfl rfl
        | ok files => exact .removed arrival call accepted stage unlink rfl rfl
      · rw [Controller.complete_unparsed stage]
        exact .unfinished arrival call (fun _ _ _ => stage) (.inr (.inl ⟨_, rfl⟩)) rfl rfl
    · obtain ⟨last, left, concluded, files, peer, cause, _⟩ :=
        conclude_error (α := Queue.Record) (.failure (.backendRefused record.action.operation
          record.principalName answer.status answer.message)) after
      rw [if_neg accepted, concluded]
      refine .unfinished arrival call ?_ ?_ files peer
      · rintro _ ⟨⟩ accepts
        exact absurd accepts accepted
      · exact cause.elim (fun same => .inr (.inr ⟨_, _, _, _, same⟩)) fun defect => .inr (.inl defect)

end Course

theorem course (c : Controller σ) (file : String) (site : Site σ) :
    Course c file site ((c.drain file).run site).1 ((c.drain file).run site).2 := by
  rw [Controller.run_drain]
  cases arrival : arrive c.realm c.lineLimit file site.files with
  | stopped passed fault =>
    obtain ⟨last, left, concluded, files, peer, _, through⟩ :=
      Course.conclude_error (α := Queue.Record) fault ((site.enter file).pass passed)
    cases through (Course.failed_follows arrival site)
    rw [Controller.pursue_stopped c (site.enter file) arrival, concluded]
    exact .stopped arrival (by simp [remark, files]) (by simp [remark, peer])
  | ready record principal =>
    rw [Controller.pursue_ready c (site.enter file) arrival]
    exact Course.finishing arrival rfl site.queueFile

end AccountSync
