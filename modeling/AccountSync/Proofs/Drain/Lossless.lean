import AccountSync.Proofs.Drain.Journal
import AccountSync.Proofs.Drain.Outcome
import AccountSync.Proofs.Files.Lookup

/-!
# No queue file is lost

Drains run one after another, with a backend that keeps its hands off the files and the controller.
A file goes exactly when a drain of it returns, and is not dispatched again (`attempts_lossless`).
-/

namespace AccountSync

variable {σ : Type}

/-- The backend changes no files and starts no drain; what it raises is no failure of the tool. -/
structure Backend.Quiet (b : Backend σ) : Prop where
  files : ∀ request site, ((b.perform request).run site).2.files = site.files
  stage : ∀ request site, ((b.perform request).run site).2.stage = site.stage
  raises : ∀ request site f, ((b.perform request).run site).1 ≠ .error (.failure f)

def Attempt.refusing (refusal : Option OsError) (file : String) : Attempt :=
  ⟨fun files => { files with refusal }, file⟩

namespace Call

def accepted (call : Call) : Bool :=
  match call.result with
  | .ok answer => answer.isOk
  | .error _ => false

end Call

namespace Visit

def returned (visit : Visit) : Bool := visit.result matches .ok _

def carriedOut (visit : Visit) : Bool :=
  match visit.result with
  | .ok _ => true
  | .error (.failure (.cannotUnlink ..)) => true
  | .error _ => false

theorem carriedOut_error {visit : Visit} {fault : Fault} (failed : visit.result = .error fault)
    (cause : ∀ file why, fault ≠ .failure (.cannotUnlink file why)) : visit.carriedOut = false := by
  unfold carriedOut
  split
  · next same =>
    rw [failed] at same
    cases same
  · next file why same =>
    rw [failed, Except.error.injEq] at same
    exact (cause file why same).elim
  · rfl

end Visit

namespace Activation

def successes (a : Activation) : Nat := a.calls.countP fun made => made.1.accepted

end Activation

/-! ### One drain -/

inductive Ended (realm : Option String) (limit : Int) (file : String) (found left : Files) :
    Except Fault Queue.Record → List (Call × List Activation) → Prop where
  | stopped {passed fault} (arrival : arrive realm limit file found = .stopped passed fault)
    (files : left = found) : Ended realm limit file found left (.error fault) []
  | unfinished {call fault record principal}
    (arrival : arrive realm limit file found = .ready record principal)
    (rejected : call.accepted = false) (cause : ∀ file why, fault ≠ .failure (.cannotUnlink file why))
    (files : left = found) : Ended realm limit file found left (.error fault) [(call, [])]
  | kept {call record principal why}
    (arrival : arrive realm limit file found = .ready record principal) (accepted : call.accepted)
    (files : left = found) :
    Ended realm limit file found left (.error (.failure (.cannotUnlink file why))) [(call, [])]
  | removed {call record principal}
    (arrival : arrive realm limit file found = .ready record principal) (accepted : call.accepted)
    (unlink : found.unlink (.ofText file) = .ok left) :
    Ended realm limit file found left (.ok record) [(call, [])]

namespace Backend.Quiet

theorem run_watched {b : Backend σ} (quiet : b.Quiet) (request : Request)
    (site : Site (Journal × σ)) {outcome : Except Fault Answer} {after : Site (Journal × σ)}
    (run : (b.watched.perform request).run site = (outcome, after)) :
    after.files = site.files ∧ after.stage = site.stage ∧ (∀ f, outcome ≠ .error (.failure f)) ∧
      after.peer.1.calls =
        site.peer.1.calls ++ [(⟨request, site.files, site.files, outcome⟩, [])] := by
  obtain ⟨rfl, files, stage, calls⟩ := b.run_watched run
  rw [quiet.files request site.forget] at files calls
  exact ⟨files, stage.trans (quiet.stage request site.forget), quiet.raises request site.forget, calls⟩

/-- What a drain finds after its one call. -/
theorem called {b : Backend σ} (quiet : b.Quiet) {request : Request} {file : String}
    {site after : Site (Journal × σ)} {outcome : Except Fault Answer}
    (fresh : site.peer.1.calls = [])
    (call : (b.watched.perform request).run (Controller.reached file site) = (outcome, after)) :
    after.files = site.files ∧ after.stage = some .parsed ∧ (∀ f, outcome ≠ .error (.failure f)) ∧
      after.peer.1.calls = [(⟨request, site.files, site.files, outcome⟩, [])] := by
  obtain ⟨files, stage, raises, calls⟩ := quiet.run_watched _ _ call
  rw [Controller.reached_peer, fresh] at calls
  rw [Controller.reached_stage] at stage
  exact ⟨files, stage, raises, calls⟩

theorem ended {b : Backend σ} (quiet : b.Quiet) (realm : Option String) (limit : Int)
    (file : String) (site : Site (Journal × σ)) (fresh : site.peer.1.calls = []) :
    let drained := (Controller.drain ⟨b.watched, realm, limit⟩ file).run site
    Ended realm limit file site.files drained.2.files drained.1 drained.2.peer.1.calls := by
  intro drained
  have course := course ⟨b.watched, realm, limit⟩ file site
  change Course _ _ _ drained.1 drained.2 at course
  generalize drained.1 = result at course ⊢
  generalize drained.2 = left at course ⊢
  cases course with
  | stopped arrival files peer =>
    rw [peer, fresh]
    exact .stopped arrival files
  | @unfinished _ _ outcome _ _ _ arrival call rejected cause files peer =>
    obtain ⟨sameFiles, parsed, raises, calls⟩ := quiet.called fresh call
    rw [peer, calls]
    refine .unfinished arrival ?_ ?_ (files.trans sameFiles)
    · cases outcome with
      | error fault => rfl
      | ok answer =>
        have refused : ¬ answer.isOk := fun accepted => rejected answer rfl accepted parsed
        simpa [Call.accepted] using refused
    · rintro other why rfl
      rcases cause with raised | ⟨defect, ⟨⟩⟩ | ⟨_, _, _, _, ⟨⟩⟩
      exact raises _ raised
  | kept arrival call accepted stage unlink files peer =>
    obtain ⟨sameFiles, -, -, calls⟩ := quiet.called fresh call
    rw [peer, calls]
    exact .kept arrival accepted (files.trans sameFiles)
  | removed arrival call accepted stage unlink peer last =>
    obtain ⟨sameFiles, -, -, calls⟩ := quiet.called fresh call
    rw [peer, calls]
    rw [sameFiles] at unlink
    exact .removed arrival accepted unlink

end Backend.Quiet

theorem stopped_cause {realm : Option String} {limit : Int} {file : String} {files : Files}
    {passed : List Stage} {fault : Fault}
    (arrival : arrive realm limit file files = .stopped passed fault) (other : String)
    (why : OsError) : fault ≠ .failure (.cannotUnlink other why) := by
  have reads := Queue.Record.raises_readWithin limit file
  refine stopped_raises (fun fault => fault ≠ .failure (.cannotUnlink other why)) nofun nofun ?_
    nofun arrival
  rintro source _ failed rfl
  exact reads source _ failed

namespace Ended

variable {realm : Option String} {limit : Int} {file : String} {start found left : Files}
  {gone : List String → Prop} {result : Except Fault Queue.Record}
  {calls : List (Call × List Activation)}

theorem successes (ended : Ended realm limit file found left result calls) :
    (Activation.mk ⟨file, found, left, result⟩ calls).successes =
      if (⟨file, found, left, result⟩ : Visit).carriedOut then 1 else 0 := by
  cases ended with
  | stopped arrival files =>
    rw [Visit.carriedOut_error rfl (stopped_cause arrival)]
    rfl
  | unfinished arrival rejected cause files =>
    rw [Visit.carriedOut_error rfl cause]
    simp [Activation.successes, Activation.calls, rejected]
  | kept arrival accepted files =>
    simp [Activation.successes, Activation.calls, accepted, Visit.carriedOut]
  | removed arrival accepted unlink =>
    simp [Activation.successes, Activation.calls, accepted, Visit.carriedOut]

theorem unchanged {fault : Fault} (ended : Ended realm limit file found left (.error fault) calls) :
    left = found := by
  cases ended with
  | stopped _ files => exact files
  | unfinished _ _ _ files => exact files
  | kept _ _ files => exact files

/-- A drain that returns erases the file that its path led to from the start. -/
theorem erased {record : Queue.Record} (direct : start.Direct (.ofText file))
    (remains : Files.Remains start found gone)
    (ended : Ended realm limit file found left (.ok record) calls) :
    ∃ names, start.fileAt? file = some names ∧ ¬ gone names ∧ left = found.erase names := by
  cases ended with
  | removed arrival accepted unlink =>
    obtain ⟨clean, source, opened, _⟩ := arrive_ready_iff.mp arrival
    cases known : start.fileAt? file with
    | none =>
      obtain ⟨why, unopened⟩ := remains.openSource_unknown clean known
      rw [opened] at unopened
      cases unopened
    | some names =>
      have kept : ¬ gone names := by
        intro lost
        rw [remains.openSource_gone known lost] at opened
        cases opened
      rw [remains.unlink_kept direct known kept] at unlink
      unfold Files.remove at unlink
      split at unlink
      · cases unlink
      · cases unlink
        exact ⟨names, rfl, kept, rfl⟩

theorem of_stopped {passed : List Stage} {fault : Fault}
    (arrives : arrive realm limit file found = .stopped passed fault)
    (ended : Ended realm limit file found left result calls) : result = .error fault ∧ calls = [] := by
  cases ended with
  | stopped arrival files =>
    cases arrives.symm.trans arrival
    exact ⟨rfl, rfl⟩
  | unfinished arrival => cases arrives.symm.trans arrival
  | kept arrival => cases arrives.symm.trans arrival
  | removed arrival => cases arrives.symm.trans arrival

theorem unopened (remains : Files.Remains start found gone)
    (ended : Ended realm limit file found left result calls) {names : List String}
    (known : start.fileAt? file = some names) (lost : gone names) :
    (∃ why, result = .error (.failure (.cannotOpen file why))) ∧ calls = [] := by
  have clean := (Files.fileAt?_eq_some known).1
  have arrives : arrive realm limit file found = .stopped [] (.failure (.cannotOpen file .noEntry)) :=
    arrive_unopened clean (remains.openSource_gone known lost)
  obtain ⟨failed, none⟩ := ended.of_stopped arrives
  exact ⟨⟨_, failed⟩, none⟩

end Ended

/-! ### Drains one after another -/

def Drained (start : Files) (drains : List Activation) (names : List String) : Prop :=
  ∃ a ∈ drains, start.fileAt? a.visit.file = some names ∧ a.visit.returned

/-- A drain of a file that was drained before cannot open it and makes no call. -/
def OnceOnly (start : Files) (earlier later : Activation) : Prop :=
  ∀ names, start.fileAt? earlier.visit.file = some names → earlier.visit.returned →
    start.fileAt? later.visit.file = some names →
    (∃ why, later.visit.result = .error (.failure (.cannotOpen later.visit.file why))) ∧
      later.calls = []

/-- What holds after each drain of a run that began with the files `start`. -/
structure Ledger (start : Files) (drains : List Activation) (now : Files) : Prop where
  remains : Files.Remains start now (Drained start drains)
  counted : ∀ a ∈ drains, a.successes = if a.visit.carriedOut then 1 else 0
  once : drains.Pairwise (OnceOnly start)

namespace Ledger

theorem start (files : Files) : Ledger files [] files where
  remains := by
    refine (Files.Remains.start files).of_iff fun names => ⟨?_, False.elim⟩
    rintro ⟨a, member, -⟩
    exact List.not_mem_nil member
  counted a member := (List.not_mem_nil member).elim
  once := .nil

theorem sum_successes {drains : List Activation}
    (counted : ∀ a ∈ drains, a.successes = if a.visit.carriedOut then 1 else 0) :
    (drains.map Activation.successes).sum = drains.countP (·.visit.carriedOut) := by
  induction drains with
  | nil => rfl
  | cons a rest ih =>
    obtain ⟨first, others⟩ := List.forall_mem_cons.mp counted
    rw [List.map_cons, List.sum_cons, List.countP_cons, ih others, first, Nat.add_comm]

theorem drained_append {start : Files} {drains : List Activation} {a : Activation}
    {names : List String} :
    Drained start (drains ++ [a]) names ↔
      Drained start drains names ∨ start.fileAt? a.visit.file = some names ∧ a.visit.returned := by
  simp [Drained, List.mem_append, or_and_right, exists_or]

theorem step {start now left : Files} {drains : List Activation} (ledger : Ledger start drains now)
    (refusal : Option OsError) {realm : Option String} {limit : Int} {file : String}
    (direct : start.Direct (.ofText file)) {result : Except Fault Queue.Record}
    {calls : List (Call × List Activation)}
    (ended : Ended realm limit file { now with refusal } left result calls) :
    Ledger start (drains ++ [.mk ⟨file, { now with refusal }, left, result⟩ calls]) left := by
  have remains := ledger.remains.refuse refusal
  refine ⟨?_, ?_, ?_⟩
  · -- only a drain that returns takes a file away
    cases result with
    | error fault =>
      rw [ended.unchanged]
      refine remains.of_iff fun names => ?_
      simp [drained_append, Activation.visit, Visit.returned]
    | ok record =>
      obtain ⟨names, known, kept, rfl⟩ := ended.erased direct remains
      obtain ⟨_, entry, isFile, stored, _⟩ := Files.fileAt?_eq_some known
      refine (remains.erase stored isFile).of_iff fun other => ?_
      simp [drained_append, Activation.visit, Visit.returned, known, eq_comm]
  · intro a member
    rcases List.mem_append.mp member with earlier | last
    · exact ledger.counted a earlier
    · rw [List.mem_singleton.mp last]
      exact ended.successes
  · refine List.pairwise_append.mpr ⟨ledger.once, List.pairwise_singleton _ _, ?_⟩
    intro earlier member later last names known returned again
    rw [List.mem_singleton.mp last] at again ⊢
    exact ended.unopened remains again ⟨earlier, member, known, returned⟩

theorem run {b : Backend σ} (quiet : b.Quiet) (realm : Option String) (limit : Int)
    {start : Files} (plan : List (Option OsError × String))
    (direct : ∀ planned ∈ plan, start.Direct (.ofText planned.2)) (site : Site (Journal × σ))
    (ledger : Ledger start site.peer.1.drains site.files) :
    let after := Controller.attempts ⟨b.watched, realm, limit⟩ site
      (plan.map fun planned => .refusing planned.1 planned.2)
    Ledger start after.peer.1.drains after.files ∧
      after.peer.1.drains.map (·.visit.file) =
        site.peer.1.drains.map (·.visit.file) ++ plan.map (·.2) := by
  induction plan generalizing site with
  | nil => exact ⟨ledger, by simp [Controller.attempts]⟩
  | cons planned rest ih =>
    obtain ⟨refusal, file⟩ := planned
    let c : Controller (Journal × σ) := ⟨b.watched, realm, limit⟩
    let started : Site (Journal × σ) := { site with files := { site.files with refusal } }
    have ended := quiet.ended realm limit file started.blank rfl
    obtain ⟨first, others⟩ := List.forall_mem_cons.mp direct
    have stepped := ledger.step refusal first ended
    obtain ⟨final, files⟩ := ih others (c.attempt site (.refusing refusal file)) stepped
    refine ⟨final, files.trans ?_⟩
    rw [c.drains_attempt, List.map_append, List.append_assoc]
    rfl

end Ledger

/-- A run of drains loses no file. A file of the start is gone in the end if and only if a drain of it
returned, and everything else is as it was. A file's drains made as many successful calls as of them
returned or could not remove it, and after one returned, the later ones could not open it and made
no call. -/
theorem attempts_lossless {b : Backend σ} (quiet : b.Quiet) (realm : Option String) (limit : Int)
    (site : Site σ) (plan : List (Option OsError × String))
    (direct : ∀ planned ∈ plan, site.files.Direct (.ofText planned.2)) :
    let attempts := plan.map fun planned => Attempt.refusing planned.1 planned.2
    let after := Controller.attempts ⟨b.watched, realm, limit⟩ site.watched attempts
    let drains := after.peer.1.drains
    after.forget = attempts.foldl (Controller.leave ⟨b, realm, limit⟩) site ∧
      drains.map (·.visit.file) = plan.map (·.2) ∧
      (∀ names entry, site.files.get? names = some entry → entry.isFile →
        (after.files.get? names = none ↔ Drained site.files drains names)) ∧
      (∀ names, ¬ Drained site.files drains names →
        after.files.get? names = site.files.get? names) ∧
      (∀ names,
        let own := drains.filter fun a => site.files.fileAt? a.visit.file = some names
        (own.map Activation.successes).sum = own.countP (·.visit.carriedOut)) ∧
      drains.Pairwise (OnceOnly site.files) := by
  obtain ⟨ledger, files⟩ := Ledger.run quiet realm limit plan direct site.watched (.start site.files)
  refine ⟨attempts_forget (follows_watched b) realm limit _ site.watched, files, ?_,
    ledger.remains.kept, ?_, ledger.once⟩
  · intro names entry stored isFile
    refine ⟨fun absent => ?_, fun drained => (ledger.remains.lost names drained).1⟩
    apply Classical.byContradiction
    intro kept
    rw [ledger.remains.kept names kept, stored] at absent
    cases absent
  · intro names own
    refine Ledger.sum_successes fun a member => ledger.counted a ?_
    exact (List.mem_filter.mp member).1

def Backend.willing : Backend Unit := ⟨fun _ => pure .success, pure ()⟩

theorem willing_quiet : Backend.willing.Quiet :=
  ⟨fun _ _ => rfl, fun _ _ => rfl, fun _ _ _ raised => nomatch raised⟩

/-- A file is kept while the system refuses to remove it, goes with its second drain, by a path
through a linked folder, and cannot be opened by the third. -/
theorem attempts_lossless_retried :
    let files : Files :=
      ⟨[(["d"], .folder), (["l"], .link "d"), (["d", "q"], .file (.ofBytes (Utf8.encode "u\nad\nenable\n")))],
        [], none⟩
    let plan := [(some OsError.busy, "d/q"), (none, "l/q"), (none, "./d/q")]
    let after := Controller.attempts ⟨Backend.willing.watched, some "R", 8⟩ (Site.start files ()).watched
      (plan.map fun planned => Attempt.refusing planned.1 planned.2)
    Drained files after.peer.1.drains ["d", "q"] ∧
      after.peer.1.drains.Pairwise (OnceOnly files) := by
  intro files plan after
  have direct : ∀ planned ∈ plan, files.Direct (.ofText planned.2) := by decide
  obtain ⟨_, _, gone, _, _, once⟩ :=
    attempts_lossless willing_quiet (some "R") 8 (Site.start files ()) plan direct
  exact ⟨(gone ["d", "q"] _ rfl rfl).mp (by decide), once⟩

end AccountSync
