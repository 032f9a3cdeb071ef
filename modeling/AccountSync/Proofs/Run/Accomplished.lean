import AccountSync.Proofs.Drain.Lossless
import AccountSync.Proofs.Run.Watched

/-!
# Commands that are carried out

What a command asks for is carried out if every request was made, accepted, and the queue file, if
there is one, removed. A command with a confined backend succeeds exactly then (`run_watched_work`).
-/

namespace AccountSync

variable {σ : Type}

/-- The requests that a command stands for, in order. -/
inductive Asks (realm : Option String) (limit : Int) (files : Files) : Command → List Request → Prop where
  | now {user principal} (actions : List Action)
    (parsed : Principal.parse realm user = .ok principal) :
    Asks realm limit files (.immediate user actions)
      (actions.map fun action => ⟨realm, principal, action⟩)
  | queued {file source record principal} (clean : '\x00' ∉ file.toList)
    (opened : files.openSource (.ofText file) = .ok source)
    (read : ((Queue.Record.readWithin limit file).run source).1 = .ok record)
    (parsed : Principal.parse realm record.principalName = .ok principal) :
    Asks realm limit files (.drain file) [⟨realm, principal, record.action⟩]

/-- Each request was made, in order, and each call was answered with status zero. -/
def Fulfilled (requests : List Request) (calls : List Call) : Prop :=
  calls.map (fun call => call.request) = requests ∧ ∀ call ∈ calls, call.accepted

/-- The files that a command leaves once it is carried out: all of them, but for the queue file. -/
def Command.Leaves (files left : Files) : Command → Prop
  | .immediate .. => left = files
  | .drain file => files.unlink (.ofText file) = .ok left

structure Accomplished (realm : Option String) (limit : Int) (command : Command) (files left : Files)
    (calls : List Call) : Prop where
  asked : ∃ requests, Asks realm limit files command requests ∧ Fulfilled requests calls
  left : command.Leaves files left

theorem fulfilled_nil : Fulfilled [] [] := ⟨rfl, fun _ member => (List.not_mem_nil member).elim⟩

theorem fulfilled_cons {request : Request} {requests : List Request} {call : Call}
    {calls : List Call} : Fulfilled (request :: requests) (call :: calls) ↔
      (call.request = request ∧ call.accepted) ∧ Fulfilled requests calls := by
  unfold Fulfilled
  rw [List.map_cons, List.cons.injEq, List.forall_mem_cons]
  exact and_and_and_comm

theorem asks_immediate_iff {realm : Option String} {limit : Int} {user : String}
    {actions : List Action} {files : Files} {requests : List Request} :
    Asks realm limit files (.immediate user actions) requests ↔ ∃ principal,
      Principal.parse realm user = .ok principal ∧
        requests = actions.map fun action => ⟨realm, principal, action⟩ := by
  constructor
  · intro asks
    cases asks with
    | @now _ principal _ parsed => exact ⟨principal, parsed, rfl⟩
  · rintro ⟨principal, parsed, rfl⟩
    exact .now actions parsed

theorem asks_drain_iff {realm : Option String} {limit : Int} {file : String} {files : Files}
    {requests : List Request} :
    Asks realm limit files (.drain file) requests ↔ ∃ record principal,
      arrive realm limit file files = .ready record principal ∧
        requests = [⟨realm, principal, record.action⟩] := by
  constructor
  · intro asks
    cases asks with
    | @queued _ source record principal clean opened read parsed =>
      have accepted : file.toList.contains '\x00' = false := by simpa using clean
      exact ⟨record, principal, arrive_ready_iff.mpr ⟨accepted, source, opened, read, parsed⟩, rfl⟩
  · rintro ⟨record, principal, arrival, rfl⟩
    obtain ⟨clean, source, opened, read, parsed⟩ := arrive_ready_iff.mp arrival
    exact .queued (by simpa using clean) opened read parsed

theorem settle_accomplished_iff {realm : Option String} {limit : Int} {file : String}
    (site : Site (Journal × σ)) {record : Queue.Record} {principal : Principal}
    (arrival : arrive realm limit file site.files = .ready record principal) {call : Call}
    (asked : call.request = ⟨realm, principal, record.action⟩) :
    let settled := Controller.settle file record (call.result, site)
    settled.1.map (fun _ => ()) = .ok () ↔
      Accomplished realm limit (.drain file) site.files settled.2.files [call] := by
  have alone : ∀ left : Files, Accomplished realm limit (.drain file) site.files left [call] ↔
      call.accepted ∧ site.files.unlink (.ofText file) = .ok left := by
    intro left
    constructor
    · rintro ⟨⟨requests, asks, fulfilled⟩, unlink⟩
      exact ⟨fulfilled.2 call (List.mem_singleton_self call), unlink⟩
    · rintro ⟨accepted, unlink⟩
      refine ⟨⟨_, asks_drain_iff.mpr ⟨record, principal, arrival, rfl⟩, ?_⟩, unlink⟩
      exact fulfilled_cons.mpr ⟨⟨asked, accepted⟩, fulfilled_nil⟩
  intro settled
  rw [alone, Call.accepted]
  cases result : call.result with
  | error fault =>
    have ended : settled.1 = .error fault := by
      change (Controller.settle file record (call.result, site)).1 = _
      rw [result]
      rfl
    rw [ended]
    exact ⟨fun done => (by cases done), fun both => by cases both.1⟩
  | ok answer =>
    have same : settled = Controller.settle file record (.ok answer, site) := by rw [← result]
    rw [same]
    by_cases accepted : answer.isOk
    · cases unlink : site.files.unlink (.ofText file) with
      | ok files =>
        rw [Controller.settle_removed accepted unlink]
        exact ⟨fun _ => ⟨accepted, rfl⟩, fun _ => rfl⟩
      | error why =>
        rw [Controller.settle_kept accepted unlink]
        exact ⟨fun done => (by cases done), fun both => by cases both.2⟩
    · rw [Controller.settle_refused accepted]
      exact ⟨fun done => (by cases done), fun both => (accepted both.1).elim⟩

/-! ### The calls of a command -/

/-- A journal with more calls, during which no drain was started. -/
def Journal.call (journal : Journal) (calls : List Call) : Journal :=
  ⟨journal.drains, journal.calls ++ calls.map fun call => (call, [])⟩

/-- The calls of a journal, without the drains that were started during them. -/
def Journal.made (journal : Journal) : List Call := journal.calls.map fun call => call.1

theorem Journal.made_call (calls : List Call) : (Journal.empty.call calls).made = calls := by
  simp [made, call, empty, Function.comp_def]

/-- What a call does where a journal is kept. -/
theorem Backend.run_watched_eq (b : Backend σ) (request : Request) (site : Site (Journal × σ)) :
    let ended := (b.perform request).run site.forget
    let call : Call := ⟨request, site.files, ended.2.files, ended.1⟩
    (b.watched.perform request).run site =
      (call.result, { ended.2 with peer := (site.peer.1.call [call], ended.2.peer) }) := rfl

section

variable {memories : σ → Prop} {allowed : Fault → Prop} {b : Backend σ}
  (confined : b.Confined memories allowed)

include confined

theorem run_watched_call (request : Request) (formed : request.principal.WellFormed)
    (site : Site (Journal × σ)) (known : memories site.peer.2) :
    ∃ events memory call, call.request = request ∧
      (b.watched.perform request).run site =
        (call.result, site.absorb events (site.peer.1.call [call], memory)) ∧
      memories memory := by
  obtain ⟨events, memory, left, _, kept, _⟩ := confined.perform request formed site.forget known
  have performed := b.run_watched_eq request site
  generalize (b.perform request).run site.forget = ended at left performed
  obtain ⟨result, after⟩ := ended
  obtain rfl : after = site.forget.absorb events memory := left
  exact ⟨events, memory, ⟨request, site.files, site.files, result⟩, rfl, performed, kept⟩

theorem run_watched_dispatch (realm : Option String) {principal : Principal}
    (formed : principal.WellFormed) (action : Action) (name : String) (site : Site (Journal × σ))
    (known : memories site.peer.2) :
    ∃ events memory call, call.request = ⟨realm, principal, action⟩ ∧ memories memory ∧
      let ran := (dispatch b.watched realm principal action name).run site
      ran.2 = site.absorb events (site.peer.1.call [call], memory) ∧
        (ran.1 = .ok () ↔ call.accepted) := by
  obtain ⟨events, memory, call, asked, ran, kept⟩ :=
    run_watched_call confined ⟨realm, principal, action⟩ formed site known
  rw [run_dispatch, ran]
  unfold Call.accepted
  cases result : call.result with
  | error fault =>
    refine ⟨events, memory, call, asked, kept, ?_⟩
    rw [result]
    exact ⟨rfl, fun done => (by cases done), fun accepts => by cases accepts⟩
  | ok answer =>
    dsimp only
    by_cases accepted : answer.isOk
    · refine ⟨events ++ [action.notice name], memory, call, asked, kept, ?_⟩
      rw [if_pos accepted, result]
      exact ⟨site.absorb_absorb events [action.notice name] _ _, fun _ => accepted, fun _ => rfl⟩
    · refine ⟨events, memory, call, asked, kept, ?_⟩
      rw [if_neg accepted, result]
      exact ⟨rfl, fun done => (by cases done), fun accepts => (accepted accepts).elim⟩

/-- By induction on the actions: the first call that is not accepted is the last one. -/
theorem run_watched_dispatches (realm : Option String) {principal : Principal}
    (formed : principal.WellFormed) (name : String) (actions : List Action)
    (site : Site (Journal × σ)) (known : memories site.peer.2) :
    ∃ events memory calls,
      let ran := (actions.forM fun action => dispatch b.watched realm principal action name).run site
      ran.2 = site.absorb events (site.peer.1.call calls, memory) ∧
        (ran.1 = .ok () ↔
          Fulfilled (actions.map fun action => ⟨realm, principal, action⟩) calls) := by
  induction actions generalizing site with
  | nil =>
    have idle : (([] : List Action).forM fun action =>
        dispatch b.watched realm principal action name).run site = (.ok (), site) := rfl
    refine ⟨[], site.peer.2, [], ?_⟩
    rw [idle]
    refine ⟨?_, fun _ => fulfilled_nil, fun _ => rfl⟩
    simp [Site.absorb, Journal.call]
  | cons action rest ih =>
    obtain ⟨events, memory, call, asked, kept, left, passed⟩ :=
      run_watched_dispatch confined realm formed action name site known
    dsimp only
    rw [List.forM, Act.run_bind]
    generalize (dispatch b.watched realm principal action name).run site = ran at left passed
    obtain ⟨result, after⟩ := ran
    obtain rfl : after = site.absorb events (site.peer.1.call [call], memory) := left
    cases result with
    | error fault =>
      have refused : ¬ call.accepted := fun accepted => by cases passed.mpr accepted
      refine ⟨events, memory, [call], rfl, fun done => (by cases done), fun fulfilled => ?_⟩
      exact (refused (fulfilled_cons.mp fulfilled).1.2).elim
    | ok _ =>
      obtain ⟨more, last, calls, left', passed'⟩ :=
        ih (site.absorb events (site.peer.1.call [call], memory)) kept
      refine ⟨events ++ more, last, call :: calls, ?_, ?_⟩
      · rw [left', Site.absorb_absorb]
        simp [Site.absorb, Journal.call]
      · rw [List.map_cons, fulfilled_cons, passed']
        exact ⟨fun others => ⟨⟨asked, passed.mp rfl⟩, others⟩, fun both => both.2⟩

theorem run_watched_drain (realm : Option String) (limit : Int) (file : String)
    (site : Site (Journal × σ)) (known : memories site.peer.2) :
    ∃ calls,
      let ran := (route b.watched realm limit (.drain file)).run site
      ran.2.peer.1 = site.peer.1.call calls ∧
        (ran.1 = .ok () ↔ Accomplished realm limit (.drain file) site.files ran.2.files calls) := by
  rw [route, run_discard]
  cases arrival : arrive realm limit file site.files with
  | stopped passed fault =>
    rw [Controller.run_drain_stopped ⟨b.watched, realm, limit⟩ arrival]
    refine ⟨[], ?_, fun done => (by cases done), ?_⟩
    · simp [remark, Journal.call]
    · rintro ⟨⟨requests, asks, _⟩, _⟩
      obtain ⟨record, principal, ready, _⟩ := asks_drain_iff.mp asks
      cases arrival.symm.trans ready
  | ready record principal =>
    obtain ⟨_, _, _, _, parsed⟩ := arrive_ready_iff.mp arrival
    obtain ⟨events, memory, call, asked, ran, _⟩ :=
      run_watched_call confined ⟨realm, principal, record.action⟩
        (Principal.parse_wellFormed parsed) (Controller.reached file site) known
    rw [Controller.run_drain_ready ⟨b.watched, realm, limit⟩ arrival ran rfl]
    have onward := Site.Onward.settle file record call.result
      ((Controller.reached file site).absorb events (site.peer.1.call [call], memory))
    have settled := settle_accomplished_iff
      ((Controller.reached file site).absorb events (site.peer.1.call [call], memory)) arrival asked
    exact ⟨[call], congrArg Prod.fst onward.peer, settled⟩

theorem run_watched_route (realm : Option String) (limit : Int) (command : Command)
    (site : Site (Journal × σ)) (known : memories site.peer.2) :
    ∃ calls,
      let ran := (route b.watched realm limit command).run site
      ran.2.peer.1 = site.peer.1.call calls ∧
        (ran.1 = .ok () ↔ Accomplished realm limit command site.files ran.2.files calls) := by
  cases command with
  | drain file => exact run_watched_drain confined realm limit file site known
  | immediate user actions =>
    rw [route, Act.run_bind, run_resolve]
    cases parsed : Principal.parse realm user with
    | error why =>
      refine ⟨[], by simp [Journal.call], fun done => (by cases done), ?_⟩
      rintro ⟨⟨requests, asks, _⟩, _⟩
      obtain ⟨principal, accepted, _⟩ := asks_immediate_iff.mp asks
      cases parsed.symm.trans accepted
    | ok principal =>
      obtain ⟨events, memory, calls, left, passed⟩ := run_watched_dispatches confined realm
        (Principal.parse_wellFormed parsed) user actions site known
      dsimp only at left passed ⊢
      rw [left, passed]
      refine ⟨calls, rfl, fun fulfilled => ?_, fun accomplished => ?_⟩
      · exact ⟨⟨_, asks_immediate_iff.mpr ⟨principal, parsed, rfl⟩, fulfilled⟩, rfl⟩
      · obtain ⟨⟨requests, asks, fulfilled⟩, _⟩ := accomplished
        obtain ⟨other, accepted, rfl⟩ := asks_immediate_iff.mp asks
        cases parsed.symm.trans accepted
        exact fulfilled

end

/-- Closing the backend leaves the files and the journal as they are. -/
theorem run_watched_work {memories : σ → Prop} {b : Backend σ}
    (confined : b.Confined memories fun _ => True) (realm : Option String)
    (limit : Int) (command : Command) (site : Site σ) (known : memories site.peer) :
    let ran := ((route b.watched realm limit command).ensuring b.watched.close).run site.watched
    ran.1 = .ok () ↔
      Accomplished realm limit command site.files ran.2.files ran.2.peer.1.made := by
  have routed := route_kept confined (fun _ => trivial) realm limit command site
    (fun _ _ _ _ _ => trivial) known
  have forgotten : site = site.watched.forget := rfl
  rw [forgotten, follows_route (follows_watched b) realm limit command site.watched] at routed
  obtain ⟨calls, journal, passed⟩ :=
    run_watched_route confined realm limit command site.watched known
  dsimp only at journal passed ⊢
  generalize ran : (route b.watched realm limit command).run site.watched = ended
    at routed journal passed
  have closes : b.watched.close.Confined
      (fun memory => memory.1 = ended.2.peer.1 ∧ memories memory.2) (fun _ => False) fun _ => True :=
    confined.close.aside fun other => other = ended.2.peer.1
  obtain ⟨events, memory, left, _, ⟨same, _⟩, _⟩ := closes ended.2 ⟨rfl, routed.known⟩
  subst ran
  rw [closes.run_ensuring ⟨rfl, routed.known⟩, left]
  have made : memory.1.made = calls := by
    rw [same, journal]
    exact Journal.made_call calls
  dsimp only [Site.absorb]
  rw [made]
  exact passed

end AccountSync
