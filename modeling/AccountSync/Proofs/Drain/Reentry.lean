import AccountSync.Proofs.Drain.Rival
import AccountSync.Proofs.Files.Lookup

/-!
# Re-entered controllers

All drains of a controller share its stage. A rival that drains inside a call leaves it at `deleted`
or fails, so the outer drain cannot go on to remove its file (`unlinks_safe`).
-/

namespace AccountSync

open Activation (Occurs)

variable {σ α β : Type}

/-- An activation unlinks only for a single call that reported success, that asked for the action of
the record in the file as it was opened, and that started no drain. -/
structure Activation.Safe (realm : Option String) (limit : Int) (a : Activation) : Prop where
  unlinks : a.Unlinks → ∃ source record principal taken answer,
    a.visit.found.openSource (.ofText a.visit.file) = .ok source ∧
    ((Queue.Record.readWithin limit a.visit.file).run source).1 = .ok record ∧
    Principal.parse realm record.principalName = .ok principal ∧
    a.calls = [(⟨⟨realm, principal, record.action⟩, a.visit.found, taken, .ok answer⟩, [])] ∧
    answer.status = 0 ∧ taken.unlink (.ofText a.visit.file) = .ok a.visit.left ∧
    a.visit.result = .ok record
  returned : ∀ record, a.visit.result = .ok record → a.Unlinks
  reentered : a.Reentered → (∃ fault, a.visit.result = .error fault) ∧ ¬ a.Unlinks

/-- `x` starts only safe drains. If it starts none, it leaves the stage as it is; if it starts some
and succeeds, it leaves the stage at `deleted`. -/
def Behaves (realm : Option String) (limit : Int) (x : Act (Journal × σ) α) : Prop :=
  ∀ site, ∃ started, (x.run site).2.peer.1.drains = site.peer.1.drains ++ started ∧
    (∀ a, Occurs a started → a.Safe realm limit) ∧
    (started = [] → (x.run site).2.stage = site.stage) ∧
    (∀ v, (x.run site).1 = .ok v → started ≠ [] → (x.run site).2.stage = some .deleted)

/-- The backend keeps a journal of each call, and its calls behave. -/
def Plays (realm : Option String) (limit : Int) (b : Backend (Journal × σ)) : Prop :=
  ∀ request, ∃ x, b.perform request = watchCall request x ∧ Behaves realm limit x

section

variable {realm : Option String} {limit : Int}

theorem behaves_still {x : Act (Journal × σ) α}
    (still : ∀ site, (x.run site).2.peer.1 = site.peer.1 ∧ (x.run site).2.stage = site.stage) :
    Behaves realm limit x := by
  intro site
  obtain ⟨journal, stage⟩ := still site
  refine ⟨[], by rw [journal, List.append_nil], ?_, fun _ => stage, fun _ _ some => (some rfl).elim⟩
  exact fun a occurs => (Activation.occurs_nil occurs).elim

/-- A move that leaves the journal and the stage, and then something that behaves. -/
theorem behaves_move {x : Act (Journal × σ) α}
    (move : ∀ site : Site (Journal × σ), ∃ (y : Act (Journal × σ) α) (moved : Site (Journal × σ)),
      Behaves realm limit y ∧ moved.peer.1 = site.peer.1 ∧ moved.stage = site.stage ∧
        x.run site = y.run moved) : Behaves realm limit x := by
  intro site
  obtain ⟨y, moved, behaves, journal, stage, same⟩ := move site
  rw [same, ← journal, ← stage]
  exact behaves moved

theorem behaves_bind {x : Act (Journal × σ) α} {f : α → Act (Journal × σ) β}
    (first : Behaves realm limit x) (next : ∀ a, Behaves realm limit (f a)) :
    Behaves realm limit (x >>= f) := by
  intro site
  rw [Act.run_bind]
  obtain ⟨started, drains, safe, idle, last⟩ := first site
  cases run : x.run site with
  | mk result after =>
    rw [run] at drains idle last
    cases result with
    | error fault => exact ⟨started, drains, safe, idle, fun _ same => nomatch same⟩
    | ok v =>
      obtain ⟨others, drains', safe', idle', last'⟩ := next v after
      refine ⟨started ++ others, ?_, ?_, ?_, ?_⟩
      · rw [drains', drains, List.append_assoc]
      · intro a occurs
        exact (Activation.occurs_append.mp occurs).elim (safe a) (safe' a)
      · intro none
        obtain ⟨rfl, rfl⟩ := List.append_eq_nil_iff.mp none
        exact (idle' rfl).trans (idle rfl)
      · intro w done some
        -- if the second part starts no drain, the stage is still where the first part left it
        by_cases more : others = []
        · rw [idle' more]
          refine last v rfl fun none => ?_
          exact some (by rw [none, more]; rfl)
        · exact last' w done more

theorem behaves_play {visit : String → Act (Journal × σ) Queue.Record}
    (visits : ∀ file, Behaves realm limit (visit file)) (play : Play σ) :
    Behaves realm limit (play.unwatched.run visit) := by
  induction play with
  | answer a => exact behaves_still fun _ => ⟨rfl, rfl⟩
  | raise fault => exact behaves_still fun _ => ⟨rfl, rfl⟩
  | look next ih => exact behaves_move fun site => ⟨_, site, ih site.forget, rfl, rfl, rfl⟩
  | change files next ih =>
    exact behaves_move fun site => ⟨_, { site with files }, ih, rfl, rfl, rfl⟩
  | remember memory next ih =>
    exact behaves_move fun site => ⟨_, { site with peer := (site.peer.1, memory) }, ih, rfl, rfl, rfl⟩
  | report event next ih =>
    exact behaves_bind (behaves_still fun _ => ⟨rfl, rfl⟩) fun _ => ih
  | drain file next ih => exact behaves_bind (visits file) ih

theorem run_watchCall {x : Act (Journal × σ) Answer} (behaves : Behaves realm limit x)
    (request : Request) (site : Site (Journal × σ)) {outcome : Except Fault Answer}
    {after : Site (Journal × σ)} (run : (watchCall request x).run site = (outcome, after)) :
    ∃ inner, after.peer.1.calls =
        site.peer.1.calls ++ [(⟨request, site.files, after.files, outcome⟩, inner)] ∧
      (∀ a, Occurs a inner → a.Safe realm limit) ∧ (inner = [] → after.stage = site.stage) ∧
      (∀ answer, outcome = .ok answer → inner ≠ [] → after.stage = some .deleted) := by
  obtain ⟨started, drains, safe, idle, last⟩ := behaves site.blank
  have begun : (x.run site.blank).2.peer.1.drains = started := drains
  cases run
  refine ⟨started, ?_, safe, idle, last⟩
  rw [← begun]

end

namespace Activation

theorem unlinks_nil {visit : Visit} : (mk visit []).Unlinks ↔ visit.found ≠ visit.left := by
  simp [Unlinks, stretches, Activation.visit, calls]

theorem unlinks_singleton {visit : Visit} {call : Call} {inner : List Activation} :
    (mk visit [(call, inner)]).Unlinks ↔ visit.found ≠ call.given ∨ call.taken ≠ visit.left := by
  simp [Unlinks, stretches, Activation.visit, calls]

theorem reentered_singleton {visit : Visit} {call : Call} {inner : List Activation} :
    (mk visit [(call, inner)]).Reentered ↔ inner ≠ [] := by
  constructor
  · rintro ⟨_, _, made, started⟩
    cases List.mem_singleton.mp made
    exact started
  · exact fun started => ⟨call, inner, List.mem_singleton_self _, started⟩

theorem safe_of_error {realm : Option String} {limit : Int} {a : Activation} {fault : Fault}
    (failed : a.visit.result = .error fault) (still : ¬ a.Unlinks) : a.Safe realm limit where
  unlinks unlinked := (still unlinked).elim
  returned record returned := by
    rw [failed] at returned
    cases returned
  reentered _ := ⟨⟨fault, failed⟩, still⟩

theorem safe_of_kept {realm : Option String} {limit : Int} {visit : Visit} {call : Call}
    {inner : List Activation} {fault : Fault} (failed : visit.result = .error fault)
    (given : visit.found = call.given) (taken : call.taken = visit.left) :
    (mk visit [(call, inner)]).Safe realm limit := by
  refine safe_of_error failed ?_
  rw [unlinks_singleton]
  rintro (changed | changed)
  · exact changed given
  · exact changed taken

end Activation

section

variable {realm : Option String} {limit : Int} {b : Backend (Journal × σ)}

theorem called {file : String} {site after : Site (Journal × σ)}
    (plays : Plays realm limit b) (fresh : site.peer.1.calls = []) {request : Request}
    {outcome : Except Fault Answer}
    (call : (b.perform request).run (Controller.reached file site) = (outcome, after)) :
    ∃ inner, after.peer.1.calls = [(⟨request, site.files, after.files, outcome⟩, inner)] ∧
      (∀ a, Occurs a inner → a.Safe realm limit) ∧ (inner = [] → after.stage = some .parsed) ∧
      (∀ answer, outcome = .ok answer → inner ≠ [] → after.stage = some .deleted) := by
  obtain ⟨x, same, behaves⟩ := plays request
  rw [same] at call
  obtain ⟨inner, calls, safe, idle, last⟩ := run_watchCall behaves request _ call
  rw [Controller.reached_peer, fresh] at calls
  rw [Controller.reached_stage] at idle
  exact ⟨inner, calls, safe, idle, last⟩

theorem safe_of_failed {file : String} {site after left : Site (Journal × σ)}
    (plays : Plays realm limit b) (fresh : site.peer.1.calls = []) {request : Request}
    {outcome : Except Fault Answer}
    (call : (b.perform request).run (Controller.reached file site) = (outcome, after))
    (files : left.files = after.files) (peer : left.peer = after.peer) (fault : Fault) :
    (Activation.mk ⟨file, site.files, left.files, .error fault⟩ left.peer.1.calls).Safe realm limit ∧
      ∀ call inner, (call, inner) ∈ left.peer.1.calls → ∀ a, Occurs a inner → a.Safe realm limit := by
  obtain ⟨inner, calls, safe, -, -⟩ := called plays fresh call
  rw [peer, calls]
  refine ⟨Activation.safe_of_kept rfl rfl files.symm, ?_⟩
  intro _ _ made
  cases List.mem_singleton.mp made
  exact safe

/-- A drain with a backend whose calls behave is safe, and so are the drains inside it. If it returns,
it leaves the stage at `deleted`. -/
theorem safe_of_course (file : String) (site : Site (Journal × σ)) (plays : Plays realm limit b)
    (fresh : site.peer.1.calls = []) {result : Except Fault Queue.Record} {left : Site (Journal × σ)}
    (course : Course ⟨b, realm, limit⟩ file site result left) :
    (Activation.mk ⟨file, site.files, left.files, result⟩ left.peer.1.calls).Safe realm limit ∧
      (∀ call inner, (call, inner) ∈ left.peer.1.calls →
        ∀ a, Occurs a inner → a.Safe realm limit) ∧
      ∀ record, result = .ok record → left.stage = some .deleted := by
  cases course with
  | @stopped _ fault _ arrival files peer =>
    rw [peer, fresh]
    refine ⟨Activation.safe_of_error rfl ?_, fun _ _ made => (List.not_mem_nil made).elim, ?_⟩
    · rw [Activation.unlinks_nil]
      exact fun changed => changed files.symm
    · rintro record ⟨⟩
  | unfinished arrival call rejected cause files peer =>
    obtain ⟨own, inside⟩ := safe_of_failed plays fresh call files peer _
    refine ⟨own, inside, ?_⟩
    rintro record ⟨⟩
  | kept arrival call accepted stage unlink files peer =>
    obtain ⟨own, inside⟩ := safe_of_failed plays fresh call files peer _
    refine ⟨own, inside, ?_⟩
    rintro record ⟨⟩
  | @removed record principal answer after _ arrival call accepted stage unlink peer last =>
    obtain ⟨inner, calls, safe, -, deleted⟩ := called plays fresh call
    -- a drain inside the call would have left the stage at `deleted`
    have none : inner = [] := by
      by_cases started : inner = []
      · exact started
      · rw [deleted answer rfl started] at stage
        cases stage
    subst none
    rw [peer, calls]
    obtain ⟨clean, source, opened, read, parsed⟩ := arrive_ready_iff.mp arrival
    refine ⟨⟨fun _ => ?_, fun _ _ => ?_, fun reentered => ?_⟩, ?_, fun _ _ => last⟩
    · exact ⟨source, record, principal, after.files, answer, opened, read, parsed, rfl,
        of_decide_eq_true accepted, unlink, rfl⟩
    · exact Activation.unlinks_singleton.mpr (.inr (Files.unlink_changes unlink))
    · exact (Activation.reentered_singleton.mp reentered rfl).elim
    · intro _ _ made
      cases List.mem_singleton.mp made
      exact safe

theorem behaves_drain (plays : Plays realm limit b) (file : String) :
    Behaves realm limit (watchDrain file (Controller.drain ⟨b, realm, limit⟩ file)) := by
  intro site
  -- the drain itself counts as started, so the stage that it came with does not matter
  obtain ⟨own, inner, last⟩ := safe_of_course file site.blank plays rfl (course _ file site.blank)
  refine ⟨_, rfl, ?_, (fun none => nomatch none), fun record returned _ => last record returned⟩
  rintro a (member | ⟨member, made, within⟩)
  · rw [List.mem_singleton.mp member]
    exact own
  · rw [List.mem_singleton.mp member] at made
    exact inner _ _ made a within

theorem watchedRival_plays (strategy : Request → Play σ) (close : Act σ Unit) (depth : Nat) :
    Plays realm limit (Backend.watchedRival strategy close realm limit depth) := by
  induction depth with
  | zero =>
    intro request
    exact ⟨_, rfl, behaves_play (fun _ => behaves_still fun _ => ⟨rfl, rfl⟩) _⟩
  | succ depth ih =>
    intro request
    exact ⟨_, rfl, behaves_play (behaves_drain ih) _⟩

theorem attempts_safe (plays : Plays realm limit b) (plan : List Attempt) (site : Site (Journal × σ))
    (safe : ∀ a, Occurs a site.peer.1.drains → a.Safe realm limit) :
    ∀ a, Occurs a (Controller.attempts ⟨b, realm, limit⟩ site plan).peer.1.drains →
      a.Safe realm limit := by
  induction plan generalizing site with
  | nil => exact safe
  | cons planned rest ih =>
    refine ih _ fun a occurs => ?_
    let begun : Site (Journal × σ) := { site with files := planned.before site.files }
    obtain ⟨started, drains, own, -⟩ := behaves_drain plays planned.file begun
    change Occurs a ((watchDrain _ _).run begun).2.peer.1.drains at occurs
    rw [drains] at occurs
    exact (Activation.occurs_append.mp occurs).elim (safe a) (own a)

end

/-- Whatever a rival does, in every run and to every depth, each drain that unlinks is safe, and a
drain during which another was started fails and does not unlink. -/
theorem unlinks_safe (strategy : Request → Play σ) (close : Act σ Unit) (realm : Option String)
    (limit : Int) (depth : Nat) (site : Site σ) (plan : List Attempt) :
    let rival := Backend.rival strategy close realm limit depth
    let watched := Backend.watchedRival strategy close realm limit depth
    let after := Controller.attempts ⟨watched, realm, limit⟩ site.watched plan
    after.forget = plan.foldl (Controller.leave ⟨rival, realm, limit⟩) site ∧
      ∀ a, Occurs a after.peer.1.drains → a.Safe realm limit := by
  intro rival watched after
  constructor
  · exact attempts_forget (follows_watchedRival strategy close realm limit depth) realm limit plan
      site.watched
  · refine attempts_safe (watchedRival_plays strategy close depth) plan site.watched fun a occurs => ?_
    exact (Activation.occurs_nil occurs).elim

/-- A rival that first drains the file that it is called for: the drain inside removes it, and the
one outside, which was asked first, fails. -/
example :
    let again : Request → Play Bool := fun _ => .look fun site =>
      if site.peer then .answer .success
      else .remember true (.drain "q" fun _ => .answer .success)
    let files : Files := ⟨[(["q"], .file (.ofBytes (Utf8.encode "u\nad\nenable\n")))], [], none⟩
    let rival := Backend.watchedRival again (pure ()) (some "R") 8 1
    let after := Controller.attempts ⟨rival, some "R", 8⟩ (Site.start files false).watched [⟨id, "q"⟩]
    after.files.get? ["q"] = none ∧
      after.peer.1.drains.map (fun a => a.visit.result matches .ok _) = [false] := by
  decide

end AccountSync
