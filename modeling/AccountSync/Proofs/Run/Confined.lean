import AccountSync.Proofs.Drain.Outcome
import AccountSync.Proofs.Principal.RoundTrip
import AccountSync.Proofs.Run.Detached
import AccountSync.Run

/-!
# Confined backends

A step is confined if it changes no more than the memory of the collaborator, does not report the run
as failed, and stops with faults of a given kind only. With a confined backend a command comes to its
end without such a report and with such faults only (`serve_kept`).
-/

namespace AccountSync

variable {σ α β : Type}

/-- The record that a run leaves if it fails. -/
def Log.Event.isReport (event : Event) : Bool := event.name = "sync_failed"

theorem Log.plain_drainStage (previous : Option Stage) (next : Stage) :
    ¬ (Event.drainStage previous next).isReport := by
  simp [Event.isReport, Event.name]

theorem Action.plain_notice (action : Action) (name : String) : ¬ (action.notice name).isReport := by
  cases action <;> simp [notice, Log.Event.isReport, Log.Event.name]

def Site.Unreported (site : Site σ) : Prop := ∀ record ∈ site.log, ¬ record.event.isReport

/-- From each memory that is one of `memories`, the step changes no more than the memory, which stays
one of them, and logs no report. Its faults are `allowed` and its values are `fitting`. -/
def Act.Confined (memories : σ → Prop) (allowed : Fault → Prop) (fitting : α → Prop)
    (x : Act σ α) : Prop :=
  ∀ site : Site σ, memories site.peer → ∃ events after,
    (x.run site).2 = site.absorb events after ∧ (∀ event ∈ events, ¬ event.isReport) ∧
      memories after ∧ (∀ fault, (x.run site).1 = .error fault → allowed fault) ∧
      ∀ a, (x.run site).1 = .ok a → fitting a

/-- A backend with confined steps, as long as it is asked about principals that have a name, which is
left without a fault. -/
structure Backend.Confined (memories : σ → Prop) (allowed : Fault → Prop) (b : Backend σ) : Prop where
  perform : ∀ request, request.principal.WellFormed →
    (b.perform request).Confined memories allowed fun _ => True
  close : b.close.Confined memories (fun _ => False) fun _ => True

namespace Act.Confined

variable {memories : σ → Prop} {allowed : Fault → Prop} {fitting : α → Prop} {fitting' : β → Prop}

theorem pure {a : α} (fits : fitting a) :
    Act.Confined memories allowed fitting (Pure.pure a : Act σ α) := by
  refine fun site known => ⟨[], site.peer, site.absorb_nil.symm, List.forall_mem_nil _, known,
    fun _ failed => (by cases failed), ?_⟩
  rintro _ ⟨⟩
  exact fits

theorem throw {fault : Fault} (may : allowed fault) :
    Act.Confined memories allowed fitting (MonadExcept.throw fault : Act σ α) := by
  refine fun site known => ⟨[], site.peer, site.absorb_nil.symm, List.forall_mem_nil _, known,
    ?_, fun _ done => by cases done⟩
  rintro _ ⟨⟩
  exact may

theorem emit {event : Log.Event} (plain : ¬ event.isReport) :
    (Act.emit event : Act σ Unit).Confined memories allowed fun _ => True := by
  refine fun site known => ⟨[event], site.peer, rfl, ?_, known, fun _ failed => (by cases failed),
    fun _ _ => trivial⟩
  intro other member
  rw [List.mem_singleton.mp member]
  exact plain

theorem bind {x : Act σ α} {f : α → Act σ β} (first : x.Confined memories allowed fitting)
    (next : ∀ a, fitting a → (f a).Confined memories allowed fitting') :
    (x >>= f).Confined memories allowed fitting' := by
  intro site known
  obtain ⟨events, between, left, plain, kept, faults, fits⟩ := first site known
  rw [run_bind]
  generalize x.run site = ran at left faults fits
  obtain ⟨result, after⟩ := ran
  obtain rfl : after = site.absorb events between := left
  cases result with
  | error fault =>
    refine ⟨events, between, rfl, plain, kept, ?_, fun _ done => by cases done⟩
    rintro _ ⟨⟩
    exact faults fault rfl
  | ok a =>
    obtain ⟨more, last, left, plain', ended⟩ :=
      next a (fits a rfl) (site.absorb events between) kept
    refine ⟨events ++ more, last, left.trans (site.absorb_absorb ..), ?_, ended⟩
    intro event member
    exact (List.mem_append.mp member).elim (plain event) (plain' event)

theorem get_bind {f : Site σ → Act σ α}
    (each : ∀ site, memories site.peer → (f site).Confined memories allowed fitting) :
    (get >>= f).Confined memories allowed fitting :=
  fun site known => each site known site known

theorem modify {f : Site σ → Site σ} {g : σ → σ}
    (only : ∀ site, f site = { site with peer := g site.peer })
    (kept : ∀ memory, memories memory → memories (g memory)) :
    (modify f : Act σ Unit).Confined memories allowed fun _ => True := by
  refine fun site known => ⟨[], g site.peer, ?_, List.forall_mem_nil _, kept _ known,
    fun _ failed => (by cases failed), fun _ _ => trivial⟩
  change f site = _
  rw [only]
  simp [Site.absorb]

theorem forM {items : List α} {f : α → Act σ Unit}
    (each : ∀ a, (f a).Confined memories allowed fun _ => True) :
    (items.forM f).Confined memories allowed fun _ => True := by
  induction items with
  | nil => exact .pure trivial
  | cons item rest ih => exact .bind (each item) fun _ _ => ih

end Act.Confined

/-! ### Later sites -/

/-- The second site comes after the first one in a run: the collaborator remembers the same, and the
run was not reported as failed in between. -/
structure Site.Onward (s t : Site σ) : Prop where
  peer : t.peer = s.peer
  plain : s.Unreported → t.Unreported

namespace Site

theorem Unreported.append {s : Site σ} (plain : s.Unreported) {more : List Log.Record}
    (others : ∀ record ∈ more, ¬ record.event.isReport) :
    ∀ record ∈ s.log ++ more, ¬ record.event.isReport :=
  fun record member => (List.mem_append.mp member).elim (plain record) (others record)

theorem Unreported.absorb {s : Site σ} (plain : s.Unreported) {events : List Log.Event}
    (others : ∀ event ∈ events, ¬ event.isReport) (memory : σ) :
    (s.absorb events memory).Unreported := by
  refine Unreported.append plain fun record member => ?_
  obtain ⟨event, among, rfl⟩ := List.mem_map.mp member
  exact others event among

namespace Onward

variable {s t u : Site σ}

theorem trans (first : s.Onward t) (second : t.Onward u) : s.Onward u :=
  ⟨second.peer.trans first.peer, fun plain => second.plain (first.plain plain)⟩

theorem note (site : Site σ) {event : Log.Event} (plain : ¬ event.isReport) :
    site.Onward (site.note event) := by
  refine ⟨rfl, fun before => before.append fun record member => ?_⟩
  rw [List.mem_singleton.mp member]
  exact plain

theorem move (site : Site σ) (next : Stage) : site.Onward (site.move next) :=
  ⟨rfl, (note site (Log.plain_drainStage site.stage next)).plain⟩

theorem enter (site : Site σ) (file : String) : site.Onward (site.enter file) := ⟨rfl, id⟩

theorem pass (site : Site σ) (stages : List Stage) : site.Onward (site.pass stages) := by
  induction stages generalizing site with
  | nil => exact ⟨rfl, id⟩
  | cons next rest ih => exact (move site next).trans (ih (site.move next))

theorem stop (site : Site σ) (fault : Fault) : site.Onward (site.stop fault) := by
  cases fault with
  | failure f => exact move site .failed
  | defect d => exact ⟨rfl, id⟩

theorem settle (file : String) (record : Queue.Record) (result : Except Fault Answer)
    (site : Site σ) : site.Onward (Controller.settle file record (result, site)).2 := by
  cases result with
  | error fault => exact stop site fault
  | ok answer =>
    by_cases accepted : answer.isOk
    · have noted := note site (record.action.plain_notice record.principalName)
      have carried := noted.trans (move _ .dispatched)
      cases unlink : site.files.unlink (.ofText file) with
      | ok files =>
        rw [Controller.settle_removed accepted unlink]
        exact carried.trans ⟨rfl, (move _ .deleted).plain⟩
      | error why =>
        rw [Controller.settle_kept accepted unlink]
        exact carried.trans (move _ .failed)
    · rw [Controller.settle_refused accepted]
      exact move site .failed

end Onward

end Site

/-! ### A command with a confined backend -/

/-- What holds once a command has come to its end, however it ended. -/
structure Kept (memories : σ → Prop) (allowed : Fault → Prop) (site : Site σ)
    (ended : Except Fault α × Site σ) : Prop where
  known : memories ended.2.peer
  mark : ended.2.queueFile = site.queueFile
  plain : site.Unreported → ended.2.Unreported
  faults : ∀ fault, ended.1 = .error fault → allowed fault

theorem Act.Confined.kept {memories : σ → Prop} {allowed : Fault → Prop} {fitting : α → Prop}
    {x : Act σ α} (confined : x.Confined memories allowed fitting) {site : Site σ}
    (known : memories site.peer) : Kept memories allowed site (x.run site) := by
  obtain ⟨events, after, left, plain, kept, faults, _⟩ := confined site known
  refine ⟨?_, ?_, fun before => ?_, faults⟩
  · rw [left]
    exact kept
  · rw [left]
    rfl
  · rw [left]
    exact before.absorb plain after

section

variable {memories : σ → Prop} {allowed : Fault → Prop} {b : Backend σ} {site : Site σ}
  (confined : b.Confined memories allowed) (failures : ∀ f, allowed (.failure f))

include confined failures

theorem dispatch_confined (realm : Option String) {principal : Principal}
    (formed : principal.WellFormed) (action : Action) (name : String) :
    (dispatch b realm principal action name).Confined memories allowed fun _ => True := by
  refine .bind (confined.perform _ formed) fun answer _ => ?_
  split
  · exact .emit (action.plain_notice name)
  · exact .throw (failures _)

omit confined in
theorem settle_faults {file : String} {record : Queue.Record} {result : Except Fault Answer}
    (called : ∀ fault, result = .error fault → allowed fault) (fault : Fault)
    (failed : (Controller.settle file record (result, site)).1 = .error fault) : allowed fault := by
  cases result with
  | error cause =>
    cases failed
    exact called _ rfl
  | ok answer =>
    by_cases accepted : answer.isOk
    · cases unlink : site.files.unlink (.ofText file) with
      | ok files =>
        rw [Controller.settle_removed accepted unlink] at failed
        cases failed
      | error why =>
        rw [Controller.settle_kept accepted unlink] at failed
        cases failed
        exact failures _
    · rw [Controller.settle_refused accepted] at failed
      cases failed
      exact failures _

theorem drain_kept {realm : Option String} {limit : Int} {file : String}
    (stops : ∀ passed fault, arrive realm limit file site.files = .stopped passed fault → allowed fault)
    (known : memories site.peer) :
    Kept memories allowed site ((Controller.drain ⟨b, realm, limit⟩ file).run site) := by
  cases arrival : arrive realm limit file site.files with
  | stopped passed fault =>
    rw [Controller.run_drain_stopped ⟨b, realm, limit⟩ arrival]
    have onward := ((Site.Onward.enter site file).trans (.pass _ passed)).trans (.stop _ fault)
    refine ⟨?_, rfl, fun before => onward.plain before, ?_⟩
    · exact onward.peer.symm ▸ known
    · rintro _ ⟨⟩
      exact stops passed fault arrival
  | ready record principal =>
    have entered := (Site.Onward.enter site file).trans (.pass _ [.opened, .parsed])
    obtain ⟨_, _, _, _, parsed⟩ := arrive_ready_iff.mp arrival
    obtain ⟨events, after, left, plain, kept, faults, _⟩ :=
      confined.perform ⟨realm, principal, record.action⟩ (Principal.parse_wellFormed parsed)
        (Controller.reached file site) known
    cases call : (b.perform ⟨realm, principal, record.action⟩).run (Controller.reached file site) with
    | mk result last =>
    rw [call] at left faults
    obtain rfl : last = (Controller.reached file site).absorb events after := left
    rw [Controller.run_drain_ready ⟨b, realm, limit⟩ arrival call rfl]
    have onward := Site.Onward.settle file record result
      ((Controller.reached file site).absorb events after)
    refine ⟨?_, rfl, fun before => onward.plain ((entered.plain before).absorb plain after),
      settle_faults failures faults⟩
    · exact onward.peer.symm ▸ kept

theorem route_kept (realm : Option String) (limit : Int) (command : Command) (site : Site σ)
    (stops : ∀ file passed fault, command = .drain file →
      arrive realm limit file site.files = .stopped passed fault → allowed fault)
    (known : memories site.peer) :
    Kept memories allowed site ((route b realm limit command).run site) := by
  cases command with
  | drain file =>
    have drained := drain_kept confined failures (fun _ _ => stops file _ _ rfl) known
    rw [route, run_discard]
    refine ⟨drained.known, drained.mark, drained.plain, fun fault failed => ?_⟩
    refine drained.faults fault ?_
    generalize ((Controller.drain ⟨b, realm, limit⟩ file).run site).1 = result at failed ⊢
    cases result with
    | error cause =>
      cases failed
      rfl
    | ok record => cases failed
  | immediate user actions =>
    have resolved :
        (resolve realm user : Act σ Principal).Confined memories allowed Principal.WellFormed := by
      unfold resolve
      split
      · next principal parsed => exact .pure (Principal.parse_wellFormed parsed)
      · exact .throw (failures _)
    have routed : (route b realm limit (.immediate user actions)).Confined memories allowed
        fun _ => True :=
      .bind resolved fun principal formed =>
        .forM fun action => dispatch_confined confined failures realm formed action user
    exact routed.kept known

end

theorem Act.run_ensuring_ok {x : Act σ α} {cleanup : Act σ Unit} {site last : Site σ}
    (cleaned : cleanup.run (x.run site).2 = (.ok (), last)) :
    (x.ensuring cleanup).run site = ((x.run site).1, last) := by
  change Act.ensuring x cleanup site = _
  unfold Act.ensuring
  generalize x.run site = ran at cleaned
  obtain ⟨result, after⟩ := ran
  dsimp only at cleaned ⊢
  rw [cleaned]

/-- A cleanup without faults leaves the result as it is. -/
theorem Act.Confined.run_ensuring {memories : σ → Prop} {fitting : Unit → Prop} {cleanup : Act σ Unit}
    (cleans : cleanup.Confined memories (fun _ => False) fitting) {x : Act σ α} {site : Site σ}
    (known : memories (x.run site).2.peer) :
    (x.ensuring cleanup).run site = ((x.run site).1, (cleanup.run (x.run site).2).2) := by
  have never := (cleans.kept known).faults
  cases ran : cleanup.run (x.run site).2 with
  | mk cleaned last =>
  cases cleaned with
  | error fault => exact (never fault (congrArg Prod.fst ran)).elim
  | ok _ => exact Act.run_ensuring_ok ran

theorem serve_kept {memories : σ → Prop} {allowed : Fault → Prop} {factory : Act σ (Backend σ)}
    (confined : factory.Confined memories allowed (Backend.Confined memories allowed))
    (failures : ∀ f, allowed (.failure f)) (settings : Settings) (command : Command) (site : Site σ)
    (stops : ∀ file passed fault, command = .drain file →
      arrive settings.realm settings.queueLineLimit.value file site.files = .stopped passed fault →
        allowed fault)
    (known : memories site.peer) :
    Kept memories allowed site ((serve settings factory command).run site) := by
  obtain ⟨events, memory, left, plain, kept, faults, fits⟩ := confined site known
  unfold serve
  rw [Act.run_bind]
  generalize factory.run site = begun at left faults fits
  obtain ⟨made, after⟩ := begun
  obtain rfl : after = site.absorb events memory := left
  cases made with
  | error fault =>
    refine ⟨kept, rfl, fun before => before.absorb plain memory, ?_⟩
    rintro _ ⟨⟩
    exact faults fault rfl
  | ok b =>
    have routed := route_kept (fits b rfl) failures settings.realm settings.queueLineLimit.value
      command (site.absorb events memory) stops kept
    have closed := (fits b rfl).close.kept routed.known
    dsimp only
    rw [(fits b rfl).close.run_ensuring routed.known]
    exact ⟨closed.known, closed.mark.trans routed.mark,
      fun before => closed.plain (routed.plain (before.absorb plain memory)), routed.faults⟩

/-! ### Beside something else -/

section

variable {κ : Type} {memories : σ → Prop} {allowed : Fault → Prop} {fitting : α → Prop}

theorem Act.Confined.aside {x : Act σ α} (confined : x.Confined memories allowed fitting)
    (others : κ → Prop) :
    (x.aside : Act (κ × σ) α).Confined (fun memory => others memory.1 ∧ memories memory.2) allowed
      fitting := by
  intro site known
  let own : Site σ := { site with peer := site.peer.2 }
  obtain ⟨events, after, left, plain, kept, ended⟩ := confined own known.2
  refine ⟨events, (site.peer.1, after), ?_, plain, ⟨known.1, kept⟩, ended⟩
  change ({ (x.run own).2 with peer := (site.peer.1, (x.run own).2.peer) } : Site (κ × σ)) = _
  rw [left]
  rfl

end

/-! ### Runs -/

section

variable {settings : Settings} {optionsFirst : Bool} {words : List String}
  {factory : Act σ (Backend σ)} {threshold : Nat}

theorem runWith_refused (leveled : Log.threshold settings.logLevel = .ok threshold)
    {fault : CommandLine.Fault} (refused : CommandLine.parse optionsFirst words = .error fault) :
    runWith settings optionsFirst words factory =
      pure (.refusal (fault.report settings.programName)) := by
  rw [runWith, leveled, refused]

theorem runWith_parsed (leveled : Log.threshold settings.logLevel = .ok threshold) {command : Command}
    (parsed : CommandLine.parse optionsFirst words = .ok command) :
    runWith settings optionsFirst words factory =
      reported settings.programName (serve settings factory command) := by
  rw [runWith, leveled, parsed]

end

theorem run_reported (program : String) (x : Act σ Unit) (site : Site σ) :
    (reported program x).run site =
      match x.run site with
      | (.ok _, after) => (.ok .success, after)
      | (.error (.failure f), after) =>
        (.ok (.refusal (program ++ ": " ++ f.message)), after.note (.syncFailed f.message f.kind))
      | (.error (.defect d), after) => (.error (.defect d), after) := by
  change reported program x site = _
  unfold reported
  obtain ⟨result, after⟩ := x.run site
  cases result with
  | ok _ => rfl
  | error fault => cases fault <;> rfl

end AccountSync
