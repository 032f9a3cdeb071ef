import AccountSync.Proofs.Drain.Course

/-!
# Images of drains

A map of sites that keeps what a drain reads, and that its steps can be made before or after, takes
whole drains to drains, if it takes the calls of one backend to those of the other (`through_drain`).
-/

namespace AccountSync

variable {σ τ α β : Type}

/-- The map keeps what a drain reads, and commutes with what it changes. -/
structure Site.Transparent (f : Site σ → Site τ) : Prop where
  files : ∀ site, (f site).files = site.files
  stage : ∀ site, (f site).stage = site.stage
  mark : ∀ site, (f site).queueFile = site.queueFile
  note : ∀ site event, (f site).note event = f (site.note event)
  refiled : ∀ site files, { f site with files } = f { site with files }
  staged : ∀ site stage, { f site with stage } = f { site with stage }
  marked : ∀ site queueFile, { f site with queueFile } = f { site with queueFile }

/-- What is kept beside the memory of the collaborator, a drain neither sees nor touches. -/
theorem transparent_beside {κ : Type} :
    Site.Transparent fun site : Site (κ × σ) => ({ site with peer := site.peer.2 } : Site σ) where
  files _ := rfl
  stage _ := rfl
  mark _ := rfl
  note _ _ := rfl
  refiled _ _ := rfl
  staged _ _ := rfl
  marked _ _ := rfl

/-- What `x` does at a site, `y` does at its image. -/
def Through (f : Site σ → Site τ) (x : Act σ α) (y : Act τ α) : Prop :=
  ∀ site, y.run (f site) = (x.run site).map id f

theorem through_bind {f : Site σ → Site τ} {x : Act σ α} {y : Act τ α} {g : α → Act σ β}
    {h : α → Act τ β} (first : Through f x y) (next : ∀ a, Through f (g a) (h a)) :
    Through f (x >>= g) (y >>= h) := by
  intro site
  rw [Act.run_bind, Act.run_bind, first site]
  obtain ⟨result, after⟩ := x.run site
  cases result with
  | error fault => rfl
  | ok a => exact next a after

namespace Site.Transparent

variable {f : Site σ → Site τ} (clear : Transparent f)

include clear

theorem move (site : Site σ) (next : Stage) : (f site).move next = f (site.move next) := by
  unfold Site.move
  rw [clear.note, clear.staged, clear.stage]

theorem pass (site : Site σ) (stages : List Stage) : (f site).pass stages = f (site.pass stages) := by
  induction stages generalizing site with
  | nil => rfl
  | cons next rest ih =>
    change ((f site).move next).pass rest = f ((site.move next).pass rest)
    rw [clear.move, ih]

theorem enter (site : Site σ) (file : String) : (f site).enter file = f (site.enter file) := by
  have staged := clear.staged site none
  have marked := clear.marked { site with stage := none } (some file)
  rw [← staged] at marked
  exact marked

theorem conclude (outcome : Except Fault α × Site σ) :
    AccountSync.conclude (outcome.map id f) = (AccountSync.conclude outcome).map id f := by
  obtain ⟨result, site⟩ := outcome
  cases result with
  | ok a => rfl
  | error fault =>
    cases fault with
    | defect d => rfl
    | failure failure =>
      simp only [AccountSync.conclude, Prod.map, id, clear.stage, clear.move]
      split
      · rfl
      · rfl

theorem complete (file : String) (record : Queue.Record) (site : Site σ) :
    Controller.complete file record (f site) = (Controller.complete file record site).map id f := by
  unfold Controller.complete
  rw [clear.stage, clear.files]
  by_cases allowed : Stage.dispatched ∈ Stage.successors site.stage
  · rw [if_pos allowed, if_pos allowed]
    cases site.files.unlink (.ofText file) with
    | ok files => simp only [Prod.map, id, clear.move, clear.refiled]
    | error why => simp only [Prod.map, id, clear.move]
  · rw [if_neg allowed, if_neg allowed]
    rfl

theorem finish (file : String) (record : Queue.Record) (outcome : Except Fault Answer × Site σ) :
    Controller.finish file record (outcome.map id f) =
      (Controller.finish file record outcome).map id f := by
  obtain ⟨result, site⟩ := outcome
  cases result with
  | error fault => rfl
  | ok answer =>
    simp only [Controller.finish, Prod.map, id]
    split
    · rw [clear.note]
      exact clear.complete file record _
    · rfl

theorem pursue {b : Backend σ} {b' : Backend τ}
    (calls : ∀ request, Through f (b.perform request) (b'.perform request)) (realm : Option String)
    (limit : Int) (file : String) (site : Site σ) :
    Controller.pursue ⟨b', realm, limit⟩ file (f site) =
      (Controller.pursue ⟨b, realm, limit⟩ file site).map id f := by
  have found : (f site).files = site.files := clear.files site
  cases arrival : arrive realm limit file site.files with
  | stopped passed fault =>
    rw [Controller.pursue_stopped ⟨b, realm, limit⟩ site arrival]
    rw [← found] at arrival
    rw [Controller.pursue_stopped ⟨b', realm, limit⟩ (f site) arrival, clear.pass]
    rfl
  | ready record principal =>
    rw [Controller.pursue_ready ⟨b, realm, limit⟩ site arrival]
    rw [← found] at arrival
    rw [Controller.pursue_ready ⟨b', realm, limit⟩ (f site) arrival, clear.pass, calls, clear.finish]

end Site.Transparent

theorem through_drain {f : Site σ → Site τ} (clear : Site.Transparent f) {b : Backend σ}
    {b' : Backend τ} (calls : ∀ request, Through f (b.perform request) (b'.perform request))
    (realm : Option String) (limit : Int) (file : String) :
    Through f (Controller.drain ⟨b, realm, limit⟩ file) (Controller.drain ⟨b', realm, limit⟩ file) := by
  intro site
  rw [Controller.run_drain, Controller.run_drain, clear.enter, clear.pursue calls, clear.conclude,
    clear.mark]
  simp only [remark, Prod.map, id, clear.marked]

end AccountSync
