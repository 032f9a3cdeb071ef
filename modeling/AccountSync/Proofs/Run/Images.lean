import AccountSync.Proofs.Drain.Images
import AccountSync.Proofs.Run.Confined

/-!
# Images of commands

A map of sites that takes drains to drains takes the command of a run to the same command
(`through_route`), with what comes before and after it (`through_ensuring`, `through_reported`).
-/

namespace AccountSync

variable {σ τ : Type} {f : Site σ → Site τ}

theorem through_ensuring {x cleanup : Act σ Unit} {y cleanup' : Act τ Unit} (through : Through f x y)
    (cleans : Through f cleanup cleanup') : Through f (x.ensuring cleanup) (y.ensuring cleanup') := by
  intro site
  change Act.ensuring y cleanup' (f site) = (Act.ensuring x cleanup site).map id f
  unfold Act.ensuring
  rw [through site]
  obtain ⟨result, after⟩ := x.run site
  dsimp only [Prod.map]
  rw [cleans after]
  obtain ⟨cleaned, last⟩ := cleanup.run after
  cases cleaned <;> rfl

section

variable (clear : Site.Transparent f)

include clear

theorem through_emit (event : Log.Event) : Through f (Act.emit event) (Act.emit event) :=
  fun site => congrArg (Prod.mk _) (clear.note site event)

theorem through_reported {x : Act σ Unit} {y : Act τ Unit} (through : Through f x y)
    (program : String) : Through f (reported program x) (reported program y) := by
  intro site
  rw [run_reported, run_reported, through site]
  obtain ⟨result, after⟩ := x.run site
  cases result with
  | ok _ => rfl
  | error fault =>
    cases fault with
    | failure failure => exact congrArg (Prod.mk _) (clear.note after _)
    | defect defect => rfl

variable {b : Backend σ} {b' : Backend τ}
  (calls : ∀ request, Through f (b.perform request) (b'.perform request))

include calls

theorem through_dispatch (realm : Option String) (principal : Principal) (action : Action)
    (name : String) :
    Through f (dispatch b realm principal action name) (dispatch b' realm principal action name) := by
  refine through_bind (calls _) fun answer => ?_
  split
  · exact through_emit clear _
  · exact fun _ => rfl

theorem through_route (realm : Option String) (limit : Int) (command : Command) :
    Through f (route b realm limit command) (route b' realm limit command) := by
  cases command with
  | drain file =>
    intro site
    rw [route, route, run_discard, run_discard, through_drain clear calls realm limit file site]
    rfl
  | immediate user actions =>
    refine through_bind (fun site => ?_) fun principal => ?_
    · rw [run_resolve, run_resolve]
      cases Principal.parse realm user <;> rfl
    · induction actions with
      | nil => exact fun _ => rfl
      | cons action rest ih =>
        exact through_bind (through_dispatch clear calls realm principal action user) fun _ => ih

end

end AccountSync
