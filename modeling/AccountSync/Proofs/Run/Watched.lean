import AccountSync.Proofs.Drain.Rival
import AccountSync.Proofs.Run.Images

/-!
# Journals of whole runs

A run whose backend keeps a journal of its calls does what it does without (`follows_runWith`).
-/

namespace AccountSync

variable {σ : Type}

/-- Makes a backend whose calls are kept in a journal. -/
def watchFactory (factory : Act σ (Backend σ)) : Act (Journal × σ) (Backend (Journal × σ)) := do
  let backend ← factory.unwatched
  return backend.watched

theorem follows_route {b : Backend (Journal × σ)} {b' : Backend σ}
    (follows : ∀ request, Follows (b.perform request) (b'.perform request)) (realm : Option String)
    (limit : Int) (command : Command) :
    Follows (route b realm limit command) (route b' realm limit command) :=
  through_route transparent_forget follows realm limit command

section

variable (settings : Settings) (factory : Act σ (Backend σ))

theorem run_watchFactory (site : Site (Journal × σ)) :
    (watchFactory factory).run site =
      ((factory.run site.forget).1.map Backend.watched,
        { (factory.run site.forget).2 with peer := (site.peer.1, (factory.run site.forget).2.peer) }) := by
  have made : factory.unwatched.run site = ((factory.run site.forget).1,
      { (factory.run site.forget).2 with peer := (site.peer.1, (factory.run site.forget).2.peer) }) :=
    rfl
  rw [watchFactory, Act.run_bind, made]
  generalize factory.run site.forget = ended
  obtain ⟨result, after⟩ := ended
  cases result <;> rfl

theorem run_serve_watched (command : Command) (site : Site (Journal × σ)) :
    (serve settings (watchFactory factory) command).run site =
      match factory.run site.forget with
      | (.ok b, after) =>
        ((route b.watched settings.realm settings.queueLineLimit.value command).ensuring
          b.watched.close).run { after with peer := (site.peer.1, after.peer) }
      | (.error fault, after) => (.error fault, { after with peer := (site.peer.1, after.peer) }) := by
  rw [serve, Act.run_bind, run_watchFactory]
  generalize factory.run site.forget = made
  obtain ⟨result, after⟩ := made
  cases result <;> rfl

theorem follows_serve (command : Command) :
    Follows (serve settings (watchFactory factory) command) (serve settings factory command) := by
  intro site
  rw [run_serve_watched, serve, Act.run_bind]
  generalize factory.run site.forget = made
  obtain ⟨result, after⟩ := made
  cases result with
  | error fault => rfl
  | ok b =>
    exact through_ensuring
      (follows_route (follows_watched b) settings.realm settings.queueLineLimit.value command)
      (follows_unwatched b.close) { after with peer := (site.peer.1, after.peer) }

/-- Keeping a journal changes nothing of a run. -/
theorem follows_runWith (optionsFirst : Bool) (words : List String) :
    Follows (runWith settings optionsFirst words (watchFactory factory))
      (runWith settings optionsFirst words factory) := by
  unfold runWith
  split
  · exact fun _ => rfl
  split
  · exact fun _ => rfl
  · exact through_reported transparent_forget (follows_serve settings factory _) _

end

end AccountSync
