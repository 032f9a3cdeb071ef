import AccountSync.Proofs.Drain.Rival
import AccountSync.Proofs.Run.Detached

/-!
# Reused controllers

A drain forgets the drains before it: after any of them, however they ended, a controller drains as a
new one does and adds to the log what that one would log (`drain_renewed`). The backend must not read
the log. That of the directory does not (`Directory.unaware_backend`), nor do scripts, whatever drains
they start (`unaware_watchedRival`, `Script.unaware_strategy`).
-/

namespace AccountSync

variable {σ α : Type}

/-! ### Earlier records -/

/-- The site with these records in the log before its own. -/
def Site.since (earlier : List Log.Record) (site : Site σ) : Site σ :=
  { site with log := earlier ++ site.log }

theorem transparent_since (earlier : List Log.Record) :
    Site.Transparent (Site.since earlier : Site σ → Site σ) where
  files _ := rfl
  stage _ := rfl
  mark _ := rfl
  note site event := by simp [Site.since, Site.note]
  refiled _ _ := rfl
  staged _ _ := rfl
  marked _ _ := rfl

/-- The step does the same, and adds the same to the log, whatever is in the log. -/
def Act.Unaware (x : Act σ α) : Prop := ∀ earlier, Through (Site.since earlier) x x

def Backend.Unaware (b : Backend σ) : Prop := ∀ request, (b.perform request).Unaware

theorem unaware_drain {b : Backend σ} (unaware : b.Unaware) (realm : Option String) (limit : Int)
    (file : String) : (Controller.drain ⟨b, realm, limit⟩ file).Unaware := fun earlier =>
  through_drain (transparent_since earlier) (fun request => unaware request earlier) realm limit file

/-- What keeps no journal is unaware if what keeps one is. -/
theorem Follows.unaware {x : Act (Journal × σ) α} {y : Act σ α} (follows : Follows x y)
    (unaware : x.Unaware) : y.Unaware := by
  intro earlier site
  have added := follows (site.watched.since earlier)
  rw [unaware earlier site.watched] at added
  have plain := follows site.watched
  exact added.trans (congrArg (Prod.map id (Site.since earlier)) plain).symm

/-! ### Backends that do not read the log -/

theorem Act.Detached.unaware {x : Act σ α} {fitting : α → Prop}
    (detached : x.Detached (fun _ => True) fitting) : x.Unaware := by
  intro earlier site
  obtain ⟨result, events, memory, runs, _⟩ := detached site.peer trivial
  have later : x.run (site.since earlier) = _ := runs (site.since earlier) rfl
  rw [later, runs site rfl]
  simp [Site.since, Site.absorb]

theorem unaware_watchDrain {file : String} {x : Act (Journal × σ) Queue.Record} (unaware : x.Unaware) :
    (watchDrain file x).Unaware := by
  intro earlier site
  have ended : x.run (site.since earlier).blank = _ := unaware earlier site.blank
  change (watchDrain file x) (site.since earlier) = ((watchDrain file x) site).map id _
  unfold watchDrain
  rw [ended]
  rfl

theorem unaware_watchCall {request : Request} {x : Act (Journal × σ) Answer} (unaware : x.Unaware) :
    (watchCall request x).Unaware := by
  intro earlier site
  have ended : x.run (site.since earlier).blank = _ := unaware earlier site.blank
  change (watchCall request x) (site.since earlier) = ((watchCall request x) site).map id _
  unfold watchCall
  rw [ended]
  rfl

theorem Act.Unaware.unwatched {x : Act σ α} (unaware : x.Unaware) : x.unwatched.Unaware := by
  intro earlier site
  have ended : x.run (site.since earlier).forget = _ := unaware earlier site.forget
  change x.unwatched (site.since earlier) = (x.unwatched site).map id _
  unfold Act.unwatched
  rw [ended]
  rfl

/-- The directory's backend with its journal. -/
theorem Directory.unaware_backend (config : Config) : (backend config).watched.Unaware :=
  fun request => unaware_watchCall ((backend_detached config).perform request).unaware.unwatched

namespace Play

/-- No look at the site sees its log. -/
inductive Unaware : Play σ → Prop where
  | answer (a) : Unaware (answer a)
  | raise (fault) : Unaware (raise fault)
  | look {next} (blind : ∀ earlier site, next (site.since earlier) = next site)
    (onward : ∀ site, Unaware (next site)) : Unaware (look next)
  | change (files) {next} (onward : Unaware next) : Unaware (change files next)
  | remember (memory) {next} (onward : Unaware next) : Unaware (remember memory next)
  | report (event) {next} (onward : Unaware next) : Unaware (report event next)
  | drain (file) {next} (onward : ∀ record, Unaware (next record)) : Unaware (drain file next)

theorem Unaware.unwatched {play : Play σ} (unaware : play.Unaware) : play.unwatched.Unaware := by
  induction unaware with
  | answer a => exact .answer a
  | raise fault => exact .raise fault
  | look blind _ ih =>
    refine .look (fun earlier site => ?_) fun site => ih site.forget
    exact congrArg Play.unwatched (blind earlier site.forget)
  | change files _ ih => exact .change files ih
  | remember memory _ ih => exact .look (fun _ _ => rfl) fun site => .remember _ ih
  | report event _ ih => exact .report event ih
  | drain file _ ih => exact .drain file ih

theorem Unaware.run {play : Play σ} (unaware : play.Unaware) {visit : String → Act σ Queue.Record}
    (visits : ∀ file, (visit file).Unaware) : (play.run visit).Unaware := by
  intro earlier
  induction unaware with
  | answer a => exact fun site => rfl
  | raise fault => exact fun site => rfl
  | @look next blind _ ih =>
    intro site
    change ((next (site.since earlier)).run visit).run (site.since earlier) = _
    rw [blind earlier site]
    exact ih site site
  | change files _ ih => exact fun site => ih { site with files }
  | remember memory _ ih => exact fun site => ih { site with peer := memory }
  | report event _ ih =>
    intro site
    have noted := (transparent_since earlier).note site event
    change Act.run _ ((site.since earlier).note event) = _
    rw [noted]
    exact ih (site.note event)
  | drain file _ ih => exact through_bind (visits file earlier) ih

end Play

theorem unaware_watchedRival {strategy : Request → Play σ}
    (unaware : ∀ request, (strategy request).Unaware) (close : Act σ Unit) (realm : Option String)
    (limit : Int) (depth : Nat) :
    (Backend.watchedRival strategy close realm limit depth).Unaware := by
  induction depth with
  | zero =>
    intro request
    exact unaware_watchCall ((unaware request).unwatched.run fun _ _ _ => rfl)
  | succ depth ih =>
    intro request
    exact unaware_watchCall ((unaware request).unwatched.run fun file =>
      unaware_watchDrain (unaware_drain ih realm limit file))

namespace Script

theorem unaware_changing (paths : List String) (change : Files → Except OsError Files)
    {next : Play Script} (unaware : next.Unaware) : (changing paths change next).Unaware := by
  unfold changing
  split
  · exact .raise _
  · refine .look (fun _ _ => rfl) fun site => ?_
    split
    · exact .change _ unaware
    · exact .raise _

theorem unaware_moves (effect : Effect) {next : Play Script} (unaware : next.Unaware) :
    (moves effect next).Unaware := by
  cases effect with
  | remove path => exact unaware_changing [path] (fun files => files.delete (.ofText path)) unaware
  | put path entry => exact unaware_changing _ (fun files => files.put (.ofText path) entry) unaware
  | drain path => exact .drain path fun _ => unaware

theorem unaware_verdict (reply : Reply) : (verdict reply).Unaware := by
  unfold verdict
  split
  · exact .raise _
  · exact .answer _

theorem unaware_effects (effects : List Effect) {last : Play Script} (unaware : last.Unaware) :
    (effects.foldr moves last).Unaware := by
  induction effects with
  | nil => exact unaware
  | cons effect rest ih => exact unaware_moves effect ih

theorem unaware_strategy (request : Request) : (strategy request).Unaware :=
  .look (fun _ _ => rfl) fun _ => .remember _ (unaware_effects _ (unaware_verdict _))

end Script

/-! ### Drains of a used controller -/

/-- What drains of a controller can leave, whatever becomes of the files and of the collaborator
between them. -/
inductive Controller.Leaves (c : Controller σ) : Site σ → Prop where
  | unused (files memory) : Leaves c (.start files memory)
  | drained {site} (earlier : Leaves c site) (files memory file) :
    Leaves c ((c.drain file).run { site with files, peer := memory }).2

theorem Controller.Leaves.unmarked {c : Controller σ} {site : Site σ} (left : c.Leaves site) :
    site.queueFile = none := by
  induction left with
  | unused files memory => rfl
  | drained earlier files memory file ih =>
    rw [Controller.run_drain]
    exact ih

/-- A drain begins by forgetting the stage. -/
theorem Controller.run_drain_restarted (c : Controller σ) (file : String) (site : Site σ)
    (stage : Option Stage) : (c.drain file).run { site with stage } = (c.drain file).run site := rfl

/-- After any drains, a drain has the result that it has with a new controller, makes the same calls,
each with the same drains inside it, and leaves the same files, stage and collaborator. In the log its
records stand after the earlier ones, and are the same. -/
theorem drain_renewed {b : Backend σ} {w : Backend (Journal × σ)}
    (follows : ∀ request, Follows (w.perform request) (b.perform request)) (unaware : w.Unaware)
    (realm : Option String) (limit : Int) {used : Site σ}
    (left : Controller.Leaves ⟨b, realm, limit⟩ used) (files : Files) (memory : σ) (file : String) :
    let c : Controller σ := ⟨b, realm, limit⟩
    let noting : Controller (Journal × σ) := ⟨w, realm, limit⟩
    let reused : Site σ := { used with files, peer := memory }
    let fresh : Site σ := .start files memory
    (c.drain file).run reused = ((c.drain file).run fresh).map id (Site.since used.log) ∧
      Follows (noting.drain file) (c.drain file) ∧
      noting.activation reused.watched ⟨id, file⟩ = noting.activation fresh.watched ⟨id, file⟩ := by
  intro c noting reused fresh
  have blank : fresh.since used.log = { reused with stage := none } := by
    simp only [fresh, reused, Site.since, Site.start, List.append_nil, left.unmarked]
  have noted : Follows (noting.drain file) (c.drain file) := follows_drain follows realm limit file
  have unread : (noting.drain file).Unaware := unaware_drain unaware realm limit file
  have drained : (noting.drain file).run reused.watched =
      ((noting.drain file).run fresh.watched).map id (Site.since used.log) := by
    rw [← noting.run_drain_restarted file reused.watched none]
    exact (congrArg (fun site => (noting.drain file).run site.watched) blank).symm.trans
      (unread used.log fresh.watched)
  refine ⟨?_, noted, ?_⟩
  · have plain := (noted.unaware unread) used.log fresh
    rw [blank, c.run_drain_restarted] at plain
    exact plain
  · let told (ended : Except Fault Queue.Record × Site (Journal × σ)) : Activation :=
      .mk ⟨file, files, ended.2.files, ended.1⟩ ended.2.peer.1.calls
    have same := congrArg told drained
    exact same

/-- The first call drains a file that is not there, and the second one raises. The stages that they
leave may not be followed by `opened`, but the third drain removes the file. -/
theorem drain_renewed_interrupted :
    let c : Controller Script := ⟨Script.backend (some "R") 8 1, some "R", 8⟩
    let files : Files := ⟨[(["q"], .file (.ofBytes (Utf8.encode "u\nad\nenable\n")))], [], none⟩
    let script := Script.start [⟨.success, [.drain "p"], none⟩, ⟨.success, [], some "down"⟩]
    let first := ((c.drain "q").run (.start files script)).2
    let second := ((c.drain "q").run first).2
    let third := (c.drain "q").run second
    c.Leaves second ∧ first.stage = some .failed ∧ second.stage = some .parsed ∧
      third.2.files.get? ["q"] = none ∧
      third = ((c.drain "q").run (.start second.files second.peer)).map id (Site.since second.log) := by
  intro c files script first second third
  let w := Backend.watchedRival Script.strategy Script.closeOne (some "R") 8 1
  have follows : ∀ request, Follows (w.perform request) (c.backend.perform request) := by
    intro request
    change Follows _ ((Script.backend (some "R") 8 1).perform request)
    rw [Script.backend_eq_rival]
    exact follows_watchedRival Script.strategy Script.closeOne (some "R") 8 1 request
  have unaware : w.Unaware :=
    unaware_watchedRival Script.unaware_strategy Script.closeOne (some "R") 8 1
  have left : c.Leaves second :=
    .drained (.drained (.unused files script) files script "q") first.files first.peer "q"
  have renewed := drain_renewed follows unaware (some "R") 8 left second.files second.peer "q"
  exact ⟨left, by decide, by decide, by decide, renewed.1⟩

end AccountSync
