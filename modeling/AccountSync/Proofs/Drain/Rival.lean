import AccountSync.Proofs.Drain.Journal
import AccountSync.Script

/-!
# Rivals

A rival is a backend that does what it likes with the files and drains queue files with the
controller that it serves, to any depth; a drain that fails ends its call. Scripted backends are
rivals (`Script.backend_eq_rival`), and so is each rival with its journal kept (`follows_watchedRival`).
-/

namespace AccountSync

variable {σ : Type}

inductive Play (σ : Type) where
  | answer (a : Answer)
  | raise (fault : Fault)
  | look (next : Site σ → Play σ)
  | change (files : Files) (next : Play σ)
  | remember (memory : σ) (next : Play σ)
  | report (event : Log.Event) (next : Play σ)
  | drain (file : String) (next : Queue.Record → Play σ)

namespace Play

def run (visit : String → Act σ Queue.Record) : Play σ → Act σ Answer
  | answer a => pure a
  | raise fault => throw fault
  | look next => do
    let site ← get
    (next site).run visit
  | change files next => do
    modify fun site => { site with files }
    next.run visit
  | remember memory next => do
    modify fun site => { site with peer := memory }
    next.run visit
  | report event next => do
    Act.emit event
    next.run visit
  | drain file next => do
    let record ← visit file
    (next record).run visit

/-- The same play where a journal is kept, which it neither sees nor touches. -/
def unwatched : Play σ → Play (Journal × σ)
  | answer a => answer a
  | raise fault => raise fault
  | look next => look fun site => (next site.forget).unwatched
  | change files next => change files next.unwatched
  | remember memory next => look fun site => remember (site.peer.1, memory) next.unwatched
  | report event next => report event next.unwatched
  | drain file next => drain file fun record => (next record).unwatched

end Play

/-- The rival that plays a strategy, with its controller's drains nested to the given depth. `call`
and `visit` stand around each call and each drain of its own. -/
def Backend.playing (call : Request → Act σ Answer → Act σ Answer)
    (visit : String → Act σ Queue.Record → Act σ Queue.Record) (strategy : Request → Play σ)
    (close : Act σ Unit) (realm : Option String) (limit : Int) : Nat → Backend σ
  | 0 =>
    { perform := fun request => call request ((strategy request).run fun _ =>
        Act.breach (.raised "drains are nested too deep"))
      close }
  | depth + 1 =>
    let nested := playing call visit strategy close realm limit depth
    { perform := fun request => call request ((strategy request).run fun file =>
        visit file (Controller.drain ⟨nested, realm, limit⟩ file))
      close }

def Backend.rival (strategy : Request → Play σ) (close : Act σ Unit) (realm : Option String)
    (limit : Int) (depth : Nat) : Backend σ :=
  Backend.playing (fun _ x => x) (fun _ x => x) strategy close realm limit depth

def Backend.watchedRival (strategy : Request → Play σ) (close : Act σ Unit) (realm : Option String)
    (limit : Int) (depth : Nat) : Backend (Journal × σ) :=
  Backend.playing watchCall watchDrain (fun request => (strategy request).unwatched) close.unwatched
    realm limit depth

/-! ### The journal of a rival -/

theorem follows_bind {α β : Type} {x : Act (Journal × σ) α} {y : Act σ α}
    {f : α → Act (Journal × σ) β} {g : α → Act σ β} (first : Follows x y)
    (next : ∀ a, Follows (f a) (g a)) : Follows (x >>= f) (y >>= g) :=
  through_bind first next

theorem follows_play {visit : String → Act (Journal × σ) Queue.Record}
    {visit' : String → Act σ Queue.Record} (visits : ∀ file, Follows (visit file) (visit' file))
    (play : Play σ) : Follows (play.unwatched.run visit) (play.run visit') := by
  induction play with
  | answer a => exact fun site => rfl
  | raise fault => exact fun site => rfl
  | look next ih => exact fun site => ih site.forget site
  | change files next ih => exact fun site => ih { site with files }
  | remember memory next ih => exact fun site => ih { site with peer := (site.peer.1, memory) }
  | report event next ih => exact follows_bind (fun _ => rfl) fun _ => ih
  | drain file next ih => exact follows_bind (visits file) ih

theorem follows_watchedRival (strategy : Request → Play σ) (close : Act σ Unit)
    (realm : Option String) (limit : Int) (depth : Nat) (request : Request) :
    Follows ((Backend.watchedRival strategy close realm limit depth).perform request)
      ((Backend.rival strategy close realm limit depth).perform request) := by
  induction depth generalizing request with
  | zero => exact follows_watchCall (follows_play (fun _ _ => rfl) _)
  | succ depth ih =>
    exact follows_watchCall (follows_play (fun file =>
      follows_watchDrain (follows_drain ih realm limit file)) _)

/-! ### Scripts -/

namespace Script

def changing (paths : List String) (change : Files → Except OsError Files) (next : Play Script) :
    Play Script :=
  if paths.any fun path => path.toList.contains '\x00' then .raise (.defect .nulInPath)
  else .look fun site =>
    match change site.files with
    | .ok files => .change files next
    | .error why => .raise (.defect (.fileEffect why paths))

def moves : Effect → Play Script → Play Script
  | .remove path => changing [path] fun files => files.delete (.ofText path)
  | .put path entry =>
    changing (match entry with | .link target => [target, path] | _ => [path])
      fun files => files.put (.ofText path) entry
  | .drain path => fun next => .drain path fun _ => next

def verdict (reply : Reply) : Play Script :=
  match reply.raised with
  | some text => .raise (.defect (.raised text))
  | none => .answer reply.answer

def strategy (request : Request) : Play Script :=
  .look fun site =>
    let (reply, rest) := site.peer.take request
    .remember rest (reply.effects.foldr moves (verdict reply))

theorem run_checkPaths (paths : List String) (site : Site Script) :
    (paths.forM fun path => discard (checkPath path) : Act Script Unit).run site =
      if paths.any fun path => path.toList.contains '\x00' then (.error (.defect .nulInPath), site)
      else (.ok (), site) := by
  induction paths with
  | nil => rfl
  | cons path rest ih =>
    rw [List.forM, Act.run_bind, run_discard, run_checkPath, List.any_cons]
    cases path.toList.contains '\x00' with
    | true => rfl
    | false => exact ih

theorem run_changeFiles (paths : List String) (change : Files → Except OsError Files)
    (site : Site Script) :
    (changeFiles paths change).run site =
      if paths.any fun path => path.toList.contains '\x00' then (.error (.defect .nulInPath), site)
      else
        match change site.files with
        | .ok files => (.ok (), { site with files })
        | .error why => (.error (.defect (.fileEffect why paths)), site) := by
  unfold changeFiles
  rw [Act.run_bind, run_checkPaths]
  cases paths.any fun path => path.toList.contains '\x00' with
  | true => rfl
  | false =>
    change Act.run (match change site.files with | .ok _ => _ | .error _ => _) site =
      match change site.files with | .ok _ => _ | .error _ => _
    cases change site.files with
    | ok files => rfl
    | error why => rfl

theorem run_changing (visit : String → Act Script Queue.Record) (paths : List String)
    (change : Files → Except OsError Files) (next : Play Script) :
    (changing paths change next).run visit = (do
      changeFiles paths change
      next.run visit) := by
  funext site
  change ((changing paths change next).run visit).run site = Act.run _ site
  unfold changing
  rw [Act.run_bind, run_changeFiles]
  cases paths.any fun path => path.toList.contains '\x00' with
  | true => rfl
  | false =>
    change Act.run (Play.run visit (match change site.files with | .ok _ => _ | .error _ => _)) site = _
    cases change site.files with
    | ok files => rfl
    | error why => rfl

theorem run_moves (visit : String → Act Script Queue.Record) (effect : Effect) (next : Play Script) :
    (moves effect next).run visit = (do
      runEffect visit effect
      next.run visit) := by
  cases effect with
  | remove path => exact run_changing visit [path] (fun files => files.delete (.ofText path)) next
  | put path entry =>
    cases entry with
    | link target =>
      exact run_changing visit [target, path] (fun files => files.put (.ofText path) (.link target)) next
    | file source =>
      exact run_changing visit [path] (fun files => files.put (.ofText path) (.file source)) next
    | barred why =>
      exact run_changing visit [path] (fun files => files.put (.ofText path) (.barred why)) next
    | folder => exact run_changing visit [path] (fun files => files.put (.ofText path) .folder) next
  | drain path =>
    funext site
    change (visit path >>= fun _ => next.run visit).run site =
      (discard (visit path) >>= fun _ => next.run visit).run site
    rw [Act.run_bind, Act.run_bind, run_discard]
    obtain ⟨result, after⟩ := (visit path).run site
    cases result with
    | ok record => rfl
    | error fault => rfl

theorem run_effects (visit : String → Act Script Queue.Record) (effects : List Effect)
    (last : Play Script) :
    (effects.foldr moves last).run visit = (do
      effects.forM (runEffect visit)
      last.run visit) := by
  induction effects with
  | nil => rfl
  | cons effect rest ih =>
    rw [List.foldr_cons, run_moves, ih, List.forM, bind_assoc]

theorem run_strategy (visit : String → Act Script Queue.Record) (request : Request) :
    (strategy request).run visit = respond visit request := by
  funext site
  let reply := (site.peer.take request).1
  let served : Site Script := { site with peer := (site.peer.take request).2 }
  change ((reply.effects.foldr moves (verdict reply)).run visit).run served =
    (reply.effects.forM (runEffect visit) >>= fun _ => match reply.raised with
      | some text => Act.breach (.raised text)
      | none => pure reply.answer : Act Script Answer).run served
  rw [run_effects, Act.run_bind, Act.run_bind]
  obtain ⟨result, after⟩ := (reply.effects.forM (runEffect visit)).run served
  cases result with
  | error fault => rfl
  | ok _ =>
    change ((verdict reply).run visit).run after = Act.run (match reply.raised with
      | some text => Act.breach (.raised text)
      | none => pure reply.answer) after
    unfold verdict
    cases reply.raised with
    | some text => rfl
    | none => rfl

/-- A scripted backend is the rival that makes the moves of its replies. -/
theorem backend_eq_rival (realm : Option String) (limit : Int) (depth : Nat) :
    backend realm limit depth = Backend.rival strategy closeOne realm limit depth := by
  induction depth with
  | zero =>
    unfold backend Backend.rival Backend.playing
    simp only [run_strategy]
  | succ depth ih =>
    have nested : Backend.playing (fun _ x => x) (fun _ x => x) strategy closeOne realm limit depth =
      backend realm limit depth := ih.symm
    unfold backend Backend.rival Backend.playing
    simp only [run_strategy, nested]

end Script

end AccountSync
