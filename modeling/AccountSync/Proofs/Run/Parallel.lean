import AccountSync.Run
import Mathlib.Data.List.Forall2

/-!
# Two runs side by side

Two steps are `Parallel` if, from states that are alike, they end alike: with the same fault, or with
values that are alike, and in states that are alike again. Steps made of parallel parts are parallel
(`Parallel.bind`), and so are steps that recover from faults (`Parallel.ensuring`,
`Parallel.onFailure`).
-/

namespace AccountSync

/-- Both results are the same error, or values that are alike. -/
inductive Both {ε α : Type} (like : α → α → Prop) : Except ε α → Except ε α → Prop where
  | failed (e : ε) : Both like (.error e) (.error e)
  | done {a b : α} (alike : like a b) : Both like (.ok a) (.ok b)

namespace Both

variable {ε α β : Type} {like : α → α → Prop} {like' : β → β → Prop}

theorem refl (reflexive : ∀ a, like a a) : ∀ result : Except ε α, Both like result result
  | .error e => .failed e
  | .ok a => .done (reflexive a)

theorem bind {x y : Except ε α} {f g : α → Except ε β} (first : Both like x y)
    (next : ∀ {a b}, like a b → Both like' (f a) (g b)) : Both like' (x >>= f) (y >>= g) := by
  cases first with
  | failed e => exact .failed e
  | done alike => exact next alike

theorem map {x y : Except ε α} {f g : α → β} (first : Both like x y)
    (next : ∀ {a b}, like a b → like' (f a) (g b)) : Both like' (x.map f) (y.map g) := by
  cases first with
  | failed e => exact .failed e
  | done alike => exact .done (next alike)

theorem of_map {f : α → β} {x y : Except ε α} (same : x.map f = y.map f) :
    Both (fun a b => f a = f b) x y := by
  cases x with
  | error e =>
    cases y with
    | error e' =>
      cases same
      exact .failed e
    | ok b => cases same
  | ok a =>
    cases y with
    | error e' => cases same
    | ok b => exact .done (Except.ok.inj same)

end Both

/-- Both steps fail alike, or both give values that are alike, and so are what they leave. -/
inductive Ends {ε σ α : Type} (lost kept : σ → σ → Prop) (like : α → α → Prop) :
    Except ε α × σ → Except ε α × σ → Prop where
  | failed (e : ε) {s t : σ} (left : lost s t) : Ends lost kept like (.error e, s) (.error e, t)
  | done {a b : α} {s t : σ} (alike : like a b) (left : kept s t) :
    Ends lost kept like (.ok a, s) (.ok b, t)

/-- From states that are `before`, both steps end alike: in `lost` states if they fail, in `after`
states if not. -/
def Parallel {ε σ α : Type} (before lost after : σ → σ → Prop) (like : α → α → Prop)
    (x y : ExceptT ε (StateM σ) α) : Prop :=
  ∀ s t, before s t → Ends lost after like (x.run s) (y.run t)

namespace Parallel

section

variable {ε σ α β : Type} {before lost between after : σ → σ → Prop} {like : α → α → Prop}
  {like' : β → β → Prop}

theorem pure {a b : α} (alike : like a b) :
    Parallel after lost after like (Pure.pure a : ExceptT ε (StateM σ) α) (Pure.pure b) :=
  fun _ _ left => .done alike left

theorem throw (e : ε) : Parallel before before after like
    (MonadExcept.throw e : ExceptT ε (StateM σ) α) (MonadExcept.throw e) :=
  fun _ _ left => .failed e left

theorem bind {x y : ExceptT ε (StateM σ) α} {f g : α → ExceptT ε (StateM σ) β}
    (first : Parallel before lost between like x y)
    (next : ∀ {a b}, like a b → Parallel between lost after like' (f a) (g b)) :
    Parallel before lost after like' (x >>= f) (y >>= g) := by
  intro s t start
  have ended := first s t start
  change Ends lost after like' (ExceptT.bindCont f (x s).1 (x s).2) (ExceptT.bindCont g (y t).1 (y t).2)
  change Ends lost between like (x s) (y t) at ended
  generalize x s = left at ended
  generalize y t = right at ended
  cases ended with
  | failed e left => exact .failed e left
  | done alike left => exact next alike _ _ left

end

end Parallel

/-! ### Steps on sites -/

namespace Ends

variable {σ α : Type} {held : Site σ → Site σ → Prop} {like : α → α → Prop} {s t : Site σ}

theorem ensuring {x y : Act σ α} {cleanup cleanup' : Act σ Unit} {like' : Unit → Unit → Prop}
    (ended : Ends held held like (x.run s) (y.run t))
    (cleans : Parallel held held held like' cleanup cleanup') :
    Ends held held like ((x.ensuring cleanup).run s) ((y.ensuring cleanup').run t) := by
  change Ends _ _ _ (Act.ensuring x cleanup s) (Act.ensuring y cleanup' t)
  unfold Act.ensuring
  generalize x.run s = left at ended
  generalize y.run t = right at ended
  -- a fault of the cleanup takes the place of either outcome, so the cleanups are compared in both
  cases ended with
  | @failed e s' t' left =>
    have cleaned : Ends held held like' (cleanup.run s') (cleanup'.run t') := cleans s' t' left
    dsimp only
    generalize cleanup.run s' = last at cleaned
    generalize cleanup'.run t' = last' at cleaned
    cases cleaned with
    | failed e left => exact .failed e left
    | done _ left => exact .failed e left
  | @done a b s' t' alike left =>
    have cleaned : Ends held held like' (cleanup.run s') (cleanup'.run t') := cleans s' t' left
    dsimp only
    generalize cleanup.run s' = last at cleaned
    generalize cleanup'.run t' = last' at cleaned
    cases cleaned with
    | failed e left => exact .failed e left
    | done _ left => exact .done alike left

theorem reported (program : String) {x y : Act σ Unit} {like : Unit → Unit → Prop}
    (ended : Ends held held like (x.run s) (y.run t))
    (emits : ∀ event, Parallel held held held (fun _ _ => True) (Act.emit event) (Act.emit event)) :
    Ends held held Eq ((AccountSync.reported program x).run s)
      ((AccountSync.reported program y).run t) := by
  change Ends _ _ _ (AccountSync.reported program x s) (AccountSync.reported program y t)
  unfold AccountSync.reported
  generalize x.run s = left at ended
  generalize y.run t = right at ended
  cases ended with
  | done _ left => exact .done rfl left
  | failed e left =>
    cases e with
    | defect d => exact .failed _ left
    | failure f =>
      have told : Parallel held held held Eq
          (do
            Act.emit (.syncFailed f.message f.kind)
            return Exit.refusal (program ++ ": " ++ f.message))
          (do
            Act.emit (.syncFailed f.message f.kind)
            return Exit.refusal (program ++ ": " ++ f.message)) :=
        Parallel.bind (emits _) fun _ => Parallel.pure rfl
      exact told _ _ left

end Ends

/-- Sites with the same log, stage and mark, whose files and peers are alike. -/
structure Site.Alike {σ : Type} (files : Files → Files → Prop) (peers : σ → σ → Prop)
    (s t : Site σ) : Prop where
  files : files s.files t.files
  log : s.log = t.log
  stage : s.stage = t.stage
  queueFile : s.queueFile = t.queueFile
  peer : peers s.peer t.peer

/-- Two steps that end alike from sites that are alike. -/
abbrev Act.Alike {σ α : Type} (files : Files → Files → Prop) (peers : σ → σ → Prop)
    (like : α → α → Prop) (x y : Act σ α) : Prop :=
  Parallel (Site.Alike files peers) (Site.Alike files peers) (Site.Alike files peers) like x y

namespace Act.Alike

variable {σ α β : Type} {files : Files → Files → Prop} {peers : σ → σ → Prop} {like : α → α → Prop}
  {x y : Act σ α}

theorem bind {like' : β → β → Prop} {f g : α → Act σ β} (first : Act.Alike files peers like x y)
    (next : ∀ {a b}, like a b → Act.Alike files peers like' (f a) (g b)) :
    Act.Alike files peers like' (x >>= f) (y >>= g) :=
  Parallel.bind first next

theorem get_bind {like : β → β → Prop} {f g : Site σ → Act σ β}
    (next : ∀ s t, Site.Alike files peers s t → Act.Alike files peers like (f s) (g t)) :
    Act.Alike files peers like (get >>= f) (get >>= g) :=
  fun s t start => next s t start s t start

theorem modify {f g : Site σ → Site σ}
    (kept : ∀ s t, Site.Alike files peers s t → Site.Alike files peers (f s) (g t)) :
    Act.Alike files peers (fun _ _ => True) (modify f) (MonadState.modifyGet fun s => ((), g s)) :=
  fun s t start => .done trivial (kept s t start)

theorem emit (event : Log.Event) :
    Act.Alike files peers (fun _ _ => True) (Act.emit event) (Act.emit event) := by
  refine Act.Alike.modify fun s t start => ?_
  obtain ⟨sameFiles, log, stage, queueFile, peer⟩ := start
  exact ⟨sameFiles, by rw [log, queueFile], stage, queueFile, peer⟩

theorem discard (alike : Act.Alike files peers like x y) :
    Act.Alike files peers (fun _ _ => True) (discard x : Act σ Unit) (Functor.discard y) := by
  have ended : Act.Alike files peers (fun _ _ => True) (x >>= fun _ => pure ())
      (y >>= fun _ => pure ()) := Act.Alike.bind alike fun _ => Parallel.pure trivial
  exact ended

theorem run (alike : Act.Alike files peers like x y) {s t : Site σ}
    (start : Site.Alike files peers s t) :
    Ends (Site.Alike files peers) (Site.Alike files peers) like (x.run s) (y.run t) :=
  alike s t start

theorem forM {β : Type} {items : List α} {items' : List β} {each : α → β → Prop}
    {f : α → Act σ Unit} {g : β → Act σ Unit} (same : List.Forall₂ each items items')
    (steps : ∀ {a b}, each a b → Act.Alike files peers (fun _ _ => True) (f a) (g b)) :
    Act.Alike files peers (fun _ _ => True) (items.forM f) (items'.forM g) := by
  induction same with
  | nil => exact Parallel.pure trivial
  | cons first _ ih => exact Act.Alike.bind (steps first) fun _ => ih

theorem marked (file : String) (alike : Act.Alike files peers like x y) :
    Act.Alike files peers like (Act.marked file x) (Act.marked file y) := by
  intro s t start
  obtain ⟨sameFiles, log, stage, queueFile, peer⟩ := start
  have ended := alike.run (s := { s with queueFile := some file })
    (t := { t with queueFile := some file }) ⟨sameFiles, log, stage, rfl, peer⟩
  have restore : ∀ {s' t' : Site σ}, Site.Alike files peers s' t' →
      Site.Alike files peers { s' with queueFile := s.queueFile }
        { t' with queueFile := t.queueFile } :=
    fun left => ⟨left.files, left.log, left.stage, queueFile, left.peer⟩
  change Ends _ _ _ (Act.marked file x s) (Act.marked file y t)
  unfold Act.marked
  generalize x.run { s with queueFile := some file } = left at ended
  generalize y.run { t with queueFile := some file } = right at ended
  cases ended with
  | failed e left => exact .failed e (restore left)
  | done alike left => exact .done alike (restore left)

theorem ensuring {cleanup cleanup' : Act σ Unit} (alike : Act.Alike files peers like x y)
    (cleans : Act.Alike files peers (fun _ _ => True) cleanup cleanup') :
    Act.Alike files peers like (x.ensuring cleanup) (y.ensuring cleanup') :=
  fun _ _ start => (alike.run start).ensuring cleans

theorem onFailure {handle handle' : Act σ Unit} (alike : Act.Alike files peers like x y)
    (handles : Act.Alike files peers (fun _ _ => True) handle handle') :
    Act.Alike files peers like (x.onFailure handle) (y.onFailure handle') := by
  intro s t start
  have ended := alike.run start
  change Ends _ _ _ (Act.onFailure x handle s) (Act.onFailure y handle' t)
  unfold Act.onFailure
  generalize x.run s = left at ended
  generalize y.run t = right at ended
  cases ended with
  | done alike left => exact .done alike left
  | @failed e s' t' left =>
    cases e with
    | defect d => exact .failed _ left
    | failure f =>
      have handled := handles.run left
      dsimp only
      generalize handle.run s' = last at handled
      generalize handle'.run t' = last' at handled
      cases handled with
      | failed e left => exact .failed e left
      | done _ left => exact .failed _ left

end Act.Alike

end AccountSync
