import AccountSync.Proofs.Drain.Spans

/-!
# Errands

An errand is a step that may also drain queue files and that goes on as it likes when a drain of its
own fails. A conduct is a collaborator whose steps are errands for the controller that it serves. What
they do, in whatever order, leaves spans that tell the marks of all records (`Errand.attributes`).
-/

namespace AccountSync

open Log (Span)

variable {σ α β : Type}

/-- `x` with its fault, if it ends in one, as a result. -/
def Act.caught (x : Act σ α) : Act σ (Except Fault α) := fun site =>
  let ended := x.run site
  (.ok ended.1, ended.2)

inductive Errand (σ α : Type) where
  | finish (result : Except Fault α)
  | look (next : Site σ → Errand σ α)
  | change (files : Files) (next : Errand σ α)
  | remember (memory : σ) (next : Errand σ α)
  | report (event : Log.Event) (next : Errand σ α)
  | drain (file : String) (next : Except Fault Queue.Record → Errand σ α)

namespace Errand

def run (visit : String → Act σ Queue.Record) : Errand σ α → Act σ α
  | finish result => fun site => (result, site)
  | look next => do
    let site ← get
    (next site).run visit
  | change files next => do
    modify fun site => { site with files }
    next.run visit
  | remember memory next => do
    modify fun site => { site with peer := memory }
    next.run visit
  | report event next => do
    Act.emit event
    next.run visit
  | drain file next => do
    let result ← (visit file).caught
    (next result).run visit

/-- The same errand where spans are listed, which it neither sees nor touches. -/
def listed : Errand σ α → Errand (List Span × σ) α
  | finish result => finish result
  | look next => look fun site => (next site.unlisted).listed
  | change files next => change files next.listed
  | remember memory next => look fun site => remember (site.peer.1, memory) next.listed
  | report event next => report event next.listed
  | drain file next => drain file fun result => (next result).listed

end Errand

/-- What a collaborator does when its backend is made, when it is called and when it is closed. -/
structure Conduct (σ : Type) where
  opening : Errand σ Unit
  answering : Request → Errand σ Answer
  closing : Errand σ Unit

namespace Conduct

def backend (conduct : Conduct σ) (visit : String → Act σ Queue.Record) : Backend σ where
  perform request := (conduct.answering request).run visit
  close := conduct.closing.run visit

/-- Makes the backend. -/
def factory (conduct : Conduct σ) (visit : String → Act σ Queue.Record) : Act σ (Backend σ) := do
  conduct.opening.run visit
  return conduct.backend visit

/-- The drains of the controller that the backend serves, nested to the given depth, with `around`
around each of them. -/
def drains (around : String → Act σ Queue.Record → Act σ Queue.Record) (conduct : Conduct σ)
    (realm : Option String) (limit : Int) : Nat → String → Act σ Queue.Record
  | 0, _ => Act.breach (.raised "drains are nested too deep")
  | depth + 1, file =>
    around file (Controller.drain
      ⟨conduct.backend (conduct.drains around realm limit depth), realm, limit⟩ file)

def listed (conduct : Conduct σ) : Conduct (List Span × σ) where
  opening := conduct.opening.listed
  answering request := (conduct.answering request).listed
  closing := conduct.closing.listed

def plainDrains (conduct : Conduct σ) (realm : Option String) (limit : Int) (depth : Nat) :
    String → Act σ Queue.Record :=
  conduct.drains (fun _ x => x) realm limit depth

def listedDrains (conduct : Conduct σ) (realm : Option String) (limit : Int) (depth : Nat) :
    String → Act (List Span × σ) Queue.Record :=
  conduct.listed.drains Act.spanned realm limit depth

end Conduct

/-! ### Spans belong to the records -/

namespace Act.Spanning

theorem still {x : Act (List Span × σ) α}
    (still : ∀ site, (x.run site).2.queueFile = site.queueFile ∧ (x.run site).2.log = site.log ∧
      (x.run site).2.peer.1 = site.peer.1) : x.Spanning := by
  intro site
  obtain ⟨mark, log, list⟩ := still site
  exact ⟨_, _, .still mark log list⟩

theorem emit (event : Log.Event) : (Act.emit event : Act (List Span × σ) Unit).Spanning :=
  fun site => ⟨_, _, .note site event⟩

theorem bind {x : Act (List Span × σ) α} {f : α → Act (List Span × σ) β} (first : x.Spanning)
    (next : ∀ a, (f a).Spanning) : (x >>= f).Spanning := by
  intro site
  obtain ⟨records, spans, leads⟩ := first site
  rw [run_bind]
  generalize x.run site = ended at leads
  obtain ⟨result, after⟩ := ended
  cases result with
  | error fault => exact ⟨_, _, leads⟩
  | ok a =>
    obtain ⟨more, others, onward⟩ := next a after
    exact ⟨_, _, leads.trans onward⟩

theorem caught {x : Act (List Span × σ) α} (spanning : x.Spanning) : x.caught.Spanning := spanning

theorem errand {visit : String → Act (List Span × σ) Queue.Record}
    (visits : ∀ file, (visit file).Spanning) (errand : Errand σ α) :
    (errand.listed.run visit).Spanning := by
  induction errand with
  | finish result => exact .still fun site => ⟨rfl, rfl, rfl⟩
  | look next ih => exact fun site => ih site.unlisted site
  | change files next ih => exact .bind (.still fun site => ⟨rfl, rfl, rfl⟩) fun _ => ih
  | remember memory next ih =>
    intro site
    have remembers : (modify fun site => { site with peer := (site.peer.1, memory) } :
        Act (List Span × σ) Unit).Spanning := .still fun site => ⟨rfl, rfl, rfl⟩
    exact remembers.bind (fun _ => ih) site
  | report event next ih => exact .bind (.emit event) fun _ => ih
  | drain file next ih => exact .bind (visits file).caught ih

end Act.Spanning

/-! ### Listing changes nothing -/

theorem through_caught {f : Site σ → Site β} {x : Act σ α} {y : Act β α} (through : Through f x y) :
    Through f x.caught y.caught := by
  intro site
  change Act.caught y (f site) = (Act.caught x site).map id f
  unfold Act.caught
  rw [through site]
  rfl

theorem through_errand {visit : String → Act (List Span × σ) Queue.Record}
    {visit' : String → Act σ Queue.Record}
    (visits : ∀ file, Through Site.unlisted (visit file) (visit' file)) (errand : Errand σ α) :
    Through Site.unlisted (errand.listed.run visit) (errand.run visit') := by
  induction errand with
  | finish result => exact fun site => rfl
  | look next ih => exact fun site => ih site.unlisted site
  | change files next ih => exact fun site => ih { site with files }
  | remember memory next ih => exact fun site => ih { site with peer := (site.peer.1, memory) }
  | report event next ih => exact through_bind (fun _ => rfl) fun _ => ih
  | drain file next ih => exact through_bind (through_caught (visits file)) ih

/-! ### Drains to any depth -/

namespace Conduct

variable (conduct : Conduct σ) (realm : Option String) (limit : Int) (depth : Nat)

theorem spanning_drains (file : String) : (conduct.listedDrains realm limit depth file).Spanning := by
  induction depth generalizing file with
  | zero => exact .still fun site => ⟨rfl, rfl, rfl⟩
  | succ depth ih => exact spanning_drain (fun request => .errand ih _) realm limit file

theorem through_drains (file : String) :
    Through Site.unlisted (conduct.listedDrains realm limit depth file)
      (conduct.plainDrains realm limit depth file) := by
  induction depth generalizing file with
  | zero => exact fun site => rfl
  | succ depth ih =>
    exact through_drain transparent_unlisted (fun request => through_errand ih _) realm limit file

end Conduct

/-- `x` does what `y` does and restores the mark in force, and the spans that it lists tell the marks
of the records that are logged. -/
def Attributes (x : Act (List Span × σ) α) (y : Act σ α) : Prop :=
  ∀ site : Site σ,
    let ended := x.run site.listing
    y.run site = (ended.1, ended.2.unlisted) ∧ ended.2.queueFile = site.queueFile ∧
      Log.Attributed site.queueFile site.log ended.2.log ended.2.peer.1

theorem Act.Spanning.attributes {x : Act (List Span × σ) α} {y : Act σ α} (spanning : x.Spanning)
    (through : Through Site.unlisted x y) : Attributes x y := by
  intro site ended
  obtain ⟨records, spans, leads⟩ := spanning site.listing
  have list : ended.2.peer.1 = spans := leads.list
  have log : ended.2.log = site.log ++ records := leads.log
  refine ⟨through site.listing, leads.mark, ?_⟩
  rw [list, log]
  exact leads.marked.attributed

theorem Errand.attributes (conduct : Conduct σ) (realm : Option String) (limit : Int) (depth : Nat)
    (errand : Errand σ α) :
    Attributes (errand.listed.run (conduct.listedDrains realm limit depth))
      (errand.run (conduct.plainDrains realm limit depth)) :=
  Act.Spanning.attributes (.errand (conduct.spanning_drains realm limit depth) errand)
    (through_errand (conduct.through_drains realm limit depth) errand)

end AccountSync
