import AccountSync.Failure
import AccountSync.Files.Tree
import AccountSync.Log.Record

/-!
# The site of a run

A `Site` is all that a run can read and change: the files, the log, the stage of the drain and the
collaborator behind the backend. An `Act` is a step on it; a step that stops with a fault keeps what
it has done. `Act.run_bind` is how facts about a composed step follow from its parts.
-/

namespace AccountSync

structure Site (σ : Type) where
  files : Files
  log : List Log.Record
  stage : Option Stage
  /-- The queue file that records are marked with. -/
  queueFile : Option String
  peer : σ

def Site.start {σ : Type} (files : Files) (peer : σ) : Site σ :=
  ⟨files, [], none, none, peer⟩

abbrev Act (σ : Type) := ExceptT Fault (StateM (Site σ))

namespace Act

variable {σ α β : Type}

def run (x : Act σ α) (site : Site σ) : Except Fault α × Site σ := x site

theorem run_bind (x : Act σ α) (f : α → Act σ β) (site : Site σ) :
    (x >>= f).run site =
      match x.run site with
      | (.ok a, after) => (f a).run after
      | (.error e, after) => (.error e, after) := by
  simp only [run, bind, ExceptT.bind, ExceptT.mk, StateT.bind, ExceptT.bindCont]
  cases h : x site with
  | mk r after => cases r <;> rfl

def fail (f : Failure) : Act σ α := throw (.failure f)

def breach (d : Defect) : Act σ α := throw (.defect d)

def emit (event : Log.Event) : Act σ Unit :=
  modify fun site => { site with log := site.log ++ [⟨event, site.queueFile⟩] }

/-- Marks the records of `x` with a queue file, and puts the former mark back however `x` ends. -/
def marked (file : String) (x : Act σ α) : Act σ α := fun site =>
  match x.run { site with queueFile := some file } with
  | (result, after) => (result, { after with queueFile := site.queueFile })

/-- Runs `cleanup` however `x` ends. A fault of `cleanup` takes the place of the outcome of `x`. -/
def ensuring (x : Act σ α) (cleanup : Act σ Unit) : Act σ α := fun site =>
  match x.run site with
  | (result, after) =>
    match cleanup.run after with
    | (.ok _, last) => (result, last)
    | (.error e, last) => (.error e, last)

/-- Runs `handle` after a failure and fails again. Defects pass. -/
def onFailure (x : Act σ α) (handle : Act σ Unit) : Act σ α := fun site =>
  match x.run site with
  | (.error (.failure f), after) =>
    match handle.run after with
    | (.ok _, last) => (.error (.failure f), last)
    | (.error e, last) => (.error e, last)
  | outcome => outcome

end Act

end AccountSync
