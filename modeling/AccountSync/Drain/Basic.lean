import AccountSync.Dispatch
import AccountSync.Queue.Record

/-!
# Draining a queue file

A drain opens a queue file, reads its record, dispatches the action and removes the file, in this
order, so that a file is removed only after the backend reported success. A failure at any step
leaves the file and ends in stage `failed`. All drains of a controller share one stage.
-/

namespace AccountSync

structure Controller (σ : Type) where
  backend : Backend σ
  realm : Option String
  lineLimit : Int

variable {σ : Type}

/-- Moves on to the next stage, if it may follow. The record of the move comes first. -/
def advance (next : Stage) : Act σ Unit := do
  let site ← get
  if next ∈ Stage.successors site.stage then
    Act.emit (.drainStage site.stage next)
    modify fun site => { site with stage := some next }
  else Act.breach (.invalidTransition site.stage next)

def advanceTo (name : String) : Act σ Unit :=
  match Stage.ofName? name with
  | some next => advance next
  | none => Act.breach (.unknownStage name)

/-- No path holds a NUL. -/
def checkPath (file : String) : Act σ Path :=
  if file.toList.contains '\x00' then Act.breach .nulInPath else pure (.ofText file)

def openFile (file : String) (path : Path) : Act σ Queue.Source := do
  match (← get).files.openSource path with
  | .ok source => return source
  | .error why => Act.fail (.cannotOpen file why)

def readRecord (limit : Int) (file : String) (source : Queue.Source) : Act σ Queue.Record :=
  match (Queue.Record.readWithin limit file).run source with
  | (.ok record, _) => pure record
  | (.error fault, _) => throw fault

def unlinkFile (file : String) (path : Path) : Act σ Unit := do
  match (← get).files.unlink path with
  | .ok files => modify fun site => { site with files }
  | .error why => Act.fail (.cannotUnlink file why)

namespace Controller

def process (c : Controller σ) (file : String) : Act σ Queue.Record := do
  let path ← checkPath file
  let source ← openFile file path
  advance .opened
  let record ← readRecord c.lineLimit file source
  advance .parsed
  let principal ← resolve c.realm record.principalName
  dispatch c.backend c.realm principal record.action record.principalName
  advance .dispatched
  unlinkFile file path
  advance .deleted
  return record

def drain (c : Controller σ) (file : String) : Act σ Queue.Record := do
  modify fun site => { site with stage := none }
  Act.marked file (Act.onFailure (c.process file) (advance .failed))

end Controller

end AccountSync
