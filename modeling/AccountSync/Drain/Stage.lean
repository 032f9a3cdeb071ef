/-!
# Stages of a drain

A drain goes from opened to deleted, one stage at a time, and may fail at every stage but the last.
-/

namespace AccountSync

inductive Stage where
  | opened
  | parsed
  | dispatched
  | deleted
  | failed
  deriving DecidableEq, Repr

namespace Stage

def all : List Stage := [.opened, .parsed, .dispatched, .deleted, .failed]

def name : Stage → String
  | .opened => "OPENED"
  | .parsed => "PARSED"
  | .dispatched => "DISPATCHED"
  | .deleted => "DELETED"
  | .failed => "FAILED"

def ofName? (name : String) : Option Stage := all.find? (·.name = name)

/-- The stages that may follow; `none` is a drain that has not opened its file. -/
def successors : Option Stage → List Stage
  | none => [.opened, .failed]
  | some .opened => [.parsed, .failed]
  | some .parsed => [.dispatched, .failed]
  | some .dispatched => [.deleted, .failed]
  | some .deleted => []
  | some .failed => []

def describe (stage : Option Stage) : String :=
  match stage with
  | some s => s.name
  | none => "None"

theorem ofName?_name (s : Stage) : ofName? s.name = some s := by cases s <;> decide

end Stage

end AccountSync
