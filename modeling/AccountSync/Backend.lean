import AccountSync.Site

/-!
# Backends

A backend carries out one action for one principal and answers with a status, zero for success. It
acts on the site of the run, so it may do there whatever a collaborator can do.
-/

namespace AccountSync

structure Answer where
  status : Int
  message : String
  deriving DecidableEq, Repr

namespace Answer

def success : Answer := ⟨0, ""⟩

def isOk (a : Answer) : Bool := a.status = 0

/-- The first `limit` characters; a negative limit counts from the end. -/
def clip (limit : Int) (message : String) : String :=
  let chars := message.toList
  let length := if 0 ≤ limit then limit.toNat else chars.length - limit.natAbs
  .ofList (chars.take length)

end Answer

/-- What a backend is asked for: an action on a principal, in the realm that names default to. -/
structure Request where
  realm : Option String
  principal : Principal
  action : Action
  deriving DecidableEq

structure Backend (σ : Type) where
  perform : Request → Act σ Answer
  close : Act σ Unit

end AccountSync
