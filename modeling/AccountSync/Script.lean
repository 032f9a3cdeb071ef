import AccountSync.Drain.Basic

/-!
# Scripted backends

A scripted backend records each call and takes the next reply of its script. A reply may first
remove or write files and drain queue files with the controller that is being served.
-/

namespace AccountSync

inductive Effect where
  | remove (path : String)
  | put (path : String) (entry : Entry)
  | drain (path : String)

structure Reply where
  answer : Answer
  effects : List Effect
  /-- Raised in place of an answer. -/
  raised : Option String

def Reply.success : Reply := ⟨.success, [], none⟩

structure Script where
  replies : List Reply
  calls : List Request
  /-- The realms for which a backend was made. -/
  opened : List (Option String)
  closed : Nat

def Script.start (replies : List Reply) : Script := ⟨replies, [], [], 0⟩

namespace Script

/-- Records a call and takes the next reply; a script that has run out answers with success. -/
def take (request : Request) (s : Script) : Reply × Script :=
  match s.replies with
  | [] => (.success, { s with calls := s.calls ++ [request] })
  | reply :: rest => (reply, { s with calls := s.calls ++ [request], replies := rest })

def changeFiles (paths : List String) (change : Files → Except OsError Files) :
    Act Script Unit := do
  paths.forM fun path => discard (checkPath path)
  match change (← get).files with
  | .ok files => modify fun site => { site with files }
  | .error why => Act.breach (.fileEffect why paths)

/-- An error on a link names its target too. -/
def putEntry (path : String) (entry : Entry) : Act Script Unit :=
  let paths := match entry with
    | .link target => [target, path]
    | _ => [path]
  changeFiles paths fun files => files.put (.ofText path) entry

def runEffect (drain : String → Act Script Queue.Record) : Effect → Act Script Unit
  | .remove path => changeFiles [path] fun files => files.delete (.ofText path)
  | .put path entry => putEntry path entry
  | .drain path => discard (drain path)

def closeOne : Act Script Unit :=
  modify fun site => { site with peer := { site.peer with closed := site.peer.closed + 1 } }

def respond (drain : String → Act Script Queue.Record) (request : Request) :
    Act Script Answer := do
  let (reply, rest) := (← get).peer.take request
  modify fun site => { site with peer := rest }
  reply.effects.forM (runEffect drain)
  match reply.raised with
  | some text => Act.breach (.raised text)
  | none => return reply.answer

/-- A backend whose replies may drain again, to the given depth. Every nested drain costs a reply,
so a depth of the number of replies is never used up. -/
def backend (realm : Option String) (lineLimit : Int) : Nat → Backend Script
  | 0 => ⟨respond fun _ => Act.breach (.raised "drains are nested too deep"), closeOne⟩
  | depth + 1 =>
    ⟨respond (Controller.drain ⟨backend realm lineLimit depth, realm, lineLimit⟩), closeOne⟩

/-- Makes the backend and records the realm that it serves, or fails with a given message. -/
def connect (realm : Option String) (lineLimit : Int) (depth : Nat) (error : Option String) :
    Act Script (Backend Script) := do
  match error with
  | some message => Act.fail (.backendInit message)
  | none =>
    modify fun site =>
      { site with peer := { site.peer with opened := site.peer.opened ++ [realm] } }
    return backend realm lineLimit depth

end Script

end AccountSync
