import AccountSync.Failure

/-!
# Queue records

A queue file holds a principal, the target system, an action and, for a password, the password, each
on a line of its own. What follows is ignored. `Record.read` reads one and `Record.encode` writes
one.
-/

namespace AccountSync.Queue

inductive TargetSystem where
  | activeDirectory
  deriving DecidableEq, Repr

namespace TargetSystem

def token : TargetSystem → String
  | .activeDirectory => "ad"

def ofToken? (token : String) : Option TargetSystem :=
  if token = activeDirectory.token then some .activeDirectory else none

end TargetSystem

/-- The principal is kept as it was written. -/
structure Record where
  principalName : String
  target : TargetSystem
  action : Action
  deriving DecidableEq

namespace Record

/-! ### Writing -/

def lines (r : Record) : List String :=
  [r.principalName, r.target.token, r.action.token] ++
    match r.action with
    | .password secret => [secret.text]
    | _ => []

def encode (r : Record) : List UInt8 :=
  r.lines.flatMap fun line => Utf8.encode line ++ [lineFeed]

/-! ### Reading -/

abbrev Reader := ExceptT Fault (StateM Source)

def interrupted (file : String) : Interruption → Fault
  | .failed e => .failure (.cannotRead file e)
  | .limitTooLarge => .defect .lineLimitTooLarge

def readText (limit : LineLimit) (file : String) (number : Nat) : Reader String := do
  let line ← (Source.readLine limit).adapt (interrupted file)
  match line.status with
  | .tooLong => throw (.failure (.lineTooLong file limit.value))
  | .ended => throw (.failure (.fileEnded file number))
  | .complete =>
    match Utf8.decode line.data with
    | .ok text => return text
    | .error fault => throw (.failure (.invalidLine file number (.encoding fault)))

def readTarget (limit : LineLimit) (file : String) : Reader TargetSystem := do
  let token ← readText limit file 2
  match TargetSystem.ofToken? token with
  | some target => return target
  | none => throw (.failure (.unknownTarget file token))

def readPassword (limit : LineLimit) (file : String) : Reader Password := do
  let text ← readText limit file 4
  match Password.ofText? text with
  | some secret => return secret
  | none => throw (.failure (.invalidLine file 4 .emptyPassword))

def readAction (limit : LineLimit) (file : String) : Reader Action := do
  let token ← readText limit file 3
  match token with
  | "enable" => return .enable
  | "disable" => return .disable
  | "password" => return .password (← readPassword limit file)
  | _ => throw (.failure (.unknownAction file token))

def read (limit : LineLimit) (file : String) : Reader Record := do
  let principalName ← readText limit file 1
  let target ← readTarget limit file
  let action ← readAction limit file
  return { principalName, target, action }

/-- `read` with a limit that may be too small to hold a line. -/
def readWithin (limit : Int) (file : String) : Reader Record :=
  match LineLimit.ofInt? limit with
  | some limit => read limit file
  | none => throw (.defect .lineLimitTooSmall)

end Record

end AccountSync.Queue
