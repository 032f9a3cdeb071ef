import AccountSync.Backend
import AccountSync.Directory.AccountControl
import AccountSync.Directory.Connection

/-!
# The directory backend

Maps a principal to an account, finds its entry and changes its password or its control flags. Every
answer carries the directory's result code, or `transportError` with the text of the error.
-/

namespace AccountSync.Directory

structure Config where
  baseDn : String
  /-- Principals with this single instance map to accounts too. -/
  baseInstance : Option String
  messageLimit : Int
  deriving DecidableEq, Repr

def transportError : Int := -1

def noSuchObject : Int := 32

def unwillingToPerform : Int := 53

/-! ### Reading replies -/

/-- A reply that cannot be read stops the run. -/
def readable {α : Type} : Except Value.Fault α → Act Connection α
  | .ok a => pure a
  | .error fault => Act.breach (.unreadableReply fault)

/-- The code of a result; a result without one counts as a transport error. -/
def resultCode (result : Value) : Except Value.Fault Int := do
  match ← result.member? "result" with
  | some code => code.toInteger
  | none => return transportError

/-- A member of a result as text, nothing if it is missing or empty. -/
def resultText (key : String) (result : Value) : Except Value.Fault String := do
  match ← result.member? key with
  | some value => return if value.isTruthy then value.asText else ""
  | none => return ""

def describe (result : Value) : Except Value.Fault String := do
  if !result.isTruthy then return "no result from server"
  let description ← resultText "description" result
  let message ← resultText "message" result
  match [description, message].filter (· ≠ "") with
  | [] => return "unknown error"
  | parts => return ": ".intercalate parts

def isEntry (value : Value) : Except Value.Fault Bool := do
  match ← value.member? "type" with
  | some (.text kind) => return kind = "searchResEntry"
  | _ => return false

/-- The entries among the items of a response. Every item is looked at. -/
def entriesOf : List Value → Except Value.Fault (List Value)
  | [] => return []
  | item :: rest => do
    let keep ← isEntry item
    let entries ← entriesOf rest
    return if keep then item :: entries else entries

def responseEntries (response : Value) : Except Value.Fault (List Value) := do
  if response.isTruthy then entriesOf (← response.items) else return []

def readEntry (entry : Value) : Except Value.Fault (Value × Int) := do
  let some dn ← entry.member? "dn" | throw (.missingKey "dn")
  let attributes := (← entry.member? "attributes").getD (.map [])
  let control := (← attributes.member? "userAccountControl").getD .null
  return (dn, ← readFlags control)

/-! ### Operations -/

namespace Config

def refuse (config : Config) (code : Int) (message : String) : Answer :=
  ⟨code, Answer.clip config.messageLimit message⟩

/-- The account of a principal: its first component, if it has no other one or just the base
instance. -/
def account? (config : Config) (principal : Principal) : Option String :=
  match principal.components with
  | [name] => some name
  | [name, second] =>
    if second ≠ "" ∧ config.baseInstance = some second then some name else none
  | _ => none

def unmapped (config : Config) (principal : Principal) : Answer :=
  config.refuse unwillingToPerform
    ("principal " ++ principal.text ++ " does not map to an AD account")

def lastAnswer (config : Config) : Act Connection Answer := do
  let result := (← get).peer.result
  let code ← readable (resultCode result)
  if code = 0 then return .success
  return config.refuse code (← readable (describe result))

/-- The name and the flags of an account, or the answer that says why there are none. -/
def findUser (config : Config) (account : String) :
    Act Connection (Except Answer (Value × Int)) := do
  match ← call (.search config.baseDn (userFilter account)) with
  | .error text => return .error (config.refuse transportError text)
  | .ok _ =>
    let peer := (← get).peer
    let code ← readable (resultCode peer.result)
    if code ≠ 0 then return .error (config.refuse code (← readable (describe peer.result)))
    match ← readable (responseEntries peer.response) with
    | [] =>
      return .error (config.refuse noSuchObject
        ("no AD account " ++ account ++ " under " ++ config.baseDn))
    | entry :: _ => return .ok (← readable (readEntry entry))

def apply (config : Config) (op : Operation) : Act Connection Answer := do
  match ← call op with
  | .error text => return config.refuse transportError text
  | .ok _ => config.lastAnswer

def changePassword (config : Config) (principal : Principal) (password : String) :
    Act Connection Answer := do
  match config.account? principal with
  | none => return config.unmapped principal
  | some account =>
    match ← config.findUser account with
    | .error answer => return answer
    | .ok (dn, _) => config.apply (.modifyPassword dn password)

def changeStatus (config : Config) (principal : Principal) (enabled : Bool) :
    Act Connection Answer := do
  match config.account? principal with
  | none => return config.unmapped principal
  | some account =>
    match ← config.findUser account with
    | .error answer => return answer
    | .ok (dn, flags) =>
      let wanted := setDisabled (!enabled) flags
      if wanted = flags then
        Act.emit (.statusUnchanged account enabled)
        return .success
      let numeral ← readable (Value.writeInteger wanted)
      config.apply (.modify dn [numeral])

def perform (config : Config) (request : Request) : Act Connection Answer :=
  match request.action with
  | .password secret => config.changePassword request.principal secret.text
  | .enable => config.changeStatus request.principal true
  | .disable => config.changeStatus request.principal false

end Config

/-- An error of the directory while it is left is only logged. -/
def close : Act Connection Unit := do
  match ← call .unbind with
  | .ok _ => return ()
  | .error text => Act.emit (.unbindFailed text)

def backend (config : Config) : Backend Connection := ⟨config.perform, close⟩

/-- Binds to the endpoint; the backend exists only if the server accepts. -/
def connect (endpoint : Endpoint) (config : Config) : Act Connection (Backend Connection) := do
  modify fun site =>
    { site with peer := { site.peer with endpoints := site.peer.endpoints ++ [endpoint] } }
  match ← call .bind with
  | .error text =>
    Act.fail (.backendInit ("cannot connect to AD at " ++ endpoint.host ++ ": " ++ text))
  | .ok bound =>
    if bound.isTruthy then
      Act.emit (.backendBound endpoint.host config.baseDn)
      return backend config
    let why ← readable (describe (← get).peer.result)
    Act.fail (.backendInit ("cannot bind to AD at " ++ endpoint.host ++ ": " ++ why))

end AccountSync.Directory
