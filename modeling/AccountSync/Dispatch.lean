import AccountSync.Backend

/-!
# Dispatch

Sends an action to the backend, logs its success, and fails with the backend's own status and
message otherwise.
-/

namespace AccountSync

variable {σ : Type}

def Action.notice (name : String) : Action → Log.Event
  | .password _ => .passwordChanged name
  | .enable => .statusChanged name true
  | .disable => .statusChanged name false

/-- `name` is the principal as its user wrote it. -/
def dispatch (backend : Backend σ) (realm : Option String) (principal : Principal)
    (action : Action) (name : String) : Act σ Unit := do
  let answer ← backend.perform ⟨realm, principal, action⟩
  if answer.isOk then Act.emit (action.notice name)
  else Act.fail (.backendRefused action.operation name answer.status answer.message)

/-- An action that a caller hands over unchecked. -/
inductive Order where
  | password (text : String)
  | status (enabled : Bool)
  | other (value : Value)

namespace Order

/-- A password is checked at once; what is no action goes on and is refused by the dispatch. -/
def check : Order → Except Defect (Except Value Action)
  | .password text =>
    match Password.ofText? text with
    | some secret => .ok (.ok (.password secret))
    | none => .error .emptyPassword
  | .status enabled => .ok (.ok (.ofEnabled enabled))
  | .other value => .ok (.error value)

end Order

def dispatchOrder (backend : Backend σ) (realm : Option String) (principal : Principal)
    (order : Order) (name : String) : Act σ Unit := do
  match order.check with
  | .error defect => Act.breach defect
  | .ok (.error value) => Act.breach (.notAnAction value)
  | .ok (.ok action) => dispatch backend realm principal action name

def resolve (realm : Option String) (text : String) : Act σ Principal :=
  match Principal.parse realm text with
  | .ok principal => pure principal
  | .error why => Act.fail (.badPrincipal text why)

end AccountSync
