/-!
# Actions

What a request asks for: a new password, or an account turned on or off. A password is never empty;
the type carries the proof.
-/

namespace AccountSync

structure Password where
  text : String
  nonempty : text ≠ ""
  deriving DecidableEq

namespace Password

def ofText? (text : String) : Option Password :=
  if h : text = "" then none else some ⟨text, h⟩

end Password

inductive Action where
  | password (secret : Password)
  | enable
  | disable
  deriving DecidableEq

namespace Action

def ofEnabled (enabled : Bool) : Action := if enabled then .enable else .disable

def operation : Action → String
  | .password _ => "password"
  | .enable => "status"
  | .disable => "status"

/-- The word for the action in a queue file. -/
def token : Action → String
  | .password _ => "password"
  | .enable => "enable"
  | .disable => "disable"

/-- The action as it may be shown: without its secret. -/
def display : Action → String
  | .password _ => "PasswordChange()"
  | .enable => "Enable()"
  | .disable => "Disable()"

end Action

end AccountSync
