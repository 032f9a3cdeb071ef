/-!
# Environments

The variables that a program is started with. Settings are looked up without regard to case.
-/

namespace AccountSync

structure Environment where
  bindings : List (String × String)

namespace Environment

/-- The one letter outside ASCII whose small form is an ASCII letter. -/
def kelvinSign : Nat := 0x212A

def lowerChar (c : Char) : Char := if c.toNat = kelvinSign then 'k' else c.toLower

def lower (name : String) : String := .ofList (name.toList.map lowerChar)

def get? (env : Environment) (name : String) : Option String := env.bindings.lookup name

def settingPrefix : String := "krb5_sync_"

/-- The value of a setting. Of two variables whose names differ in case only, the later counts. -/
def setting? (env : Environment) (field : String) : Option String :=
  (env.bindings.reverse.find? fun v => lower v.1 = settingPrefix ++ field).map (·.2)

/-- Whether options must come before all other words. -/
def optionsFirst (env : Environment) : Bool :=
  match env.get? "POSIXLY_CORRECT" with
  | some value => value ≠ ""
  | none => false

end Environment

end AccountSync
