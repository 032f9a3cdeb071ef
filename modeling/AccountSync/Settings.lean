import AccountSync.Directory.Backend
import AccountSync.Environment
import AccountSync.Settings.Numeral

/-!
# Settings

Every setting has a default and may be given by a variable or outright. `Settings.read` checks all
of them and reports every problem, in the order of the fields.
-/

namespace AccountSync

/-- An integer above a bound. -/
structure Above (bound : Int) where
  value : Int
  bound_lt_value : bound < value
  deriving DecidableEq

structure Settings where
  programName : String
  logLevel : String
  logJson : Bool
  syslog : Bool
  syslogAddress : String
  queueLineLimit : Above 1
  messageLimit : Above 0
  defaultRealm : Option String
  ldapHost : String
  ldapPort : Int
  useSsl : Bool
  ldapBase : String
  bindDn : Option String
  bindPassword : Option String
  baseInstance : Option String
  timeout : Int
  deriving DecidableEq

namespace Settings

inductive Complaint where
  | notFlag
  | notInteger
  | tooManyDigits
  | notAbove (bound : Int)
  | needsFlag
  | needsInteger
  | needsText
  | unknown
  deriving DecidableEq, Repr

def Complaint.kind : Complaint → String
  | .notFlag => "bool_parsing"
  | .notInteger => "int_parsing"
  | .tooManyDigits => "int_parsing_size"
  | .notAbove _ => "greater_than"
  | .needsFlag => "bool_type"
  | .needsInteger => "int_type"
  | .needsText => "string_type"
  | .unknown => "extra_forbidden"

def Complaint.message : Complaint → String
  | .notFlag => "Input should be a valid boolean, unable to interpret input"
  | .notInteger => "Input should be a valid integer, unable to parse string as an integer"
  | .tooManyDigits => "Unable to parse input string as an integer, exceeded maximum size"
  | .notAbove bound => "Input should be greater than " ++ toString bound
  | .needsFlag => "Input should be a valid boolean"
  | .needsInteger => "Input should be a valid integer"
  | .needsText => "Input should be a valid string"
  | .unknown => "Extra inputs are not permitted"

structure Problem where
  field : String
  complaint : Complaint
  deriving DecidableEq, Repr

/-- A value for a setting. Variables hold texts only. -/
inductive Given where
  | text (s : String)
  | integer (n : Int)
  | flag (b : Bool)
  | nothing
  /-- A list or a map, which no setting takes. -/
  | compound
  deriving DecidableEq, Repr

/-! ### Single values -/

def trueWords : List String := ["1", "true", "t", "yes", "y", "on"]

def falseWords : List String := ["0", "false", "f", "no", "n", "off"]

def flagOfText (s : String) : Except Complaint Bool :=
  let word := String.ofList (s.toList.map Char.toLower)
  if word ∈ trueWords then .ok true
  else if word ∈ falseWords then .ok false
  else .error .notFlag

/-- Integers of 64 bits are looked at as flags, larger ones are of the wrong kind. -/
def flagOfInteger (n : Int) : Except Complaint Bool :=
  if n = 1 then .ok true
  else if n = 0 then .ok false
  else if n < -(Nat.pow 2 63 : Nat) ∨ (Nat.pow 2 63 : Nat) ≤ n then .error .needsFlag
  else .error .notFlag

def readFlag : Given → Except Complaint Bool
  | .text s => flagOfText s
  | .integer n => flagOfInteger n
  | .flag b => .ok b
  | .nothing => .error .needsFlag
  | .compound => .error .needsFlag

def integerOfText (s : String) : Except Complaint Int :=
  match Numeral.read s with
  | .ok n => .ok n
  | .error .malformed => .error .notInteger
  | .error (.tooLong _) => .error .tooManyDigits

def readInteger : Given → Except Complaint Int
  | .text s => integerOfText s
  | .integer n => .ok n
  | .flag b => .ok (if b then 1 else 0)
  | .nothing => .error .needsInteger
  | .compound => .error .needsInteger

def readAbove (bound : Int) (given : Given) : Except Complaint (Above bound) := do
  let n ← readInteger given
  if h : bound < n then return ⟨n, h⟩ else throw (.notAbove bound)

def readText : Given → Except Complaint String
  | .text s => .ok s
  | _ => .error .needsText

def readOptional : Given → Except Complaint (Option String)
  | .nothing => .ok none
  | given => (readText given).map some

/-! ### All values -/

def fieldNames : List String :=
  ["program_name", "log_level", "log_json", "syslog", "syslog_address", "queue_line_limit",
    "message_limit", "default_realm", "ad_ldap_host", "ad_ldap_port", "ad_use_ssl", "ad_ldap_base",
    "ad_bind_dn", "ad_bind_password", "ad_base_instance", "ad_timeout"]

/-- The values given for settings: outright, or else by variables. Their names are taken without
regard to case. -/
structure Inputs where
  outright : List (String × Given)
  env : Environment

/-- Of two names given outright that differ in case only, the earlier counts. -/
def Inputs.get? (inputs : Inputs) (field : String) : Option Given :=
  match inputs.outright.find? fun given => Environment.lower given.1 = field with
  | some given => some given.2
  | none => (inputs.env.setting? field).map .text

def field {α : Type} (inputs : Inputs) (name : String) (read : Given → Except Complaint α)
    (default : α) : Except (List Problem) α :=
  match inputs.get? name with
  | none => .ok default
  | some given => (read given).mapError fun complaint => [⟨name, complaint⟩]

/-- Applies a function to a checked value and keeps the problems of both. -/
def supply {α β : Type} (value : Except (List Problem) α) :
    Except (List Problem) (α → β) → Except (List Problem) β
  | .ok f => value.map f
  | .error problems =>
    match value with
    | .ok _ => .error problems
    | .error more => .error (problems ++ more)

def unknownNames (inputs : Inputs) : List Problem :=
  (inputs.outright.filter fun given => Environment.lower given.1 ∉ fieldNames).map fun given =>
    ⟨given.1, .unknown⟩

def readFields (inputs : Inputs) : Except (List Problem) Settings :=
  .ok Settings.mk
    |> supply (field inputs "program_name" readText "krb5-sync")
    |> supply (field inputs "log_level" readText "INFO")
    |> supply (field inputs "log_json" readFlag false)
    |> supply (field inputs "syslog" readFlag false)
    |> supply (field inputs "syslog_address" readText "/dev/log")
    |> supply (field inputs "queue_line_limit" (readAbove 1) ⟨8192, by decide⟩)
    |> supply (field inputs "message_limit" (readAbove 0) ⟨8192, by decide⟩)
    |> supply (field inputs "default_realm" readOptional none)
    |> supply (field inputs "ad_ldap_host" readText "localhost")
    |> supply (field inputs "ad_ldap_port" readInteger 636)
    |> supply (field inputs "ad_use_ssl" readFlag true)
    |> supply (field inputs "ad_ldap_base" readText "")
    |> supply (field inputs "ad_bind_dn" readOptional none)
    |> supply (field inputs "ad_bind_password" readOptional none)
    |> supply (field inputs "ad_base_instance" readOptional none)
    |> supply (field inputs "ad_timeout" readInteger 30)

def read (inputs : Inputs) : Except (List Problem) Settings :=
  match unknownNames inputs with
  | [] => readFields inputs
  | unknown =>
    match readFields inputs with
    | .ok _ => .error unknown
    | .error problems => .error (problems ++ unknown)

/-! ### What follows from settings -/

/-- The realm that names default to; an empty one is none. -/
def realm (s : Settings) : Option String := s.defaultRealm.filter (· ≠ "")

/-- The server and the credentials: those of the bind name, unless it is missing or empty. -/
def endpoint (s : Settings) : Directory.Endpoint where
  host := s.ldapHost
  port := s.ldapPort
  useSsl := s.useSsl
  timeout := s.timeout
  credentials :=
    match s.bindDn with
    | some dn => if dn = "" then .kerberos else .simple dn s.bindPassword
    | none => .kerberos

def directory (s : Settings) : Directory.Config where
  baseDn := s.ldapBase
  baseInstance := s.baseInstance
  messageLimit := s.messageLimit.value

/-- Where records go besides the console, if anywhere. -/
def syslogTarget (s : Settings) : Option String :=
  if s.syslog && s.syslogAddress ≠ "" then some s.syslogAddress else none

def optional : Option String → Value
  | some text => .text text
  | none => .null

def values (s : Settings) : List (String × Value) :=
  [("program_name", .text s.programName), ("log_level", .text s.logLevel),
    ("log_json", .flag s.logJson), ("syslog", .flag s.syslog),
    ("syslog_address", .text s.syslogAddress),
    ("queue_line_limit", .integer s.queueLineLimit.value),
    ("message_limit", .integer s.messageLimit.value), ("default_realm", optional s.defaultRealm),
    ("ad_ldap_host", .text s.ldapHost), ("ad_ldap_port", .integer s.ldapPort),
    ("ad_use_ssl", .flag s.useSsl), ("ad_ldap_base", .text s.ldapBase),
    ("ad_bind_dn", optional s.bindDn), ("ad_bind_password", optional s.bindPassword),
    ("ad_base_instance", optional s.baseInstance), ("ad_timeout", .integer s.timeout)]

/-- The settings as they may be shown: without the password. -/
def display (s : Settings) : String :=
  let shown := s.values.filter fun value => value.1 ≠ "ad_bind_password"
  "Settings(" ++ ", ".intercalate (shown.map fun (name, value) => name ++ "=" ++ value.display)
    ++ ")"

end Settings

end AccountSync
