import AccountSync.Drain.Stage

/-!
# Log records

A record is an event with the queue file that was being drained when it happened. Level, logger and
fields follow from the event.
-/

namespace AccountSync.Log

inductive Level where
  | debug
  | info
  | warning
  | error
  deriving DecidableEq, Repr

namespace Level

def name : Level → String
  | .debug => "debug"
  | .info => "info"
  | .warning => "warning"
  | .error => "error"

def number : Level → Nat
  | .debug => 10
  | .info => 20
  | .warning => 30
  | .error => 40

/-- The facility that the system log keeps for security messages. -/
def securityFacility : Nat := 32

/-- The priority of a record in the system log: the facility, plus a severity that falls as records
grow more severe. -/
def priority (level : Level) : Nat :=
  securityFacility +
    match level with
    | .debug => 7
    | .info => 6
    | .warning => 4
    | .error => 3

end Level

inductive Event where
  | drainStage (previous : Option Stage) (next : Stage)
  | passwordChanged (user : String)
  | statusChanged (user : String) (enabled : Bool)
  | backendBound (host : String) (base : String)
  | statusUnchanged (account : String) (enabled : Bool)
  | unbindFailed (error : String)
  | syncFailed (error : String) (kind : String)
  /-- An event of another program part, with nothing but a name. -/
  | notice (logger : String) (name : String)
  deriving DecidableEq, Repr

inductive Field where
  | text (s : String)
  | flag (b : Bool)
  | missing
  deriving DecidableEq, Repr

namespace Event

def name : Event → String
  | .drainStage .. => "queue_drain_state"
  | .passwordChanged _ => "ad_password_change_succeeded"
  | .statusChanged .. => "ad_status_change_succeeded"
  | .backendBound .. => "ad_backend_bound"
  | .statusUnchanged .. => "ad_status_unchanged"
  | .unbindFailed _ => "ad_unbind_failed"
  | .syncFailed .. => "sync_failed"
  | .notice _ name => name

def level : Event → Level
  | .drainStage .. => .debug
  | .passwordChanged _ => .info
  | .statusChanged .. => .info
  | .backendBound .. => .debug
  | .statusUnchanged .. => .debug
  | .unbindFailed _ => .warning
  | .syncFailed .. => .error
  | .notice .. => .info

def logger : Event → String
  | .drainStage .. => "krb5_sync.drain"
  | .passwordChanged _ => "krb5_sync.dispatcher"
  | .statusChanged .. => "krb5_sync.dispatcher"
  | .backendBound .. => "krb5_sync.backends.ad"
  | .statusUnchanged .. => "krb5_sync.backends.ad"
  | .unbindFailed _ => "krb5_sync.backends.ad"
  | .syncFailed .. => "krb5_sync.cli"
  | .notice logger _ => logger

def stageField : Option Stage → Field
  | some stage => .text stage.name
  | none => .missing

def fields : Event → List (String × Field)
  | .drainStage previous next =>
    [("previous", stageField previous), ("state", .text next.name)]
  | .passwordChanged user => [("user", .text user)]
  | .statusChanged user enabled => [("user", .text user), ("enabled", .flag enabled)]
  | .backendBound host base => [("host", .text host), ("base", .text base)]
  | .statusUnchanged account enabled => [("account", .text account), ("enabled", .flag enabled)]
  | .unbindFailed error => [("error", .text error)]
  | .syncFailed error kind => [("error", .text error), ("kind", .text kind)]
  | .notice .. => []

end Event

structure Record where
  event : Event
  queueFile : Option String
  deriving DecidableEq, Repr

namespace Record

def level (r : Record) : Level := r.event.level

/-- The field of the queue file that was being drained, if there was one. -/
def mark (r : Record) : List (String × Field) :=
  match r.queueFile with
  | some file => [("queue_file", .text file)]
  | none => []

def fields (program : String) (r : Record) : List (String × Field) :=
  r.event.fields ++ r.mark ++ [("program", .text program)]

end Record

end AccountSync.Log
