import AccountSync.Action
import AccountSync.Drain.Stage
import AccountSync.Files.OsError
import AccountSync.Principal
import AccountSync.Queue.Line
import AccountSync.Text.Utf8
import AccountSync.Value

/-!
# Failures and defects

A `Failure` is what the tool reports: it ends the run with a diagnostic. A `Defect` is a breach of
what a caller or a collaborator promises; nothing catches it. Both are causes, with their wording in
one place.
-/

namespace AccountSync

/-- What is wrong with a complete line of a queue file. -/
inductive LineProblem where
  | encoding (fault : Utf8.Fault)
  | emptyPassword
  deriving DecidableEq, Repr

def LineProblem.message : LineProblem → String
  | .encoding fault => "unsupported encoding, expected UTF-8 (" ++ fault.message ++ ")"
  | .emptyPassword => "empty password"

inductive Failure where
  | cannotOpen (file : String) (why : OsError)
  | cannotRead (file : String) (why : Queue.ReadError)
  | lineTooLong (file : String) (limit : Nat)
  | fileEnded (file : String) (line : Nat)
  | invalidLine (file : String) (line : Nat) (why : LineProblem)
  | unknownTarget (file : String) (token : String)
  | unknownAction (file : String) (token : String)
  | cannotUnlink (file : String) (why : OsError)
  | badPrincipal (text : String) (why : Principal.Fault)
  | backendInit (message : String)
  | backendRefused (operation : String) (target : String) (code : Int) (message : String)
  deriving DecidableEq, Repr

namespace Failure

/-- The code of a refusal is written whole, since no answer has one of more than `Text.maxDigits`
digits. -/
def message : Failure → String
  | .cannotOpen file why => "cannot open queue file " ++ file ++ ": " ++ why.message
  | .cannotRead file why => "cannot read from queue file " ++ file ++ ": " ++ why.reason
  | .lineTooLong file _ => "line too long in queue file " ++ file
  | .fileEnded file line =>
    "cannot read line " ++ toString line ++ " from queue file " ++ file ++
      ": unexpected end of file"
  | .invalidLine file line why =>
    "invalid line " ++ toString line ++ " in queue file " ++ file ++ ": " ++ why.message
  | .unknownTarget file token => "unknown target system " ++ token ++ " in queue file " ++ file
  | .unknownAction file token => "unknown action " ++ token ++ " in queue file " ++ file
  | .cannotUnlink file why => "unable to unlink queue file " ++ file ++ ": " ++ why.message
  | .badPrincipal text why => "cannot parse user " ++ text ++ " into principal: " ++ why.message
  | .backendInit message => message
  | .backendRefused operation target code message =>
    "AD " ++ operation ++ " change for " ++ target ++ " failed (" ++ toString code ++ "): " ++
      message

def kind : Failure → String
  | .cannotOpen .. => "CannotOpenQueueFile"
  | .cannotRead .. => "CannotReadQueueFile"
  | .lineTooLong .. => "LineTooLong"
  | .fileEnded .. => "TruncatedQueueFile"
  | .invalidLine .. => "InvalidQueueLine"
  | .unknownTarget .. => "UnknownTargetSystem"
  | .unknownAction .. => "UnknownAction"
  | .cannotUnlink .. => "CannotUnlinkQueueFile"
  | .badPrincipal .. => "PrincipalParseError"
  | .backendInit .. => "BackendInitError"
  | .backendRefused .. => "BackendError"

end Failure

inductive Defect where
  | emptyPassword
  | lineLimitTooSmall
  | lineLimitTooLarge
  | nulInPath
  | notAnAction (value : Value)
  | invalidTransition (previous : Option Stage) (next : Stage)
  | unknownStage (name : String)
  | noComponents
  | unreadableReply (fault : Value.Fault)
  | raised (message : String)
  | fileEffect (why : OsError) (paths : List String)
  | unknownLevel (setting : String)
  | levelNotText (setting : String)

namespace Defect

def message : Defect → String
  | .emptyPassword => "password must not be empty"
  | .lineLimitTooSmall => "line limit must leave room for content and terminator"
  | .lineLimitTooLarge => "cannot fit 'int' into an index-sized integer"
  | .nulInPath => "embedded null byte"
  | .notAnAction value => "unsupported action " ++ value.display
  | .invalidTransition previous next =>
    "invalid drain transition " ++ Stage.describe previous ++ " -> " ++ next.name
  | .unknownStage name => Text.quoted name ++ " is not a valid DrainState"
  | .noComponents => "tuple index out of range"
  | .unreadableReply fault => fault.message
  | .raised message => message
  | .fileEffect why paths => OsError.report why.number why.message paths
  | .unknownLevel setting => "Unknown level: " ++ Text.quoted setting
  | .levelNotText setting => "Level not an integer or a valid string: " ++ setting

end Defect

inductive Fault where
  | failure (f : Failure)
  | defect (d : Defect)

end AccountSync
