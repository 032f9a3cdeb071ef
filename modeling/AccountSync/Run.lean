import AccountSync.CommandLine
import AccountSync.Drain.Basic
import AccountSync.Log.Console
import AccountSync.Log.Json
import AccountSync.Log.Threshold
import AccountSync.Settings

/-!
# A run of the tool

A run reads the settings and the command line, makes a backend, carries out the command and closes
the backend, whatever happened. Failures become a record, a line for the user and exit status 1;
defects escape.
-/

namespace AccountSync

variable {σ : Type}

def route (backend : Backend σ) (realm : Option String) (lineLimit : Int) : Command → Act σ Unit
  | .drain file => discard (Controller.drain ⟨backend, realm, lineLimit⟩ file)
  | .immediate user actions => do
    let principal ← resolve realm user
    actions.forM fun action => dispatch backend realm principal action user

structure Exit where
  status : Nat
  stderr : String
  deriving DecidableEq, Repr

def Exit.success : Exit := ⟨0, ""⟩

def Exit.refusal (line : String) : Exit := ⟨1, line ++ "\n"⟩

/-- Makes the backend and closes it after the command, but only if it was made. -/
def serve (settings : Settings) (factory : Act σ (Backend σ)) (command : Command) :
    Act σ Unit := do
  let backend ← factory
  Act.ensuring (route backend settings.realm settings.queueLineLimit.value command) backend.close

/-- Turns a failure into a record and an exit. -/
def reported (program : String) (x : Act σ Unit) : Act σ Exit := fun site =>
  match x.run site with
  | (.ok _, after) => (.ok .success, after)
  | (.error (.failure f), after) =>
    (do
      Act.emit (.syncFailed f.message f.kind)
      return .refusal (program ++ ": " ++ f.message) : Act σ Exit).run after
  | (.error (.defect d), after) => (.error (.defect d), after)

/-- A run with settings that have been read. -/
def runWith (settings : Settings) (optionsFirst : Bool) (words : List String)
    (factory : Act σ (Backend σ)) : Act σ Exit := do
  match Log.threshold settings.logLevel with
  | .error defect => Act.breach defect
  | .ok _ =>
    match CommandLine.parse optionsFirst words with
    | .error fault => return .refusal (fault.report settings.programName)
    | .ok command => reported settings.programName (serve settings factory command)

/-! ### What a run writes -/

def Settings.line (s : Settings) (time : String) (r : Log.Record) : String :=
  if s.logJson then r.jsonLine time s.programName else r.consoleLine time s.programName

def Settings.written (s : Settings) (records : List Log.Record) : List Log.Record :=
  match Log.threshold s.logLevel with
  | .ok threshold => Log.written threshold records
  | .error _ => []

/-- The lines of a run's log, each ended by a line feed. -/
def Settings.output (s : Settings) (time : String) (records : List Log.Record) : String :=
  String.join ((s.written records).map fun r => s.line time r ++ "\n")

end AccountSync
