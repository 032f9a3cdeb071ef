import AccountSync.Log.Clock
import AccountSync.Run
import Std.Time.DateTime.Timestamp

/-!
# The program

Reads the variables and the words of the command line, runs the tool and writes its log, its
diagnostic and its status. No transport to a directory or to the system log is linked in, so every
bind reports that; a run therefore ends before it opens a file, and no file is read here.
-/

namespace AccountSync

def variableNames : List String :=
  "POSIXLY_CORRECT" ::
    Settings.fieldNames.map fun name => (Environment.settingPrefix ++ name).toUpper

def readEnvironment : IO Environment := do
  let values ← variableNames.filterMapM fun name => do
    return (← IO.getEnv name).map fun value => (name, value)
  return ⟨values⟩

def currentTime : IO String := do
  let now ← Std.Time.Timestamp.now
  return Log.writeTime (now.toNanosecondsSinceUnixEpoch.toInt.toNat / 1000)

/-- A connection that no server answers. -/
def offline : Directory.Connection :=
  { Directory.Connection.start [] with
    bind := [.ldapError "no directory transport is linked in"] }

def runCommand (settings : Settings) (env : Environment) (words : List String) : IO UInt32 := do
  let site := Site.start (.empty []) offline
  let (result, after) :=
    (runWith settings env.optionsFirst words
      (Directory.connect settings.endpoint settings.directory)).run site
  let time ← currentTime
  IO.print (settings.output time after.log)
  match result with
  | .ok exit =>
    IO.eprint exit.stderr
    return UInt32.ofNat exit.status
  | .error (.defect defect) =>
    IO.eprintln defect.message
    return 1
  | .error (.failure failure) =>
    IO.eprintln failure.message
    return 1

end AccountSync

open AccountSync in
def main (words : List String) : IO UInt32 := do
  let env ← readEnvironment
  match Settings.read ⟨[], env⟩ with
  | .ok settings => runCommand settings env words
  | .error problems =>
    for problem in problems do
      IO.eprintln (problem.field ++ ": " ++ problem.complaint.message)
    return 1
