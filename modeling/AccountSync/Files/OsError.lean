import AccountSync.Text.Quoted

/-!
# Errors of the operating system

The ways in which a file operation fails, with their numbers and texts.
-/

namespace AccountSync

inductive OsError where
  | noEntry
  | denied
  | busy
  | exists
  | notDirectory
  | isDirectory
  | invalid
  | nameTooLong
  | notEmpty
  | linkLoop
  deriving DecidableEq, Repr

namespace OsError

def number : OsError → Nat
  | .noEntry => 2
  | .denied => 13
  | .busy => 16
  | .exists => 17
  | .notDirectory => 20
  | .isDirectory => 21
  | .invalid => 22
  | .nameTooLong => 36
  | .notEmpty => 39
  | .linkLoop => 40

def message : OsError → String
  | .noEntry => "No such file or directory"
  | .denied => "Permission denied"
  | .busy => "Device or resource busy"
  | .exists => "File exists"
  | .notDirectory => "Not a directory"
  | .isDirectory => "Is a directory"
  | .invalid => "Invalid argument"
  | .nameTooLong => "File name too long"
  | .notEmpty => "Directory not empty"
  | .linkLoop => "Too many levels of symbolic links"

/-- An error in full: its number, its text and the paths that it is about. -/
def report (number : Int) (text : String) (paths : List String) : String :=
  let about := if paths = [] then "" else ": " ++ " -> ".intercalate (paths.map Text.quoted)
  "[Errno " ++ toString number ++ "] " ++ text ++ about

end OsError

end AccountSync
