import AccountSync.Action

/-!
# The command line

Options are clusters of the letters `d`, `e`, `f` and `p` after one dash; `f` and `p` take the rest
of their cluster as argument, or else the whole next word. A word `--` ends the options. `parse`
turns the words into a command.
-/

namespace AccountSync

inductive Command where
  | immediate (user : String) (actions : List Action)
  | drain (file : String)
  deriving DecidableEq

namespace CommandLine

inductive Valued where
  | file
  | password
  deriving DecidableEq, Repr

def Valued.letter : Valued → Char
  | .file => 'f'
  | .password => 'p'

inductive Flag where
  | disable
  | enable
  | valued (option : Valued) (argument : String)
  deriving DecidableEq, Repr

inductive Fault where
  | unknownLetter (letter : Char)
  | unknownName (name : String)
  | missingArgument (option : Valued)
  | notOneUser
  | userWithFile
  | enableAndDisable
  | noAction
  | fileAndAction
  | emptyPassword
  deriving DecidableEq, Repr

namespace Fault

def message : Fault → String
  | .unknownLetter letter => "option -" ++ String.ofList [letter] ++ " not recognized"
  | .unknownName name => "option --" ++ name ++ " not recognized"
  | .missingArgument option => "option -" ++ String.ofList [option.letter] ++ " requires argument"
  | .notOneUser => "exactly one user is required"
  | .userWithFile => "no user may be given with -f"
  | .enableAndDisable => "cannot specify both -d and -e"
  | .noAction => "no action specified"
  | .fileAndAction => "must specify queue file or action, not both"
  | .emptyPassword => "password must not be empty"

/-- The usage to be shown in place of the message, where there is one. -/
def usage? (program : String) : Fault → Option String
  | .unknownLetter _ => some (actionUsage program)
  | .unknownName _ => some (actionUsage program)
  | .missingArgument _ => some (actionUsage program)
  | .notOneUser => some (actionUsage program)
  | .userWithFile => some ("Usage: " ++ program ++ " -f <file>")
  | _ => none
where
  actionUsage (program : String) : String := "Usage: " ++ program ++ " [-d | -e] [-p <pass>] <user>"

def report (program : String) (fault : Fault) : String :=
  match fault.usage? program with
  | some usage => usage
  | none => program ++ ": " ++ fault.message

end Fault

/-! ### Words -/

/-- The options of a cluster, and the one at its end that still needs an argument. -/
structure Cluster where
  flags : List Flag
  pending : Option Valued
  deriving DecidableEq, Repr

def Cluster.cons (flag : Flag) (c : Cluster) : Cluster := { c with flags := flag :: c.flags }

def valuedCluster (option : Valued) (rest : List Char) : Cluster :=
  if rest = [] then ⟨[], some option⟩ else ⟨[.valued option (.ofList rest)], none⟩

def readCluster : List Char → Except Fault Cluster
  | [] => .ok ⟨[], none⟩
  | 'd' :: rest => (readCluster rest).map (Cluster.cons .disable)
  | 'e' :: rest => (readCluster rest).map (Cluster.cons .enable)
  | 'f' :: rest => .ok (valuedCluster .file rest)
  | 'p' :: rest => .ok (valuedCluster .password rest)
  | letter :: _ => .error (.unknownLetter letter)

inductive Word where
  | separator
  | name (text : String)
  | cluster (letters : List Char)
  | positional

/-- What a word is, by its dashes. A name ends at its first `=`. -/
def Word.of (word : String) : Word :=
  match word.toList with
  | ['-', '-'] => .separator
  | '-' :: '-' :: rest => .name (.ofList (rest.takeWhile (· ≠ '=')))
  | ['-'] => .positional
  | '-' :: letters => .cluster letters
  | _ => .positional

structure Reading where
  flags : List Flag
  users : List String
  deriving DecidableEq, Repr

namespace Reading

def addFlags (flags : List Flag) (r : Reading) : Reading := { r with flags := flags ++ r.flags }

def addUser (user : String) (r : Reading) : Reading := { r with users := user :: r.users }

def argument? (option : Valued) (r : Reading) : Option String :=
  r.flags.reverse.findSome? fun
    | .valued o argument => if o = option then some argument else none
    | _ => none

end Reading

/-- With `optionsFirst`, the first word that is no option ends the options too. -/
def readWords (optionsFirst : Bool) : List String → Except Fault Reading
  | [] => .ok ⟨[], []⟩
  | word :: rest =>
    match Word.of word with
    | .separator => .ok ⟨[], rest⟩
    | .name text => .error (.unknownName text)
    | .positional =>
      if optionsFirst then .ok ⟨[], word :: rest⟩
      else (readWords optionsFirst rest).map (Reading.addUser word)
    | .cluster letters =>
      match readCluster letters, rest with
      | .error fault, _ => .error fault
      | .ok ⟨flags, none⟩, rest => (readWords optionsFirst rest).map (Reading.addFlags flags)
      | .ok ⟨_, some option⟩, [] => .error (.missingArgument option)
      | .ok ⟨flags, some option⟩, argument :: rest =>
        (readWords optionsFirst rest).map (Reading.addFlags (flags ++ [.valued option argument]))

/-! ### Commands -/

def passwordActions : Option String → Except Fault (List Action)
  | none => .ok []
  | some text =>
    match Password.ofText? text with
    | some secret => .ok [.password secret]
    | none => .error .emptyPassword

def statusActions (enable disable : Bool) : List Action :=
  if enable || disable then [.ofEnabled enable] else []

/-- A password comes before a status. -/
def immediateCommand (user : String) (password : Option String) (enable disable : Bool) :
    Except Fault Command := do
  let secret ← passwordActions password
  return .immediate user (secret ++ statusActions enable disable)

def command (r : Reading) : Except Fault Command :=
  let password := r.argument? .password
  let enable := Flag.enable ∈ r.flags
  let disable := Flag.disable ∈ r.flags
  match r.argument? .file, r.users with
  | some _, _ :: _ => .error .userWithFile
  | some file, [] =>
    if enable && disable then .error .enableAndDisable
    else if enable || disable || password.isSome then .error .fileAndAction
    else .ok (.drain file)
  | none, [user] =>
    if enable && disable then .error .enableAndDisable
    else if !enable && !disable && password.isNone then .error .noAction
    else immediateCommand user password enable disable
  | none, _ => .error .notOneUser

def parse (optionsFirst : Bool) (words : List String) : Except Fault Command := do
  command (← readWords optionsFirst words)

end CommandLine

end AccountSync
