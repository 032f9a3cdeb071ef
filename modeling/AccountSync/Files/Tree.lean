import AccountSync.Files.OsError
import AccountSync.Files.Path
import AccountSync.Queue.Line

/-!
# A tree of files

`Files` holds the entries below the root by their names, without order. Opening follows symbolic
links; removing and making an entry act on the last name itself. Names that only the system knows,
such as hard links and mounts, are left out.
-/

namespace AccountSync

/-- A `barred` entry is a file that the system refuses to open. -/
inductive Entry where
  | file (source : Queue.Source)
  | barred (why : OsError)
  | folder
  | link (target : String)
  deriving DecidableEq, Repr

structure Files where
  entries : List (List String × Entry)
  /-- The working directory. -/
  here : List String
  /-- When set, the system refuses every removal with this error. -/
  refusal : Option OsError
  deriving DecidableEq, Repr

/-- Where a path leads: to an entry, or to a free name in a folder. -/
structure Place where
  names : List String
  entry : Option Entry
  deriving DecidableEq, Repr

namespace Files

def empty (here : List String) : Files := ⟨[], here, none⟩

def get? (files : Files) (names : List String) : Option Entry :=
  if names = [] then some .folder else files.entries.lookup names

def erase (files : Files) (names : List String) : Files :=
  { files with entries := files.entries.filter (·.1 ≠ names) }

def set (files : Files) (names : List String) (entry : Entry) : Files :=
  { files with entries := (names, entry) :: (files.erase names).entries }

/-! ### Looking up -/

def longestName : Nat := 255

/-- Paths of this many bytes and more are refused before anything is looked up. -/
def pathBound : Nat := 4096

/-- A lookup that crosses more links than this has gone in a circle. -/
def mostLinks : Nat := 40

/-- What a path is looked up for: the entry that it leads to, a file to be made there, or the last
name itself. A link at the end is followed for the first two. -/
inductive Aim where
  | entry
  | creation
  | name
  deriving DecidableEq, Repr

/-- Walks from the folder `dir` along `names`. Links on the way are left to `jump`. No file is made
at a name with a slash after it, whatever is there. -/
def walk (files : Files) (aim : Aim) (jump : Path → List String → List String →
    Except OsError Place) : List String → List String → Except OsError Place
  | dir, [] => .ok ⟨dir, some .folder⟩
  | dir, name :: rest =>
    if name = "" ∨ name = "." then walk files aim jump dir rest
    else if name = ".." then walk files aim jump dir.dropLast rest
    else if aim = .creation ∧ rest = [""] then .error .isDirectory
    else if longestName < Utf8.size name then .error .nameTooLong
    else
      let names := dir ++ [name]
      match files.get? names with
      | none => if rest = [] then .ok ⟨names, none⟩ else .error .noEntry
      | some .folder => walk files aim jump names rest
      | some (.link target) =>
        if rest = [] ∧ aim = .name then .ok ⟨names, some (.link target)⟩
        else jump (.ofLinkTarget target) dir rest
      | some entry => if rest = [] then .ok ⟨names, some entry⟩ else .error .notDirectory

def walkLinks (files : Files) (aim : Aim) : Nat → List String → List String →
    Except OsError Place
  | 0, dir, names => files.walk aim (fun _ _ _ => .error .linkLoop) dir names
  | links + 1, dir, names =>
    files.walk aim
      (fun target dir rest =>
        walkLinks files aim links (if target.absolute then [] else dir) (target.names ++ rest))
      dir names

def locate (files : Files) (aim : Aim) (path : Path) : Except OsError Place :=
  if pathBound ≤ Utf8.size path.text then .error .nameTooLong
  else files.walkLinks aim mostLinks (if path.absolute then [] else files.here) path.names

/-! ### Operations -/

def openSource (files : Files) (path : Path) : Except OsError Queue.Source := do
  match (← files.locate .entry path).entry with
  | none => throw .noEntry
  | some (.file source) => return source
  | some (.barred why) => throw why
  | some .folder => throw .isDirectory
  | some (.link _) => throw .linkLoop

def remove (files : Files) (names : List String) : Except OsError Files :=
  match files.refusal with
  | some why => .error why
  | none => .ok (files.erase names)

def unlink (files : Files) (path : Path) : Except OsError Files := do
  let place ← files.locate .name path
  match place.entry with
  | none => throw .noEntry
  | some .folder => throw .isDirectory
  | some _ => files.remove place.names

def isEmptyFolder (files : Files) (names : List String) : Bool :=
  !files.entries.any fun entry => names.isPrefixOf entry.1 && entry.1 ≠ names

/-- Removes an empty folder by its own name. A link to it is no such name, nor is `.`, `..` or the
root. -/
def removeFolder (files : Files) (path : Path) : Except OsError Files := do
  let place ← files.locate .name path
  match place.entry, path.names.getLast? with
  | none, _ => throw .noEntry
  | some .folder, none => throw (if path.absolute then .busy else .invalid)
  | some .folder, some ".." => throw .notEmpty
  | some .folder, some _ =>
    if files.isEmptyFolder place.names then files.remove place.names else throw .notEmpty
  | some _, _ => throw .notDirectory

def isFolder (files : Files) (path : Path) : Bool :=
  match files.locate .entry path with
  | .ok place => place.entry = some .folder
  | .error _ => false

/-- Removes what is at a path: as a folder if the path leads to one. -/
def delete (files : Files) (path : Path) : Except OsError Files :=
  if files.isFolder path then files.removeFolder path else files.unlink path

/-- What the system asks of the target of a link before it looks at the path. -/
def checkTarget : Entry → Except OsError Unit
  | .link target =>
    if target = "" then .error .noEntry
    else if pathBound ≤ Utf8.size target then .error .nameTooLong
    else .ok ()
  | _ => .ok ()

/-- Writes a file, through links, or makes a folder or a link where nothing is. -/
def put (files : Files) (path : Path) (entry : Entry) : Except OsError Files := do
  checkTarget entry
  let isFile := entry matches .file _
  let place ← files.locate (if isFile then .creation else .name) path
  match place.entry with
  | none => return files.set place.names entry
  | some .folder => throw (if isFile then .isDirectory else .exists)
  | some _ => if isFile then return files.set place.names entry else throw .exists

/-- The entries below the working directory, by their paths from there. -/
def listing (files : Files) : List (String × Entry) :=
  files.entries.filterMap fun (names, entry) =>
    if files.here.isPrefixOf names && names ≠ files.here then
      some ("/".intercalate (names.drop files.here.length), entry)
    else none

end Files

end AccountSync
