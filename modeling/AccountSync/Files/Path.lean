import AccountSync.Text.Utf8

/-!
# Paths

A path is a list of names, from the root or from the working directory. Repeated and trailing
slashes and the name `.` mean nothing; `..` is kept, because links may stand before it.
-/

namespace AccountSync

structure Path where
  absolute : Bool
  names : List String
  deriving DecidableEq, Repr

namespace Path

def splitSlash : List Char → List (List Char)
  | [] => [[]]
  | c :: rest =>
    if c = '/' then [] :: splitSlash rest
    else match splitSlash rest with
      | first :: others => (c :: first) :: others
      | [] => [[c]]

def isName (name : List Char) : Bool := name ≠ [] && name ≠ ['.']

def ofText (text : String) : Path where
  absolute := text.toList.head? = some '/'
  names := ((splitSlash text.toList).filter isName).map String.ofList

/-- The path that a link stands for. Here the name `.` stays, and a trailing slash leaves an empty
name: what comes before it must be a folder. -/
def ofLinkTarget (target : String) : Path :=
  let chars := target.toList
  let names := ((splitSlash chars).filter (· ≠ [])).map String.ofList
  { absolute := chars.head? = some '/'
    names := if chars.getLast? = some '/' then names ++ [""] else names }

/-- The written form; the empty path is written as a dot. -/
def text (p : Path) : String :=
  let names := "/".intercalate p.names
  if p.absolute then "/" ++ names else if names = "" then "." else names

end Path

end AccountSync
