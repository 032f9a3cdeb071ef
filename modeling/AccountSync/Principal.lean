/-!
# Principals

A principal is written `name/instance@REALM`. A backslash escapes the character after it, and `\n`,
`\t`, `\b` and `\0` stand for line feed, tab, backspace and NUL. The realm starts after the first
unescaped `@`, and in it `/` is an ordinary character. `parse` reads a principal, `text` writes one.
-/

namespace AccountSync

structure Principal where
  components : List String
  realm : String
  deriving DecidableEq, Repr

namespace Principal

inductive Fault where
  | emptyText
  | secondRealm
  | trailingBackslash
  | noRealm
  | emptyRealm
  | emptyName
  deriving DecidableEq, Repr

def Fault.message : Fault → String
  | .emptyText => "empty principal name"
  | .secondRealm => "more than one realm separator"
  | .trailingBackslash => "trailing backslash"
  | .noRealm => "no realm given and no default realm configured"
  | .emptyRealm => "empty realm"
  | .emptyName => "empty name component"

def name? (p : Principal) : Option String := p.components.head?

def instanceName? (p : Principal) : Option String :=
  match p.components with
  | _ :: first :: rest => some ("/".intercalate (first :: rest))
  | _ => none

/-! ### Escapes -/

def unescape : Char → Char
  | 'n' => '\n'
  | 't' => '\t'
  | 'b' => '\x08'
  | '0' => '\x00'
  | c => c

/-- The letter that stands for `c` after a backslash, for the characters that are never written as
themselves. -/
def symbol? : Char → Option Char
  | '\n' => some 'n'
  | '\t' => some 't'
  | '\x08' => some 'b'
  | '\x00' => some '0'
  | _ => none

def quoteChar (specials : List Char) (c : Char) : List Char :=
  match symbol? c with
  | some letter => ['\\', letter]
  | none => if c ∈ specials then ['\\', c] else [c]

def quote (specials : List Char) (text : List Char) : List Char := text.flatMap (quoteChar specials)

def componentSpecials : List Char := ['/', '@', '\\']

def realmSpecials : List Char := ['@', '\\']

def quoteComponent (component : String) : String :=
  .ofList (quote componentSpecials component.toList)

def quoteRealm (realm : String) : String := .ofList (quote realmSpecials realm.toList)

def text (p : Principal) : String :=
  "/".intercalate (p.components.map quoteComponent) ++ "@" ++ quoteRealm p.realm

/-! ### Reading -/

/-- A text cut at its separators: the first component, the others, and the realm if it has one. -/
structure Pieces where
  first : List Char
  others : List (List Char)
  realm : Option (List Char)
  deriving DecidableEq, Repr

def Pieces.push (c : Char) (p : Pieces) : Pieces := { p with first := c :: p.first }

def Pieces.cut (p : Pieces) : Pieces := { p with first := [], others := p.first :: p.others }

def readRealm : List Char → Except Fault (List Char)
  | [] => .ok []
  | ['\\'] => .error .trailingBackslash
  | '\\' :: c :: rest => (readRealm rest).map (unescape c :: ·)
  | '@' :: _ => .error .secondRealm
  | c :: rest => (readRealm rest).map (c :: ·)

def readPieces : List Char → Except Fault Pieces
  | [] => .ok ⟨[], [], none⟩
  | ['\\'] => .error .trailingBackslash
  | '\\' :: c :: rest => (readPieces rest).map (Pieces.push (unescape c))
  | '@' :: rest => (readRealm rest).map (⟨[], [], some ·⟩)
  | '/' :: rest => (readPieces rest).map Pieces.cut
  | c :: rest => (readPieces rest).map (Pieces.push c)

/-- A realm that is configured as empty counts as none. -/
def chooseRealm (defaultRealm : Option String) : Option (List Char) → Except Fault String
  | some [] => .error .emptyRealm
  | some realm => .ok (.ofList realm)
  | none =>
    match defaultRealm with
    | none => .error .noRealm
    | some realm => if realm = "" then .error .noRealm else .ok realm

def parse (defaultRealm : Option String) (text : String) : Except Fault Principal := do
  if text = "" then throw .emptyText
  let pieces ← readPieces text.toList
  let realm ← chooseRealm defaultRealm pieces.realm
  if pieces.first = [] then throw .emptyName
  return ⟨(pieces.first :: pieces.others).map String.ofList, realm⟩

end Principal

end AccountSync
