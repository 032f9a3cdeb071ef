import AccountSync.Log.Record
import AccountSync.Text.Quoted

/-!
# Log lines in JSON

A line is one object whose members all have texts, truth values or null. It is ASCII: every other
character is escaped, those past U+FFFF as two surrogates.
-/

namespace AccountSync.Log

def escapeUnit (n : Nat) : List Char := '\\' :: 'u' :: Text.hex 4 n

def escapeJsonChar (c : Char) : List Char :=
  let n := c.toNat
  if c = '"' then ['\\', '"']
  else if c = '\\' then ['\\', '\\']
  else if c = '\n' then ['\\', 'n']
  else if c = '\r' then ['\\', 'r']
  else if c = '\t' then ['\\', 't']
  else if n = 8 then ['\\', 'b']
  else if n = 12 then ['\\', 'f']
  else if 0x20 ≤ n && n < 0x7F then [c]
  else if n < 0x10000 then escapeUnit n
  else escapeUnit (0xD800 + (n - 0x10000) / 1024) ++ escapeUnit (0xDC00 + (n - 0x10000) % 1024)

def jsonText (text : String) : String :=
  "\"" ++ .ofList (text.toList.flatMap escapeJsonChar) ++ "\""

def Field.json : Field → String
  | .text s => jsonText s
  | .flag b => if b then "true" else "false"
  | .missing => "null"

namespace Record

/-- The members that come before the time, in the order in which a record gathers them. -/
def unstamped (r : Record) : List (String × Field) :=
  r.event.fields ++ [("event", .text r.event.name)] ++ r.mark ++
    [("level", .text r.level.name), ("logger", .text r.event.logger)]

/-- All members of a record's object but its time. -/
def members (program : String) (r : Record) : List (String × Field) :=
  r.unstamped ++ [("program", .text program)]

def jsonLine (time program : String) (r : Record) : String :=
  let members := r.unstamped ++ [("timestamp", .text time), ("program", .text program)]
  "\x7b" ++ ", ".intercalate (members.map fun (key, field) => jsonText key ++ ": " ++ field.json)
    ++ "\x7d"

end Record

end AccountSync.Log
