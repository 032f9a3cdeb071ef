import AccountSync.Log.Record
import AccountSync.Text.Quoted

/-!
# Log lines for a console

A line holds the time, the level, the event, the logger and the other fields in the order of their
names. A text that could be misread is quoted.
-/

namespace AccountSync.Log

def Field.bare : Field → String
  | .text s => Text.bareOrQuoted s
  | .flag b => if b then "True" else "False"
  | .missing => "None"

def padRight (width : Nat) (text : String) : String :=
  text ++ .ofList (List.replicate (width - text.toList.length) ' ')

def levelWidth : Nat := 9

def eventWidth : Nat := 30

def dropTrailingSpaces (text : String) : String :=
  .ofList (text.toList.reverse.dropWhile (· = ' ')).reverse

namespace Record

def consoleFields (program : String) (r : Record) : List String :=
  ((r.fields program).mergeSort fun a b => a.1 ≤ b.1).map fun (key, field) =>
    key ++ "=" ++ field.bare

def consoleLine (time program : String) (r : Record) : String :=
  dropTrailingSpaces <| " ".intercalate <|
    [time, "[" ++ padRight levelWidth r.level.name ++ "]", padRight eventWidth r.event.name,
      "[" ++ r.event.logger ++ "]"] ++ r.consoleFields program

end Record

end AccountSync.Log
