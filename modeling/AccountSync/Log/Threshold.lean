import AccountSync.Failure
import AccountSync.Log.Record

/-!
# Log thresholds

A threshold is set by the name of a level, in any case. A name that is no level counts as `INFO`,
but for two names that stand for something else than a number; those are refused.
-/

namespace AccountSync.Log

/-- The characters outside ASCII whose capital form is ASCII. The forms of the other ligatures occur
in no name that means anything here. -/
def wideCapitals : List (Nat × List Char) :=
  [(0x131, ['I']), (0x17F, ['S']), (0xFB05, ['S', 'T']), (0xFB06, ['S', 'T'])]

def capital (c : Char) : List Char := (wideCapitals.lookup c.toNat).getD [c.toUpper]

def capitals (text : String) : String := .ofList (text.toList.flatMap capital)

def levelNumbers : List (String × Nat) :=
  [("NOTSET", 0), ("DEBUG", 10), ("INFO", 20), ("WARN", 30), ("WARNING", 30), ("ERROR", 40),
    ("CRITICAL", 50), ("FATAL", 50)]

/-- Counts for the names that are no level. -/
def defaultThreshold : Nat := 20

def messageFormat : String := "%(levelname)s:%(name)s:%(message)s"

def formatStyles : String :=
  "\x7b'%': (<class 'logging.PercentStyle'>, '%(levelname)s:%(name)s:%(message)s'), " ++
    "'\x7b': (<class 'logging.StrFormatStyle'>, " ++
    "'\x7blevelname\x7d:\x7bname\x7d:\x7bmessage\x7d'), " ++
    "'$': (<class 'logging.StringTemplateStyle'>, " ++
    "'$\x7blevelname\x7d:$\x7bname\x7d:$\x7bmessage\x7d')\x7d"

/-- The names that stand for formats. -/
def refusedNames : List (String × Defect) :=
  [("BASIC_FORMAT", .unknownLevel messageFormat), ("_STYLES", .levelNotText formatStyles)]

def threshold (setting : String) : Except Defect Nat :=
  match refusedNames.lookup (capitals setting) with
  | some defect => .error defect
  | none => .ok ((levelNumbers.lookup (capitals setting)).getD defaultThreshold)

def written (threshold : Nat) (records : List Record) : List Record :=
  records.filter fun r => threshold ≤ r.level.number

end AccountSync.Log
