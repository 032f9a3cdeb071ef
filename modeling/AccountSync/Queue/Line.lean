import AccountSync.Files.OsError

/-!
# Bounded lines

`Source.readLine` takes one line from a source of bytes, never more than the limit, which counts the
line feed. Nothing is lost between the line and what it leaves (`takeLine_bytes`).
-/

namespace AccountSync.Queue

def lineFeed : UInt8 := 10

/-- How a line ended: with a line feed, at the limit without one, or with the data. -/
inductive LineStatus where
  | complete
  | tooLong
  | ended
  deriving DecidableEq, Repr

def LineStatus.name : LineStatus → String
  | .complete => "COMPLETE"
  | .tooLong => "TOO_LONG"
  | .ended => "EOF"

/-- What one read returned, without its line feed. -/
structure Line where
  status : LineStatus
  data : List UInt8
  deriving DecidableEq, Repr

namespace Line

def cons (b : UInt8) (l : Line) : Line := { l with data := b :: l.data }

def bytes (l : Line) : List UInt8 :=
  match l.status with
  | .complete => l.data ++ [lineFeed]
  | _ => l.data

theorem bytes_cons (b : UInt8) (l : Line) : (l.cons b).bytes = b :: l.bytes := by
  cases l with
  | mk status data => cases status <;> rfl

end Line

def takeLine : Nat → List UInt8 → Line × List UInt8
  | 0, data => (⟨.tooLong, []⟩, data)
  | _ + 1, [] => (⟨.ended, []⟩, [])
  | limit + 1, b :: data =>
    if b = lineFeed then (⟨.complete, []⟩, data)
    else ((takeLine limit data).1.cons b, (takeLine limit data).2)

theorem takeLine_bytes (limit : Nat) (data : List UInt8) :
    (takeLine limit data).1.bytes ++ (takeLine limit data).2 = data := by
  fun_induction takeLine limit data with
  | case1 => rfl
  | case2 => rfl
  | case3 limit data => rfl
  | case4 limit b data hb ih => simp [Line.bytes_cons, ih]

/-! ### Sources -/

inductive ReadError where
  | plain (text : String)
  | numbered (number : Int) (text : String) (paths : List String)
  deriving DecidableEq, Repr

def ReadError.message : ReadError → String
  | .plain text => text
  | .numbered number text paths => OsError.report number text paths

/-- The system's own words, or the whole message where it has none. -/
def ReadError.reason : ReadError → String
  | .numbered number text paths => if text = "" then OsError.report number text paths else text
  | e => e.message

/-- Bytes still to be read. A failing source gives its error once so many lines have been read. -/
structure Source where
  data : List UInt8
  failing : Option (Nat × ReadError)
  deriving DecidableEq, Repr

namespace Source

def ofBytes (data : List UInt8) : Source := ⟨data, none⟩

/-- The error that the next read meets. -/
def fault? (s : Source) : Option ReadError :=
  match s.failing with
  | some (0, e) => some e
  | _ => none

def advance (s : Source) (rest : List UInt8) : Source :=
  ⟨rest, s.failing.map fun (lines, e) => (lines - 1, e)⟩

end Source

/-! ### Limits -/

/-- The longest line, its line feed included. -/
structure LineLimit where
  value : Nat
  two_le_value : 2 ≤ value
  deriving DecidableEq, Repr

def LineLimit.ofInt? (n : Int) : Option LineLimit :=
  if h : 2 ≤ n.toNat then some ⟨n.toNat, h⟩ else none

/-- Reads refuse limits from here on. -/
def limitBound : Nat := Nat.pow 2 63

inductive Interruption where
  | failed (error : ReadError)
  | limitTooLarge
  deriving DecidableEq, Repr

/-- A limit that is too large is refused even by a source that fails. -/
def Source.readLine (limit : LineLimit) : ExceptT Interruption (StateM Source) Line := do
  let source ← get
  if limitBound ≤ limit.value then throw .limitTooLarge
  if let some e := source.fault? then throw (.failed e)
  let (line, rest) := takeLine limit.value source.data
  set (source.advance rest)
  return line

end AccountSync.Queue
