import AccountSync.Proofs.Queue.Lines

/-!
# Raised limits

Where no line is too long for a limit, a higher one changes nothing: the record or the fault is the
same, and so are the bytes that are left (`readWithin_raised`).
-/

namespace AccountSync.Queue.Record

variable {α β : Type}

/-- Reading stopped at a line that is too long for the limit. -/
def TooLong (result : Except Fault α) : Prop :=
  ∃ file limit, result = .error (.failure (.lineTooLong file limit))

/-- Where no line is too long for `x`, `y` ends as `x` does and leaves what `x` leaves. -/
def Widens (x y : Reader α) : Prop :=
  ∀ source, ¬ TooLong (outcome x source).1 → outcome y source = outcome x source

theorem widens_refl (x : Reader α) : Widens x x := fun _ _ => rfl

theorem widens_bind {x y : Reader α} {f g : α → Reader β} (first : Widens x y)
    (next : ∀ a, Widens (f a) (g a)) : Widens (x >>= f) (y >>= g) := by
  intro source uncut
  rw [outcome_bind] at uncut
  rw [outcome_bind, outcome_bind]
  cases read : outcome x source with
  | mk result after =>
    rw [read] at uncut
    have same : outcome y source = (result, after) := by
      rw [← read]
      apply first source
      rw [read]
      -- a line too long for the first part is too long for the whole
      rintro ⟨file, limit, rfl⟩
      exact uncut ⟨file, limit, rfl⟩
    rw [same]
    cases result with
    | error fault => rfl
    | ok a => exact next a after uncut

section

variable {low high : LineLimit} (raised : low.value ≤ high.value) (bounded : high.value < limitBound)
  (file : String)

include raised bounded

theorem widens_readText (number : Nat) :
    Widens (readText low file number) (readText high file number) := by
  intro source uncut
  have lower : low.value < limitBound := Nat.lt_of_le_of_lt raised bounded
  unfold readText at uncut ⊢
  rw [outcome_bind, outcome_line, if_neg (Nat.not_le.mpr lower)] at uncut
  rw [outcome_bind, outcome_bind, outcome_line, outcome_line, if_neg (Nat.not_le.mpr lower),
    if_neg (Nat.not_le.mpr bounded)]
  cases fails : source.fault? with
  | some e => rfl
  | none =>
    rw [fails] at uncut
    dsimp only at uncut ⊢
    have whole : (takeLine low.value source.data).1.status ≠ .tooLong := by
      intro status
      rw [status] at uncut
      exact uncut ⟨file, low.value, rfl⟩
    rw [takeLine_raised raised whole]
    cases status : (takeLine low.value source.data).1.status with
    | tooLong => exact (whole status).elim
    | ended => rfl
    | complete => rfl

theorem widens_readTarget : Widens (readTarget low file) (readTarget high file) :=
  widens_bind (widens_readText raised bounded file 2) fun _ => widens_refl _

theorem widens_readPassword : Widens (readPassword low file) (readPassword high file) :=
  widens_bind (widens_readText raised bounded file 4) fun _ => widens_refl _

theorem widens_readAction : Widens (readAction low file) (readAction high file) := by
  refine widens_bind (widens_readText raised bounded file 3) fun token => ?_
  split
  · exact widens_refl _
  · exact widens_refl _
  · exact widens_bind (widens_readPassword raised bounded file) fun _ => widens_refl _
  · exact widens_refl _

theorem widens_read : Widens (read low file) (read high file) := by
  refine widens_bind (widens_readText raised bounded file 1) fun principal => ?_
  refine widens_bind (widens_readTarget raised bounded file) fun target => ?_
  exact widens_bind (widens_readAction raised bounded file) fun action => widens_refl _

end

/-- A higher limit only ever lets a line through that was too long: any other fault stays as it is, and
so does a record, with the bytes that are left. A line that is too long for a limit is so for every
lower one. -/
theorem readWithin_raised {low high : Nat} (least : 2 ≤ low) (raised : low ≤ high)
    (bounded : high < 2 ^ 63) (file : String) (source : Source) :
    (¬ TooLong (outcome (readWithin low file) source).1 →
      outcome (readWithin high file) source = outcome (readWithin low file) source) ∧
    (TooLong (outcome (readWithin high file) source).1 →
      TooLong (outcome (readWithin low file) source).1) := by
  have widens : Widens (readWithin low file) (readWithin high file) := by
    rw [readWithin_eq_read least, readWithin_eq_read (Nat.le_trans least raised)]
    exact widens_read raised bounded file
  refine ⟨widens source, fun long => ?_⟩
  by_contra uncut
  rw [widens source uncut] at long
  exact uncut long

/-- The target of the first file is unknown under both limits. The last line of the second one is too
long for both. -/
theorem readWithin_raised_unknown :
    let unknown : Source := .ofBytes (utf8 "u\nAD\nrest")
    let long : Source := .ofBytes (utf8 "u\nad\npassword")
    2 ≤ 3 ∧ 3 ≤ 8 ∧ 8 < 2 ^ 63 ∧
      ¬ TooLong (outcome (readWithin (3 : Nat) "q") unknown).1 ∧
      outcome (readWithin (8 : Nat) "q") unknown =
        (.error (.failure (.unknownTarget "q" "AD")), .ofBytes (utf8 "rest")) ∧
      TooLong (outcome (readWithin (8 : Nat) "q") long).1 ∧
      TooLong (outcome (readWithin (3 : Nat) "q") long).1 := by
  intro unknown long
  have least : 2 ≤ 3 := by decide
  have raised : 3 ≤ 8 := by decide
  have bounded : 8 < 2 ^ 63 := by decide
  have read : outcome (readWithin (3 : Nat) "q") unknown =
      (.error (.failure (.unknownTarget "q" "AD")), .ofBytes (utf8 "rest")) := rfl
  have uncut : ¬ TooLong (outcome (readWithin (3 : Nat) "q") unknown).1 := by
    rw [read]
    rintro ⟨file, limit, same⟩
    cases same
  have cut : TooLong (outcome (readWithin (8 : Nat) "q") long).1 := ⟨"q", 8, rfl⟩
  have same := (readWithin_raised least raised bounded "q" unknown).1 uncut
  have lower := (readWithin_raised least raised bounded "q" long).2 cut
  exact ⟨least, raised, bounded, uncut, same.trans read, cut, lower⟩

end AccountSync.Queue.Record
