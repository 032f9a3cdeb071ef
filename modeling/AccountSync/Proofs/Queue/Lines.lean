import AccountSync.Proofs.Queue.Format

/-!
# What one read takes

A read takes a whole line, as many bytes as the limit allows, or all that is left
(`takeLine_eq_iff`). Under a higher limit it takes the same, unless it was stopped by the limit
(`takeLine_raised`).
-/

namespace AccountSync.Queue

/-- The line that a read takes from the start of the data, and what it leaves. -/
inductive Taken (limit : Nat) : List UInt8 → Line → List UInt8 → Prop where
  | complete {line rest} (fits : Fits limit line) :
    Taken limit (line ++ lineFeed :: rest) ⟨.complete, line⟩ rest
  | tooLong {data} (long : limit ≤ data.length) (unended : lineFeed ∉ data.take limit) :
    Taken limit data ⟨.tooLong, data.take limit⟩ (data.drop limit)
  | ended {data} (fits : Fits limit data) : Taken limit data ⟨.ended, data⟩ []

theorem Taken.cons {limit : Nat} {b : UInt8} {data rest : List UInt8} {line : Line}
    (taken : Taken limit data line rest) (other : b ≠ lineFeed) :
    Taken (limit + 1) (b :: data) (line.cons b) rest := by
  cases taken with
  | complete fits => exact .complete (fits_cons.mpr ⟨other, fits⟩)
  | ended fits => exact .ended (fits_cons.mpr ⟨other, fits⟩)
  | tooLong long unended =>
    have free : lineFeed ∉ (b :: data).take (limit + 1) := by
      rw [List.take_succ_cons, List.mem_cons, not_or]
      exact ⟨other.symm, unended⟩
    exact .tooLong (Nat.succ_le_succ long) free

theorem taken_takeLine (limit : Nat) (data : List UInt8) :
    Taken limit data (takeLine limit data).1 (takeLine limit data).2 := by
  fun_induction takeLine limit data with
  | case1 data => exact .tooLong (Nat.zero_le _) List.not_mem_nil
  | case2 limit => exact .ended ⟨List.not_mem_nil, Nat.succ_pos limit⟩
  | case3 limit data =>
    have blank : Fits (limit + 1) [] := ⟨List.not_mem_nil, Nat.succ_pos limit⟩
    exact .complete blank
  | case4 limit b data other ih => exact ih.cons other

theorem takeLine_last {limit : Nat} {data : List UInt8} (fits : Fits limit data) :
    takeLine limit data = (⟨.ended, data⟩, []) := by
  have taken := taken_takeLine limit data
  generalize takeLine limit data = result at taken
  obtain ⟨line, rest⟩ := result
  cases taken with
  | complete _ => exact (fits.1 (List.mem_append_right _ List.mem_cons_self)).elim
  | tooLong long _ => exact (Nat.not_lt.mpr long fits.2).elim
  | ended _ => rfl

theorem Fits.mem_take {limit : Nat} {line : List UInt8} (fits : Fits limit line)
    (rest : List UInt8) : lineFeed ∈ (line ++ lineFeed :: rest).take limit := by
  obtain ⟨more, rfl⟩ := Nat.exists_eq_add_of_lt fits.2
  have room : line.length + more + 1 = line.length + (more + 1) := Nat.add_assoc ..
  rw [room, List.take_length_add_append, List.take_succ_cons]
  exact List.mem_append_right _ List.mem_cons_self

theorem takeLine_cut {limit : Nat} {data : List UInt8} (long : limit ≤ data.length)
    (unended : lineFeed ∉ data.take limit) :
    takeLine limit data = (⟨.tooLong, data.take limit⟩, data.drop limit) := by
  have taken := taken_takeLine limit data
  generalize takeLine limit data = result at taken
  obtain ⟨line, rest⟩ := result
  cases taken with
  | complete fits => exact (unended (fits.mem_take _)).elim
  | tooLong _ _ => rfl
  | ended fits => exact (Nat.not_lt.mpr long fits.2).elim

theorem takeLine_eq_iff {limit : Nat} {data rest : List UInt8} {line : Line} :
    takeLine limit data = (line, rest) ↔ Taken limit data line rest := by
  constructor
  · intro same
    have taken := taken_takeLine limit data
    rw [same] at taken
    exact taken
  · intro taken
    cases taken with
    | complete fits => exact takeLine_fitting fits rest
    | tooLong long unended => exact takeLine_cut long unended
    | ended fits => exact takeLine_last fits

/-- Data are cut at a whole line in one way. -/
theorem Fits.cut_unique {limit : Nat} {line line' rest rest' : List UInt8} (fits : Fits limit line)
    (fits' : Fits limit line') (same : line ++ lineFeed :: rest = line' ++ lineFeed :: rest') :
    line = line' ∧ rest = rest' := by
  have taken := takeLine_fitting fits rest
  rw [same, takeLine_fitting fits'] at taken
  cases taken
  exact ⟨rfl, rfl⟩

/-! ### Higher limits -/

theorem Fits.raise {low high : Nat} (raised : low ≤ high) {line : List UInt8} (fits : Fits low line) :
    Fits high line :=
  ⟨fits.1, Nat.lt_of_lt_of_le fits.2 raised⟩

theorem takeLine_raised {low high : Nat} (raised : low ≤ high) {data : List UInt8}
    (uncut : (takeLine low data).1.status ≠ .tooLong) : takeLine high data = takeLine low data := by
  have taken := taken_takeLine low data
  generalize takeLine low data = result at taken uncut
  obtain ⟨line, rest⟩ := result
  apply takeLine_eq_iff.mpr
  cases taken with
  | complete fits => exact .complete (fits.raise raised)
  | tooLong _ _ => exact (uncut rfl).elim
  | ended fits => exact .ended (fits.raise raised)

end AccountSync.Queue
