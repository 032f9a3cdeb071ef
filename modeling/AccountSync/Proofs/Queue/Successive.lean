import AccountSync.Proofs.Queue.Lines

/-!
# Successive reads

Reads made one after another cut the bytes of a source into lines. No byte is lost and none is made up,
and the end of the data is met after no more reads than there are bytes, and one
(`readLines_exact`).
-/

namespace AccountSync.Queue

/-- So many reads, one after another. -/
def readLines (limit : LineLimit) : Nat → ExceptT Interruption (StateM Source) (List Line)
  | 0 => pure []
  | count + 1 => do
    let line ← Source.readLine limit
    let lines ← readLines limit count
    return line :: lines

/-- What one read answers when these bytes are still unread. -/
structure Answers (limit : Nat) (unread : List UInt8) (line : Line) : Prop where
  complete : line.status = .complete ↔ lineFeed ∈ unread.take limit
  tooLong : line.status = .tooLong ↔ limit ≤ unread.length ∧ lineFeed ∉ unread.take limit
  ended : line.status = .ended ↔ unread.length < limit ∧ lineFeed ∉ unread.take limit
  free : lineFeed ∉ line.data
  size : match line.status with
    | .complete => line.data.length ≤ limit - 1
    | .tooLong => line.data.length = limit
    | .ended => line.data.length < limit

/-- The lines that successive reads take from the start of the data, and what they leave. -/
inductive Series (limit : Nat) : List UInt8 → List Line → List UInt8 → Prop where
  | none {data} : Series limit data [] data
  | next {data line between lines rest} (first : Taken limit data line between)
    (others : Series limit between lines rest) : Series limit data (line :: lines) rest

/-! ### One read -/

namespace Taken

variable {limit : Nat} {data rest : List UInt8} {line : Line}

theorem bytes (taken : Taken limit data line rest) : line.bytes ++ rest = data := by
  have kept := takeLine_bytes limit data
  rw [takeLine_eq_iff.mpr taken] at kept
  exact kept

theorem answers (taken : Taken limit data line rest) : Answers limit data line := by
  cases taken with
  | complete fits =>
    have met := fits.mem_take rest
    refine ⟨by simp [met], by simp [met], by simp [met], fits.1, ?_⟩
    exact Nat.le_sub_one_of_lt fits.2
  | tooLong long unended =>
    refine ⟨by simp [unended], by simp [long, unended], ?_, unended, List.length_take_of_le long⟩
    simp [unended, Nat.not_lt.mpr long]
  | ended fits =>
    have whole : data.take limit = data := List.take_of_length_le (Nat.le_of_lt fits.2)
    have unended : lineFeed ∉ data.take limit := by
      rw [whole]
      exact fits.1
    refine ⟨by simp [unended], ?_, by simp [unended, fits.2], fits.1, fits.2⟩
    simp [Nat.not_le.mpr fits.2]

theorem last (taken : Taken limit data line rest) (ended : line.status = .ended) : rest = [] := by
  cases taken with
  | complete _ => cases ended
  | tooLong _ _ => cases ended
  | ended _ => rfl

theorem of_nothing (positive : 0 < limit) (taken : Taken limit [] line rest) :
    line = ⟨.ended, []⟩ ∧ rest = [] := by
  have drained : Fits limit [] := ⟨List.not_mem_nil, positive⟩
  have same := (takeLine_eq_iff.mpr taken).symm.trans (takeLine_last drained)
  exact ⟨congrArg Prod.fst same, congrArg Prod.snd same⟩

/-- A read that does not come to the end of the data takes a byte at least. -/
theorem progress (positive : 0 < limit) (taken : Taken limit data line rest)
    (more : line.status ≠ .ended) : 0 < line.bytes.length := by
  cases taken with
  | complete _ => simp [Line.bytes]
  | tooLong long _ =>
    change 0 < (data.take limit).length
    rw [List.length_take_of_le long]
    exact positive
  | ended _ => exact (more rfl).elim

end Taken

theorem run_readLine_bytes {limit : LineLimit} (bounded : limit.value < limitBound)
    (data : List UInt8) :
    (Source.readLine limit).run (.ofBytes data) =
      (.ok (takeLine limit.value data).1, .ofBytes (takeLine limit.value data).2) :=
  (run_readLine limit (.ofBytes data)).trans (if_neg (Nat.not_le.mpr bounded))

/-! ### A row of reads -/

namespace Series

variable {limit : Nat} {data rest : List UInt8} {lines : List Line}

theorem bytes (series : Series limit data lines rest) : lines.flatMap Line.bytes ++ rest = data := by
  induction series with
  | none => rfl
  | next first _ ih => rw [List.flatMap_cons, List.append_assoc, ih, first.bytes]

theorem split {before after : List Line} (series : Series limit data (before ++ after) rest) :
    ∃ unread, Series limit data before unread ∧ Series limit unread after rest := by
  induction before generalizing data with
  | nil => exact ⟨data, .none, series⟩
  | cons line before ih =>
    cases series with
    | next first others =>
      obtain ⟨unread, early, late⟩ := ih others
      exact ⟨unread, .next first early, late⟩

theorem of_nothing (positive : 0 < limit) (series : Series limit [] lines rest) :
    ∀ line ∈ lines, line = ⟨.ended, []⟩ := by
  generalize empty : ([] : List UInt8) = start at series
  induction series with
  | none => exact fun _ member => (List.not_mem_nil member).elim
  | next first _ ih =>
    subst empty
    obtain ⟨rfl, rfl⟩ := first.of_nothing positive
    exact List.forall_mem_cons.mpr ⟨rfl, ih rfl⟩

/-- By induction on the reads, each of which takes a byte unless it comes to the end. -/
theorem length_le (positive : 0 < limit) (series : Series limit data lines rest)
    (more : ∀ line ∈ lines, line.status ≠ .ended) : lines.length ≤ data.length := by
  induction series with
  | none => exact Nat.zero_le _
  | next first _ ih =>
    obtain ⟨here, later⟩ := List.forall_mem_cons.mp more
    have grown := first.progress positive here
    have shorter := ih later
    rw [← first.bytes, List.length_append, List.length_cons]
    omega

end Series

theorem Source.run_bind {α β : Type} (x : ExceptT Interruption (StateM Source) α)
    (f : α → ExceptT Interruption (StateM Source) β) (source : Source) :
    (x >>= f).run source =
      match x.run source with
      | (.ok a, after) => (f a).run after
      | (.error e, after) => (.error e, after) := by
  simp only [ExceptT.run, bind, ExceptT.bind, ExceptT.mk, StateT.bind, ExceptT.bindCont]
  cases h : x source with
  | mk result after => cases result <;> rfl

/-- Successive reads of bytes always succeed, and their lines are a series. -/
theorem run_readLines {limit : LineLimit} (bounded : limit.value < limitBound) (count : Nat)
    (data : List UInt8) :
    ∃ lines rest, (readLines limit count).run (.ofBytes data) = (.ok lines, .ofBytes rest) ∧
      lines.length = count ∧ Series limit.value data lines rest := by
  induction count generalizing data with
  | zero => exact ⟨[], data, rfl, rfl, .none⟩
  | succ count ih =>
    have first := taken_takeLine limit.value data
    have read := run_readLine_bytes bounded data
    generalize takeLine limit.value data = result at first read
    obtain ⟨line, between⟩ := result
    obtain ⟨lines, rest, others, length, series⟩ := ih between
    refine ⟨line :: lines, rest, ?_, congrArg (· + 1) length, .next first series⟩
    rw [readLines, Source.run_bind, read]
    dsimp only
    rw [Source.run_bind, others]
    rfl

/-- A series of bytes is one only: the lines are those that the reads return. -/
theorem Series.unique {limit : Nat} {data rest rest' : List UInt8} {lines lines' : List Line}
    (series : Series limit data lines rest) (series' : Series limit data lines' rest')
    (length : lines.length = lines'.length) : lines = lines' ∧ rest = rest' := by
  induction series generalizing lines' with
  | none =>
    cases series' with
    | none => exact ⟨rfl, rfl⟩
    | next _ _ => cases length
  | next first _ ih =>
    cases series' with
    | none => cases length
    | next first' others' =>
      have same := (takeLine_eq_iff.mpr first).symm.trans (takeLine_eq_iff.mpr first')
      cases same
      obtain ⟨rfl, rfl⟩ := ih others' (Nat.succ_inj.mp length)
      exact ⟨rfl, rfl⟩

theorem Series.returned {limit : LineLimit} (bounded : limit.value < limitBound)
    {data rest : List UInt8} {lines : List Line} (series : Series limit.value data lines rest) :
    (readLines limit lines.length).run (.ofBytes data) = (.ok lines, .ofBytes rest) := by
  obtain ⟨lines', rest', run, length, series'⟩ := Queue.run_readLines bounded lines.length data
  obtain ⟨rfl, rfl⟩ := series.unique series' length.symm
  exact run

/-- Each of the reads answers as the bytes that it finds unread demand, and once one of them has come to
the end of the data, so do all after it, with nothing in hand. The lines and the bytes that are left
make up the data again, and if there were more reads than bytes, one of them came to the end. -/
theorem readLines_exact {limit : Nat} (low : 2 ≤ limit) (high : limit < 2 ^ 63)
    (data : List UInt8) (count : Nat) :
    ∃ lines rest, (readLines ⟨limit, low⟩ count).run (.ofBytes data) = (.ok lines, .ofBytes rest) ∧
      lines.length = count ∧ lines.flatMap Line.bytes ++ rest = data ∧
      (∀ before line after, lines = before ++ line :: after →
        (∃ unread, (readLines ⟨limit, low⟩ before.length).run (.ofBytes data) =
            (.ok before, .ofBytes unread) ∧ Answers limit unread line) ∧
        (line.status = .ended → ∀ later ∈ after, later = ⟨.ended, []⟩)) ∧
      (data.length < count → ∃ line ∈ lines, line.status = .ended) := by
  have bounded : (⟨limit, low⟩ : LineLimit).value < limitBound := high
  have positive : 0 < limit := Nat.lt_of_lt_of_le Nat.two_pos low
  obtain ⟨lines, rest, run, length, series⟩ := run_readLines bounded count data
  refine ⟨lines, rest, run, length, series.bytes, ?_, ?_⟩
  · rintro before line after rfl
    obtain ⟨unread, early, late⟩ := series.split
    cases late with
    | next taken others =>
      refine ⟨⟨unread, early.returned bounded, taken.answers⟩, fun ended => ?_⟩
      obtain rfl := taken.last ended
      exact others.of_nothing positive
  · intro many
    by_contra! more
    have few := series.length_le positive more
    omega

/-- A line that is too long comes in pieces, and the last one is not ended by a line feed. -/
theorem readLines_exact_pieces :
    let data := utf8 "ab\ncdef\ng"
    2 ≤ 3 ∧ 3 < 2 ^ 63 ∧ data.length < 10 ∧
      ∃ lines rest, (readLines ⟨3, by decide⟩ 10).run (.ofBytes data) = (.ok lines, .ofBytes rest) ∧
        lines.flatMap Line.bytes ++ rest = data ∧ (∃ line ∈ lines, line.status = .ended) ∧
        lines.take 4 = [⟨.complete, utf8 "ab"⟩, ⟨.tooLong, utf8 "cde"⟩, ⟨.complete, utf8 "f"⟩,
          ⟨.ended, utf8 "g"⟩] := by
  intro data
  have low : 2 ≤ 3 := by decide
  have high : 3 < 2 ^ 63 := by decide
  have many : data.length < 10 := by decide
  obtain ⟨lines, rest, run, -, whole, -, ends⟩ := readLines_exact low high data 10
  refine ⟨low, high, many, lines, rest, run, whole, ends many, ?_⟩
  cases run
  rfl

end AccountSync.Queue
