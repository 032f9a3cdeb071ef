import AccountSync.Proofs.Drain.Images

/-!
# Spans of drains

A run can list, beside what the collaborator remembers, from which record of the log to which each of
its drains was active. The list changes nothing of the run, and the innermost of the spans around a
record tells the queue file that the record is marked with (`lists_drain`).
-/

namespace AccountSync

variable {σ α β : Type}

namespace Log

/-! ### Marks of records -/

/-- The record is marked with the queue file, or with none, and so is all that is written of it. -/
def Record.Carries (record : Record) (file : Option String) : Prop :=
  record.queueFile = file ∧
    ∀ program, (record.fields program).lookup "queue_file" = file.map .text

theorem Event.unmarked (event : Event) : event.fields.lookup "queue_file" = none := by
  cases event <;> rfl

theorem Record.carries (record : Record) : record.Carries record.queueFile := by
  obtain ⟨event, queueFile⟩ := record
  refine ⟨rfl, fun program => ?_⟩
  rw [fields, List.append_assoc, List.lookup_append, event.unmarked]
  cases queueFile with
  | none => rfl
  | some file => rfl

/-! ### Spans -/

/-- The records from place `start` up to `stop` were logged while a drain of the file was active. -/
structure Span where
  file : String
  start : Nat
  stop : Nat
  deriving DecidableEq, Repr

namespace Span

def Covers (s : Span) (place : Nat) : Prop := s.start ≤ place ∧ place < s.stop

instance (s : Span) (place : Nat) : Decidable (s.Covers place) := inferInstanceAs (Decidable (_ ∧ _))

/-- The drain of `s` was started later than that of `t`, and ended no later. -/
def Inside (s t : Span) : Prop := t.start < s.start ∧ s.stop ≤ t.stop

/-- The drain of `s` was active at the place, inside all others that were. -/
structure Innermost (spans : List Span) (place : Nat) (s : Span) : Prop where
  listed : s ∈ spans
  active : s.Covers place
  around : ∀ t ∈ spans, t.Covers place → t = s ∨ s.Inside t

theorem Innermost.unique {spans : List Span} {place : Nat} {s t : Span}
    (inner : Innermost spans place s) (other : Innermost spans place t) : s = t := by
  rcases inner.around t other.listed other.active with same | ⟨later, _⟩
  · exact same.symm
  rcases other.around s inner.listed inner.active with same | ⟨earlier, _⟩
  · exact same
  · omega

/-- The first span around the place. If spans are listed as their drains end, it is the innermost. -/
def at? (spans : List Span) (place : Nat) : Option Span := spans.find? fun s => s.Covers place

theorem at?_append (first second : List Span) (place : Nat) :
    at? (first ++ second) place = (at? first place).or (at? second place) := List.find?_append

theorem at?_eq_none {spans : List Span} {place : Nat} :
    at? spans place = none ↔ ∀ s ∈ spans, ¬ s.Covers place := by
  simp [at?]

theorem at?_innermost {spans : List Span} {place : Nat} {s : Span}
    (nested : spans.Pairwise fun s t => s.stop ≤ t.start ∨ s.Inside t)
    (found : at? spans place = some s) : Innermost spans place s := by
  obtain ⟨covers, earlier, later, rfl, skipped⟩ := List.find?_eq_some_iff_append.mp found
  have active : s.Covers place := by simpa using covers
  refine ⟨by simp, active, fun t listed covered => ?_⟩
  rcases List.mem_append.mp listed with before | after
  · have missed := skipped t before
    simp [covered] at missed
  rcases List.mem_cons.mp after with same | after
  · exact .inl same
  -- a drain that ended later either began after `s` had ended, or was active all the while
  · rcases List.rel_of_pairwise_cons (List.pairwise_append.mp nested).2.1 after with apart | inside
    · have ended := active.2
      have begun := covered.1
      omega
    · exact .inr inside

end Span

/-! ### Records marked as spans tell -/

/-- The spans are of drains within the records, which stand in a log from place `start` on. A record
that none of them covers has the given mark, and the others have that of the first span around
them. -/
structure Marked (mark : Option String) (start : Nat) (records : List Record) (spans : List Span) :
    Prop where
  within : ∀ s ∈ spans, start ≤ s.start ∧ s.stop ≤ start + records.length
  nested : spans.Pairwise fun s t => s.stop ≤ t.start ∨ s.Inside t
  marks : ∀ i record, records[i]? = some record →
    record.queueFile = ((Span.at? spans (start + i)).map Span.file).or mark

namespace Marked

variable {mark : Option String} {start : Nat} {records more : List Record} {spans others : List Span}

theorem nil : Marked mark start [] [] where
  within := List.forall_mem_nil _
  nested := .nil
  marks _ _ none := by simp at none

theorem single (event : Event) : Marked mark start [⟨event, mark⟩] [] where
  within := List.forall_mem_nil _
  nested := .nil
  marks i record found := by
    cases List.mem_singleton.mp (List.mem_of_getElem? found)
    rfl

theorem unseen_before (marked : Marked mark start records spans) {place : Nat} (early : place < start) :
    Span.at? spans place = none :=
  Span.at?_eq_none.mpr fun s listed covers => by
    have began := (marked.within s listed).1
    exact absurd covers.1 (by omega)

theorem unseen_after (marked : Marked mark start records spans) {place : Nat}
    (late : start + records.length ≤ place) : Span.at? spans place = none :=
  Span.at?_eq_none.mpr fun s listed covers => by
    have ended := (marked.within s listed).2
    exact absurd covers.2 (by omega)

theorem append (first : Marked mark start records spans)
    (second : Marked mark (start + records.length) more others) :
    Marked mark start (records ++ more) (spans ++ others) where
  within s listed := by
    rw [List.length_append]
    rcases List.mem_append.mp listed with early | late
    · have bounds := first.within s early
      omega
    · have bounds := second.within s late
      omega
  nested := by
    refine List.pairwise_append.mpr ⟨first.nested, second.nested, fun s early t late => .inl ?_⟩
    have ended := (first.within s early).2
    have began := (second.within t late).1
    omega
  marks i record found := by
    rw [Span.at?_append]
    by_cases early : i < records.length
    · rw [List.getElem?_append_left early] at found
      rw [second.unseen_before (by omega), Option.or_none]
      exact first.marks i record found
    · rw [List.getElem?_append_right (by omega)] at found
      rw [first.unseen_after (by omega), Option.none_or, second.marks _ record found]
      congr 3
      omega

/-- The span of a drain goes around those of the drains that were started after its first record. -/
theorem enclose {file : String} (inner : Marked (some file) start records spans)
    (later : ∀ s ∈ spans, start < s.start) :
    Marked mark start records (spans ++ [⟨file, start, start + records.length⟩]) where
  within s listed := by
    rcases List.mem_append.mp listed with inside | own
    · exact inner.within s inside
    · rw [List.mem_singleton.mp own]
      exact ⟨Nat.le_refl _, Nat.le_refl _⟩
  nested := by
    refine List.pairwise_append.mpr ⟨inner.nested, List.pairwise_singleton _ _, ?_⟩
    intro s inside t own
    rw [List.mem_singleton.mp own]
    exact .inr ⟨later s inside, (inner.within s inside).2⟩
  marks i record found := by
    have short : i < records.length := (List.getElem?_eq_some_iff.mp found).1
    have own : Span.at? [⟨file, start, start + records.length⟩] (start + i) =
        some ⟨file, start, start + records.length⟩ := by
      simp [Span.at?, Span.Covers, short]
    rw [inner.marks i record found, Span.at?_append, own]
    cases Span.at? spans (start + i) with
    | none => rfl
    | some s => rfl

end Marked

/-- Every record after the earlier ones carries the file of the innermost drain that was active, of
which there is one only, or the given mark if none was. -/
structure Attributed (mark : Option String) (earlier log : List Record) (spans : List Span) : Prop where
  kept : earlier <+: log
  active : ∀ place record, earlier.length ≤ place → log[place]? = some record →
    (∃ s ∈ spans, s.Covers place) →
      ∃ s, Span.Innermost spans place s ∧ (∀ t, Span.Innermost spans place t → t = s) ∧
        record.Carries (some s.file)
  idle : ∀ place record, earlier.length ≤ place → log[place]? = some record →
    (∀ s ∈ spans, ¬ s.Covers place) → record.Carries mark

theorem Marked.attributed {mark : Option String} {earlier records : List Record} {spans : List Span}
    (marked : Marked mark earlier.length records spans) :
    Attributed mark earlier (earlier ++ records) spans := by
  have marks : ∀ place record, earlier.length ≤ place → (earlier ++ records)[place]? = some record →
      record.Carries (((Span.at? spans place).map Span.file).or mark) := by
    intro place record late found
    rw [List.getElem?_append_right late] at found
    have own := record.carries
    rwa [marked.marks _ record found, Nat.add_sub_cancel' late] at own
  refine ⟨List.prefix_append .., ?_, ?_⟩
  · rintro place record late found ⟨s, listed, covers⟩
    have carries := marks place record late found
    cases first : Span.at? spans place with
    | none => exact absurd covers (Span.at?_eq_none.mp first s listed)
    | some inner =>
      rw [first] at carries
      have innermost := Span.at?_innermost marked.nested first
      exact ⟨inner, innermost, fun t other => other.unique innermost, carries⟩
  · intro place record late found idle
    have carries := marks place record late found
    rwa [Span.at?_eq_none.mpr idle] at carries

end Log

open Log (Span)

/-! ### Listing the spans of a run -/

namespace Site

def listing (site : Site σ) : Site (List Span × σ) := { site with peer := ([], site.peer) }

def unlisted (site : Site (List Span × σ)) : Site σ := { site with peer := site.peer.2 }

end Site

/-- Lists the span of `x`, as that of a drain of the file. -/
def Act.spanned (file : String) (x : Act (List Span × σ) α) : Act (List Span × σ) α := fun site =>
  let ended := x.run site
  let span : Span := ⟨file, site.log.length, ended.2.log.length⟩
  (ended.1, { ended.2 with peer := (ended.2.peer.1 ++ [span], ended.2.peer.2) })

theorem transparent_unlisted : Site.Transparent (Site.unlisted : Site (List Span × σ) → Site σ) :=
  transparent_beside

/-- From `s` to `t` these records were logged and these spans were listed, as they belong together,
and the mark in force is the same again. -/
structure Site.Leads (s t : Site (List Span × σ)) (records : List Log.Record) (spans : List Span) :
    Prop where
  mark : t.queueFile = s.queueFile
  log : t.log = s.log ++ records
  list : t.peer.1 = s.peer.1 ++ spans
  marked : Log.Marked s.queueFile s.log.length records spans

/-- Wherever the step is made, what it logs and the spans that it lists belong together. -/
def Act.Spanning (x : Act (List Span × σ) α) : Prop :=
  ∀ site : Site (List Span × σ), ∃ records spans, site.Leads (x.run site).2 records spans

namespace Site.Leads

variable {s t u : Site (List Span × σ)} {records more : List Log.Record} {spans others : List Span}

theorem still (mark : t.queueFile = s.queueFile) (log : t.log = s.log) (list : t.peer.1 = s.peer.1) :
    s.Leads t [] [] :=
  ⟨mark, log.trans (List.append_nil _).symm, list.trans (List.append_nil _).symm, .nil⟩

theorem note (site : Site (List Span × σ)) (event : Log.Event) :
    site.Leads (site.note event) [⟨event, site.queueFile⟩] [] :=
  ⟨rfl, rfl, (List.append_nil _).symm, .single event⟩

theorem move (site : Site (List Span × σ)) (next : Stage) :
    site.Leads (site.move next) [⟨.drainStage site.stage next, site.queueFile⟩] [] :=
  ⟨rfl, rfl, (List.append_nil _).symm, .single _⟩

theorem trans (first : s.Leads t records spans) (second : t.Leads u more others) :
    s.Leads u (records ++ more) (spans ++ others) where
  mark := second.mark.trans first.mark
  log := by rw [second.log, first.log, List.append_assoc]
  list := by rw [second.list, first.list, List.append_assoc]
  marked := by
    have after := second.marked
    rw [first.mark, first.log, List.length_append] at after
    exact first.marked.append after

/-- What a drain does inside its mark, seen from outside. -/
theorem enclose {file : String} (inside : (s.enter file).Leads t records spans)
    (later : ∀ span ∈ spans, s.log.length < span.start) :
    let own : Span := ⟨file, s.log.length, t.log.length⟩
    s.Leads { t with queueFile := s.queueFile, peer := (t.peer.1 ++ [own], t.peer.2) } records
      (spans ++ [own]) := by
  intro own
  refine ⟨rfl, inside.log, ?_, ?_⟩
  · change t.peer.1 ++ [own] = _
    rw [inside.list, List.append_assoc]
    rfl
  · have length : t.log.length = s.log.length + records.length := by
      rw [inside.log, List.length_append]
      rfl
    have enclosed : Log.Marked s.queueFile s.log.length records
        (spans ++ [⟨file, s.log.length, s.log.length + records.length⟩]) :=
      Log.Marked.enclose inside.marked later
    change Log.Marked _ s.log.length records (spans ++ [⟨file, s.log.length, t.log.length⟩])
    rw [length]
    exact enclosed

end Site.Leads

/-! ### One drain -/

section

variable (site : Site (List Span × σ))

theorem Site.Leads.pass (stages : List Stage) :
    ∃ records, site.Leads (site.pass stages) records [] ∧ records.length = stages.length := by
  induction stages generalizing site with
  | nil => exact ⟨[], .still rfl rfl rfl, rfl⟩
  | cons next rest ih =>
    obtain ⟨records, passed, length⟩ := ih (site.move next)
    exact ⟨_, (Site.Leads.move site next).trans passed, by simp [length]⟩

theorem Site.Leads.conclude (result : Except Fault α) :
    ∃ records, site.Leads (AccountSync.conclude (result, site)).2 records [] := by
  rcases result with (failure | defect) | a
  · unfold AccountSync.conclude
    dsimp only
    split
    · exact ⟨_, .move site .failed⟩
    · exact ⟨_, .still rfl rfl rfl⟩
  · exact ⟨_, .still rfl rfl rfl⟩
  · exact ⟨_, .still rfl rfl rfl⟩

theorem Site.Leads.complete (file : String) (record : Queue.Record) :
    ∃ records, site.Leads (Controller.complete file record site).2 records [] := by
  unfold Controller.complete
  split
  · cases site.files.unlink (.ofText file) with
    | error why => exact ⟨_, .move site .dispatched⟩
    | ok files =>
      have dispatched : site.Leads { site.move .dispatched with files } _ [] :=
        (Site.Leads.move site .dispatched).trans (.still rfl rfl rfl)
      exact ⟨_, dispatched.trans (.move _ .deleted)⟩
  · exact ⟨_, .still rfl rfl rfl⟩

theorem Site.Leads.finish (file : String) (record : Queue.Record) (result : Except Fault Answer) :
    ∃ records, site.Leads (Controller.finish file record (result, site)).2 records [] := by
  cases result with
  | error fault => exact ⟨_, .still rfl rfl rfl⟩
  | ok answer =>
    unfold Controller.finish
    dsimp only
    split
    · obtain ⟨records, completed⟩ := Site.Leads.complete
        (site.note (record.action.notice record.principalName)) file record
      exact ⟨_, (Site.Leads.note site _).trans completed⟩
    · exact ⟨_, .still rfl rfl rfl⟩

end

section

variable {b : Backend (List Span × σ)}
  (calls : ∀ request, (b.perform request).Spanning)

include calls

/-- Whatever a drain starts, it starts after a record of its own. -/
theorem leads_pursue (realm : Option String) (limit : Int) (file : String)
    (site : Site (List Span × σ)) :
    ∃ records spans, site.Leads (Controller.pursue ⟨b, realm, limit⟩ file site).2 records spans ∧
      ∀ s ∈ spans, site.log.length < s.start := by
  cases arrival : arrive realm limit file site.files with
  | stopped passed fault =>
    rw [Controller.pursue_stopped ⟨b, realm, limit⟩ site arrival]
    obtain ⟨records, passes, _⟩ := Site.Leads.pass site passed
    exact ⟨records, [], passes, List.forall_mem_nil _⟩
  | ready record principal =>
    rw [Controller.pursue_ready ⟨b, realm, limit⟩ site arrival]
    obtain ⟨before, passes, length⟩ := Site.Leads.pass site [.opened, .parsed]
    obtain ⟨during, spans, called⟩ :=
      calls ⟨realm, principal, record.action⟩ (site.pass [.opened, .parsed])
    generalize (b.perform _).run (site.pass [.opened, .parsed]) = performed at called
    obtain ⟨result, after⟩ := performed
    obtain ⟨rest, finished⟩ := Site.Leads.finish after file record result
    refine ⟨_, _, (passes.trans called).trans finished, fun s listed => ?_⟩
    -- spans come from the call alone, before which two stages are logged
    rw [List.nil_append, List.append_nil] at listed
    have began := (called.marked.within s listed).1
    rw [passes.log, List.length_append, length] at began
    exact Nat.lt_of_lt_of_le (by simp) began

theorem spanning_drain (realm : Option String) (limit : Int) (file : String) :
    ((Controller.drain ⟨b, realm, limit⟩ file).spanned file).Spanning := by
  intro site
  obtain ⟨before, spans, pursued, later⟩ := leads_pursue calls realm limit file (site.enter file)
  have drained := Controller.run_drain ⟨b, realm, limit⟩ file site
  generalize Controller.pursue ⟨b, realm, limit⟩ file (site.enter file) = outcome at pursued drained
  obtain ⟨result, after⟩ := outcome
  obtain ⟨rest, concluded⟩ := Site.Leads.conclude after result
  have inside := pursued.trans concluded
  rw [List.append_nil] at inside
  change ∃ records spans, site.Leads (Act.spanned file _ site).2 records spans
  unfold Act.spanned
  rw [drained]
  exact ⟨_, _, inside.enclose later⟩

end

end AccountSync
