import AccountSync.Log.Clock
import AccountSync.Log.Console
import AccountSync.Log.Json
import AccountSync.Proofs.Directory.FilterForm
import AccountSync.Proofs.Text.Numeral
import AccountSync.Proofs.Text.Quoted
import Mathlib.Data.List.Nodup

/-!
# Lines of the log

A record takes one line, however it is rendered. On the console the texts of a record can be told
from its line (`consoleLine_texts`).
-/

namespace AccountSync.Log

/-! ### Keys -/

def keys : List String :=
  ["previous", "state", "user", "enabled", "host", "base", "account", "error", "kind", "queue_file",
    "program"]

theorem mem_keys {program : String} {r : Record} {field : String × Field}
    (member : field ∈ r.fields program) : field.1 ∈ keys := by
  obtain ⟨event, queueFile⟩ := r
  have among : ∀ key ∈ ((⟨event, queueFile⟩ : Record).fields program).map (fun field => field.1),
      key ∈ keys := by
    cases event <;> cases queueFile <;> simp [Record.fields, Record.mark, Event.fields, keys]
  exact among _ (List.mem_map_of_mem member)

theorem nodup_keys (program : String) (r : Record) :
    ((r.fields program).map fun field => field.1).Nodup := by
  obtain ⟨event, queueFile⟩ := r
  cases event <;> cases queueFile <;> simp [Record.fields, Record.mark, Event.fields]

theorem notMem_key {c : Char} (other : c = '=' ∨ c = '\n') {key : String} (known : key ∈ keys) :
    c ∉ key.toList := by
  have each : ∀ key ∈ keys, '=' ∉ key.toList ∧ '\n' ∉ key.toList := by decide
  obtain rfl | rfl := other
  · exact (each key known).1
  · exact (each key known).2

/-! ### Fields -/

theorem Field.word_bare (field : Field) : Text.Word field.bare.toList := by
  cases field with
  | text s => exact Text.word_bareOrQuoted s
  | flag b => cases b <;> exact .bare (by simp [Field.bare, Text.needsQuotes])
  | missing => exact .bare (by simp [Field.bare, Text.needsQuotes])

def shown (field : String × Field) : List Char := field.1.toList ++ '=' :: field.2.bare.toList

/-- Fields on a line, each after a space. -/
def trail (fields : List (String × Field)) : List Char := fields.flatMap fun field => ' ' :: shown field

theorem apart_trail (fields : List (String × Field)) : Text.Apart (trail fields) := by
  cases fields with
  | nil => exact .inl rfl
  | cons field rest => exact .inr ⟨_, rfl⟩

/-- Fields are told by what is written of them: each has its key up to the first equals sign, and
then one word. -/
theorem trail_unique {fields fields' : List (String × Field)} (known : ∀ field ∈ fields, field.1 ∈ keys)
    (known' : ∀ field ∈ fields', field.1 ∈ keys) (same : trail fields = trail fields') :
    fields.map (fun field => (field.1, field.2.bare)) =
      fields'.map fun field => (field.1, field.2.bare) := by
  induction fields generalizing fields' with
  | nil =>
    cases fields' with
    | nil => rfl
    | cons field' rest' => cases same
  | cons field rest ih =>
    cases fields' with
    | nil => cases same
    | cons field' rest' =>
      obtain ⟨first, others⟩ := List.forall_mem_cons.mp known
      obtain ⟨first', others'⟩ := List.forall_mem_cons.mp known'
      have items : shown field ++ trail rest = shown field' ++ trail rest' := (List.cons.inj same).2
      unfold shown at items
      rw [List.append_assoc, List.append_assoc, List.cons_append, List.cons_append] at items
      obtain ⟨key, -, values⟩ := Directory.cut_unique (p := fun c => c ≠ '=')
        (fun c member => ne_of_mem_of_not_mem member (notMem_key (.inl rfl) first))
        (fun c member => ne_of_mem_of_not_mem member (notMem_key (.inl rfl) first'))
        (not_not_intro rfl) (not_not_intro rfl) items
      obtain ⟨value, after⟩ := field.2.word_bare.unique field'.2.word_bare (apart_trail rest)
        (apart_trail rest') values
      rw [List.map_cons, List.map_cons, ih others others' after, String.toList_inj.mp key,
        String.toList_inj.mp value]

theorem trail_last {fields : List (String × Field)} (present : fields ≠ []) :
    ∃ front c, trail fields = front ++ [c] ∧ c ≠ ' ' := by
  obtain ⟨init, field, rfl⟩ := (List.eq_nil_or_concat' fields).resolve_left present
  have last : ∃ front c, shown field = front ++ [c] ∧ c ≠ ' ' := by
    obtain none | ⟨front, c, word, visible⟩ := field.2.word_bare.last
    · exact ⟨_, '=', by rw [shown, none], by decide⟩
    · exact ⟨field.1.toList ++ '=' :: front, c, by rw [shown, word]; simp, visible⟩
  obtain ⟨front, c, ends, visible⟩ := last
  exact ⟨trail init ++ ' ' :: front, c, by simp [trail, ends], visible⟩

/-! ### Lines for a console -/

theorem intercalate_cons (sep first : List Char) (others : List (List Char)) :
    sep.intercalate (first :: others) = first ++ others.flatMap fun other => sep ++ other := by
  induction others generalizing first with
  | nil => simp
  | cons second rest ih =>
    rw [List.intercalate_cons_cons, ih, List.flatMap_cons, List.append_assoc, List.append_assoc]

theorem dropTrailingSpaces_eq {text : String} {front : List Char} {c : Char}
    (ends : text.toList = front ++ [c]) (visible : c ≠ ' ') : dropTrailingSpaces text = text := by
  rw [dropTrailingSpaces, ends, List.reverse_append, List.reverse_singleton, List.singleton_append,
    List.dropWhile_cons_of_neg (by simpa using visible), List.reverse_cons, List.reverse_reverse,
    ← ends, String.ofList_toList]

namespace Record

/-- What a line says before the fields. -/
def heading (time : String) (r : Record) : List Char :=
  time.toList ++ ' ' :: ("[" ++ padRight levelWidth r.level.name ++ "]").toList ++
    ' ' :: (padRight eventWidth r.event.name).toList ++ ' ' :: ("[" ++ r.event.logger ++ "]").toList

def sorted (program : String) (r : Record) : List (String × Field) :=
  (r.fields program).mergeSort fun a b => a.1 ≤ b.1

variable {program program' time : String} {r r' : Record}

theorem mem_sorted {field : String × Field} : field ∈ r.sorted program ↔ field ∈ r.fields program :=
  List.mem_mergeSort

theorem sorted_ne_nil (program : String) (r : Record) : r.sorted program ≠ [] := by
  have member : ("program", Field.text program) ∈ r.sorted program :=
    mem_sorted.mpr (by simp [fields])
  exact List.ne_nil_of_mem member

theorem toList_consoleFields (program : String) (r : Record) :
    (r.consoleFields program).map String.toList = (r.sorted program).map shown := by
  unfold consoleFields
  rw [List.map_map]
  refine List.map_congr_left fun field _ => ?_
  simp [shown]

theorem toList_consoleLine (time program : String) (r : Record) :
    (r.consoleLine time program).toList = r.heading time ++ trail (r.sorted program) := by
  have whole : (" ".intercalate ([time, "[" ++ padRight levelWidth r.level.name ++ "]",
      padRight eventWidth r.event.name, "[" ++ r.event.logger ++ "]"] ++
        r.consoleFields program)).toList = r.heading time ++ trail (r.sorted program) := by
    rw [String.toList_intercalate, List.map_append, toList_consoleFields, List.map_cons,
      List.cons_append, intercalate_cons]
    simp [heading, trail, List.flatMap_map]
  obtain ⟨front, c, ends, visible⟩ := trail_last (sorted_ne_nil program r)
  rw [ends, ← List.append_assoc] at whole
  rw [consoleLine, dropTrailingSpaces_eq whole visible, whole, ends, List.append_assoc]

/-- There is a text with this key among the fields. -/
def HasText (r : Record) (program key : String) : Prop := ∃ text, (key, .text text) ∈ r.fields program

/-- A key has one field. -/
theorem fields_unique {key : String} {field field' : Field} (member : (key, field) ∈ r.fields program)
    (member' : (key, field') ∈ r.fields program) : field = field' :=
  congrArg Prod.snd (List.inj_on_of_nodup_map (nodup_keys program r) member member' rfl)

theorem heading_congr (time : String) (name : r.event.name = r'.event.name) (level : r.level = r'.level)
    (logger : r.event.logger = r'.event.logger) : r.heading time = r'.heading time := by
  rw [heading, heading, name, level, logger]

/-- Lines that are the same, times aside, of records of the same event and with texts under the same
keys have the same texts. -/
theorem consoleLine_texts (name : r.event.name = r'.event.name) (level : r.level = r'.level)
    (logger : r.event.logger = r'.event.logger)
    (texts : ∀ key, r.HasText program key → r'.HasText program' key)
    (same : r.consoleLine time program = r'.consoleLine time program') {key text : String}
    (member : (key, .text text) ∈ r.fields program) : (key, .text text) ∈ r'.fields program' := by
  have trails : trail (r.sorted program) = trail (r'.sorted program') := by
    have chars := congrArg String.toList same
    rw [toList_consoleLine, toList_consoleLine, heading_congr time name level logger] at chars
    exact List.append_cancel_left chars
  have written := trail_unique (fun _ listed => mem_keys (mem_sorted.mp listed))
    (fun _ listed => mem_keys (mem_sorted.mp listed)) trails
  obtain ⟨text', member'⟩ := texts key ⟨text, member⟩
  have listed : (key, Text.bareOrQuoted text) ∈
      (r'.sorted program').map fun field => (field.1, field.2.bare) :=
    written ▸ List.mem_map.mpr ⟨_, mem_sorted.mpr member, rfl⟩
  obtain ⟨⟨key', field⟩, among, reads⟩ := List.mem_map.mp listed
  obtain ⟨rfl, bare⟩ := Prod.mk.inj reads
  obtain rfl : field = .text text' := fields_unique (mem_sorted.mp among) member'
  rw [← Text.bareOrQuoted_inj.mp bare]
  exact member'

end Record

/-! ### One line for each record -/

theorem lineFeed_notMem_bare (field : Field) : '\n' ∉ field.bare.toList := by
  cases field with
  | text s => exact Text.lineFeed_notMem_bareOrQuoted s
  | flag b => cases b <;> decide
  | missing => decide

theorem lineFeed_notMem_padRight {width : Nat} {text : String} (clean : '\n' ∉ text.toList) :
    '\n' ∉ (padRight width text).toList := by
  simp [padRight, clean]

/-- The name and the logger are written as they are, and all the rest cannot break a line. -/
theorem lineFeed_notMem_consoleLine {time : String} (timely : '\n' ∉ time.toList) (program : String)
    {r : Record} (name : '\n' ∉ r.event.name.toList) (logger : '\n' ∉ r.event.logger.toList) :
    '\n' ∉ (r.consoleLine time program).toList := by
  have level : '\n' ∉ r.level.name.toList := by
    cases r.level <;> decide
  have fields : '\n' ∉ trail (r.sorted program) := by
    intro member
    obtain ⟨field, listed, among⟩ := List.mem_flatMap.mp member
    have key := notMem_key (c := '\n') (.inr rfl) (mem_keys (Record.mem_sorted.mp listed))
    simp [shown, key, lineFeed_notMem_bare] at among
  rw [Record.toList_consoleLine, List.mem_append, not_or]
  refine ⟨?_, fields⟩
  simp [Record.heading, timely, logger, lineFeed_notMem_padRight name,
    lineFeed_notMem_padRight level]

theorem lineFeed_notMem_escapeJsonChar (c : Char) : '\n' ∉ escapeJsonChar c := by
  have coded (n : Nat) : '\n' ∉ escapeUnit n := by
    simp [escapeUnit, Text.lineFeed_notMem_hex]
  unfold escapeJsonChar
  dsimp only
  split
  · decide
  split
  · decide
  split
  · decide
  next other =>
  split
  · decide
  split
  · decide
  split
  · decide
  split
  · decide
  split
  · simpa using Ne.symm other
  split
  · exact coded _
  · simp [coded]

theorem lineFeed_notMem_jsonText (text : String) : '\n' ∉ (jsonText text).toList := by
  simp [jsonText, lineFeed_notMem_escapeJsonChar]

theorem lineFeed_notMem_json (field : Field) : '\n' ∉ field.json.toList := by
  cases field with
  | text s => exact lineFeed_notMem_jsonText s
  | flag b => cases b <;> decide
  | missing => decide

/-- Everything that a record says is escaped, its time included. -/
theorem lineFeed_notMem_jsonLine (time program : String) (r : Record) :
    '\n' ∉ (r.jsonLine time program).toList := by
  have pairs (members : List (String × Field)) : '\n' ∉ (", ".intercalate
      (members.map fun member => jsonText member.1 ++ ": " ++ member.2.json)).toList := by
    cases members with
    | nil => decide
    | cons first others =>
      rw [String.toList_intercalate, List.map_cons, List.map_cons, intercalate_cons]
      simp [lineFeed_notMem_jsonText, lineFeed_notMem_json]
  unfold Record.jsonLine
  simp only [String.toList_append, List.mem_append, not_or]
  exact ⟨⟨by decide, pairs _⟩, by decide⟩

theorem lineFeed_notMem_writeTime (microseconds : Nat) :
    '\n' ∉ (writeTime microseconds).toList := by
  have digits (width n : Nat) : '\n' ∉ (padded width n).toList := by
    have plain : '\n' ∉ Nat.toDigits 10 n := fun member =>
      absurd (Text.digits_toDigits n _ member) (by decide)
    simp [padded, Decimal.padLeft, plain]
  unfold writeTime
  extract_lets seconds
  split
  simp [digits]

/-- Lines that are ended by line feeds are found again where the text is split. -/
theorem splitOn_lines {lines : List (List Char)} (clean : ∀ line ∈ lines, '\n' ∉ line) :
    (lines.flatMap fun line => line ++ ['\n']).splitOn '\n' = lines ++ [[]] := by
  have whole : (lines.flatMap fun line => line ++ ['\n']) = ['\n'].intercalate (lines ++ [[]]) := by
    induction lines with
    | nil => rfl
    | cons line rest ih =>
      rw [List.flatMap_cons, ih (List.forall_mem_cons.mp clean).2]
      cases rest <;> simp [List.intercalate_cons_cons]
  have ended : ∀ line ∈ lines ++ [[]], '\n' ∉ line := by
    intro line member
    obtain among | last := List.mem_append.mp member
    · exact clean line among
    · rw [List.mem_singleton.mp last]
      exact List.not_mem_nil
  rw [whole]
  exact List.splitOn_intercalate '\n' ended (by simp)

end AccountSync.Log
