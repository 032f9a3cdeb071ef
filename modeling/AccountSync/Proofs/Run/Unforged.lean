import AccountSync.Proofs.Log.Lines
import AccountSync.Proofs.Run.Levels
import AccountSync.Proofs.Run.Logged
import AccountSync.Proofs.Run.Marks

/-!
# Lines that cannot be forged

Whatever the texts are that a run logs, its log has one line for each record that it writes, and on
the console records of one event with different texts have different lines (`log_unforgeable`).
-/

namespace AccountSync

variable {time : String} (timely : '\n' ∉ time.toList)

theorem Log.Event.lineFeed_notMem {event : Event} (own : event.isOwn) :
    '\n' ∉ event.name.toList ∧ '\n' ∉ event.logger.toList := by
  cases event with
  | notice logger name => cases own
  | _ => simp [Log.Event.name, Log.Event.logger]

theorem Settings.line_ne_nil (settings : Settings) (time : String) (r : Log.Record) :
    (settings.line time r).toList ≠ [] := by
  unfold Settings.line
  split
  · simp [Log.Record.jsonLine]
  · simp [Log.Record.toList_consoleLine, Log.Record.heading]

include timely in
theorem Settings.lineFeed_notMem_line (settings : Settings) {r : Log.Record} (own : r.event.isOwn) :
    '\n' ∉ (settings.line time r).toList := by
  obtain ⟨name, logger⟩ := Log.Event.lineFeed_notMem own
  unfold Settings.line
  split
  · exact Log.lineFeed_notMem_jsonLine time _ r
  · exact Log.lineFeed_notMem_consoleLine timely _ name logger

theorem Settings.mem_of_mem_written {settings : Settings} {records : List Log.Record} {r : Log.Record}
    (member : r ∈ settings.written records) : r ∈ records := by
  unfold Settings.written at member
  split at member
  · exact List.mem_of_mem_filter member
  · cases member

include timely in
/-- Split at its line feeds, the output gives the lines of the records back. -/
theorem Settings.splitOn_output (settings : Settings) {records : List Log.Record}
    (own : ∀ r ∈ records, r.event.isOwn) :
    ((settings.output time records).toList.splitOn '\n').filter (fun line => line ≠ []) =
      (settings.written records).map fun r => (settings.line time r).toList := by
  have text : (settings.output time records).toList =
      ((settings.written records).map fun r => (settings.line time r).toList).flatMap
        fun line => line ++ ['\n'] := by
    simp [Settings.output, List.flatMap_map]
  rw [text, Log.splitOn_lines, List.filter_append, List.filter_eq_self.mpr, List.filter_eq_nil_iff.mpr,
    List.append_nil]
  · simp
  · intro line member
    obtain ⟨r, _, rfl⟩ := List.mem_map.mp member
    exact decide_eq_true (settings.line_ne_nil time r)
  · intro line member
    obtain ⟨r, among, rfl⟩ := List.mem_map.mp member
    exact settings.lineFeed_notMem_line timely (own r (mem_of_mem_written among))

/-! ### Whole runs -/

theorem Collaborator.own_run (collaborator : Collaborator) (settings : Settings) (optionsFirst : Bool)
    (words : List String) (files : Files) :
    ∀ r ∈ ((runWith settings optionsFirst words (collaborator.factory settings)).run
      (.start files collaborator.memory)).2.log, r.event.isOwn := by
  have runs : (runWith settings optionsFirst words (collaborator.factory settings)).Own := by
    cases collaborator with
    | scripted replies initError =>
      refine own_runWith ?_ (fun ran => ?_) settings optionsFirst words
      · cases initError <;> exact .of_log fun _ => rfl
      · cases initError with
        | some message => cases ran
        | none =>
          cases ran
          exact Script.own_backend _ _ _
    | directory connection =>
      refine own_runWith (Directory.own_connect _ _) (fun ran => ?_) settings optionsFirst words
      rw [Directory.connect_backend _ _ ran]
      exact Directory.own_backend _
  obtain ⟨records, log, own⟩ := runs (.start files collaborator.memory)
  rw [log]
  exact own

/-- The log of a run, split into lines, has one line for each record that is written, whatever the
texts of the record are. On the console the texts of a record can be told from its line, given its
event and their keys. -/
theorem log_unforgeable (collaborator : Collaborator) (settings : Settings) (optionsFirst : Bool)
    (words : List String) (files : Files) (microseconds : Nat) :
    let ended := (runWith settings optionsFirst words (collaborator.factory settings)).run
      (.start files collaborator.memory)
    let time := Log.writeTime microseconds
    ((settings.output time ended.2.log).toList.splitOn '\n').filter (fun line => line ≠ []) =
        (settings.written ended.2.log).map (fun r => (settings.line time r).toList) ∧
      ∀ (r r' : Log.Record) (program program' time : String), r.event.name = r'.event.name →
        r.level = r'.level → r.event.logger = r'.event.logger →
        (∀ key, r.HasText program key ↔ r'.HasText program' key) →
        r.consoleLine time program = r'.consoleLine time program' →
        ∀ key text, (key, .text text) ∈ r.fields program ↔ (key, .text text) ∈ r'.fields program' := by
  intro ended time
  refine ⟨settings.splitOn_output (Log.lineFeed_notMem_writeTime microseconds)
    (collaborator.own_run settings optionsFirst words files), ?_⟩
  intro r r' program program' time name level logger keys same key text
  exact ⟨Log.Record.consoleLine_texts name level logger (fun key => (keys key).mp) same,
    Log.Record.consoleLine_texts name.symm level.symm logger.symm (fun key => (keys key).mpr) same.symm⟩

/-- A user with a line feed, and errors that look like fields. -/
theorem log_unforgeable_hostile :
    let settings := Settings.leveled "info" ⟨8192, by decide⟩
    let words := ["-e", "u\nx=1"]
    let time := Log.writeTime 0
    let ended := (runWith settings false words (Collaborator.refusing.factory settings)).run
      (.start (.empty []) Collaborator.refusing.memory)
    let r : Log.Record := ⟨.syncFailed "x kind=a" "b", none⟩
    let r' : Log.Record := ⟨.syncFailed "x" "a kind=b", none⟩
    (((settings.output time ended.2.log).toList.splitOn '\n').filter (fun line => line ≠ [])).length = 1 ∧
      (∀ key, r.HasText "p" key ↔ r'.HasText "p" key) ∧
      r.consoleLine time "p" ≠ r'.consoleLine time "p" := by
  intro settings words time ended r r'
  obtain ⟨lines, told⟩ := log_unforgeable Collaborator.refusing settings false words (.empty []) 0
  have one : (settings.written ended.2.log).length = 1 := by
    unfold ended words settings
    rfl
  have keys : ∀ key, r.HasText "p" key ↔ r'.HasText "p" key := by
    intro key
    simp [Log.Record.HasText, r, r', Log.Record.fields, Log.Record.mark, Log.Event.fields, exists_or]
  refine ⟨?_, keys, fun same => ?_⟩
  · rw [lines, List.length_map]
    exact one
  · have moved := (told r r' "p" "p" time rfl rfl rfl keys same "error" "x kind=a").mp
      (by simp [r, Log.Record.fields, Log.Record.mark, Log.Event.fields])
    simp [r', Log.Record.fields, Log.Record.mark, Log.Event.fields] at moved

end AccountSync
