import AccountSync.Proofs.Drain.Renewal
import AccountSync.Proofs.Run.Agreement
import AccountSync.Proofs.Run.Images
import AccountSync.Proofs.Secrecy.Run

/-!
# Logging settings

Nothing that a run does depends on what is logged or on how. Runs with other thresholds or renderings
end the same, and what one of them writes is what the other writes less the records below its own
threshold (`logging_unheeded`).
-/

namespace AccountSync

variable {σ : Type}

/-! ### Thresholds -/

/-- The names that a threshold may be set by, in capitals. -/
def Log.knownNames : List String :=
  (Log.refusedNames.map fun entry => entry.1) ++ Log.levelNumbers.map fun entry => entry.1

theorem Log.threshold_unknown {setting : String} (unknown : capitals setting ∉ knownNames) :
    threshold setting = .ok defaultThreshold := by
  have missing {α : Type} (entries : List (String × α))
      (within : ∀ name ∈ entries.map fun entry => entry.1, name ∈ knownNames) :
      entries.lookup (capitals setting) = none := by
    refine List.lookup_eq_none_iff.mpr fun entry member => ?_
    have other : capitals setting ≠ entry.1 :=
      fun same => unknown (same ▸ within _ (List.mem_map_of_mem member))
    exact bne_iff_ne.mpr other
  rw [threshold, missing refusedNames fun _ => List.mem_append_left _,
    missing levelNumbers fun _ => List.mem_append_right _]
  rfl

/-- A higher threshold takes more out. -/
theorem Log.written_written {threshold threshold' : Nat} (higher : threshold ≤ threshold')
    (records : List Record) :
    (written threshold records).filter (fun r => threshold' ≤ r.level.number) =
      written threshold' records := by
  rw [written, written, List.filter_filter]
  refine List.filter_congr fun r _ => ?_
  simp only [Bool.and_eq_left_iff_imp, decide_eq_true_eq]
  exact higher.trans

/-! ### Runs that do not read the log -/

/-- Neither making the backend nor the backend that is made reads the log. -/
structure Act.Connects (factory : Act σ (Backend σ)) : Prop where
  unaware : factory.Unaware
  made : ∀ {site backend after}, factory.run site = (.ok backend, after) →
    backend.Unaware ∧ backend.close.Unaware

theorem Act.Connects.serve {factory : Act σ (Backend σ)} (connects : factory.Connects)
    (settings : Settings) (command : Command) : (serve settings factory command).Unaware := by
  intro earlier site
  unfold AccountSync.serve
  rw [Act.run_bind, Act.run_bind, connects.unaware earlier site]
  cases ran : factory.run site with
  | mk result after =>
    cases result with
    | error fault => rfl
    | ok backend =>
      obtain ⟨performs, closes⟩ := connects.made ran
      have routed := through_route (transparent_since earlier)
        (fun request => performs request earlier) settings.realm settings.queueLineLimit.value command
      exact through_ensuring routed (closes earlier) after

theorem Act.Connects.runWith {factory : Act σ (Backend σ)} (connects : factory.Connects)
    (settings : Settings) (optionsFirst : Bool) (words : List String) :
    (runWith settings optionsFirst words factory).Unaware := by
  intro earlier
  unfold AccountSync.runWith
  cases Log.threshold settings.logLevel with
  | error defect => exact fun _ => rfl
  | ok threshold =>
    cases CommandLine.parse optionsFirst words with
    | error fault => exact fun _ => rfl
    | ok command =>
      exact through_reported (transparent_since earlier) (connects.serve settings command earlier) _

theorem Script.backend_unaware (realm : Option String) (lineLimit : Int) (depth : Nat) :
    (backend realm lineLimit depth).Unaware := by
  intro request
  have noted := follows_watchedRival strategy closeOne realm lineLimit depth request
  rw [← backend_eq_rival] at noted
  exact noted.unaware (unaware_watchedRival unaware_strategy closeOne realm lineLimit depth request)

theorem Script.connects (realm : Option String) (lineLimit : Int) (depth : Nat)
    (error : Option String) : (connect realm lineLimit depth error).Connects := by
  cases error with
  | some message => exact ⟨fun _ _ => rfl, fun ran => by cases ran⟩
  | none =>
    refine ⟨fun _ _ => rfl, fun ran => ?_⟩
    cases ran
    refine ⟨backend_unaware realm lineLimit depth, ?_⟩
    cases depth <;> exact fun _ _ => rfl

theorem Directory.connects (endpoint : Endpoint) (config : Config) :
    (connect endpoint config).Connects where
  unaware := (connect_detached endpoint config).unaware
  made := by
    intro site backend after ran
    obtain ⟨result, events, memory, runs, _, fits⟩ :=
      connect_detached endpoint config site.peer trivial
    have ended := (runs site rfl).symm.trans ran
    have detached := fits backend (congrArg Prod.fst ended)
    exact ⟨fun request => (detached.perform request).unaware, detached.close.unaware⟩

/-! ### Runs with other settings for the log -/

namespace Collaborator

/-- What a collaborator keeps in mind. -/
def Memory : Collaborator → Type
  | scripted _ _ => Script
  | directory _ => Directory.Connection

def memory : (collaborator : Collaborator) → collaborator.Memory
  | scripted replies _ => Script.start replies
  | directory connection => connection

def factory : (collaborator : Collaborator) → Settings →
    Act collaborator.Memory (Backend collaborator.Memory)
  | scripted replies initError => fun settings =>
    Script.connect settings.realm settings.queueLineLimit.value replies.length initError
  | directory _ => fun settings => Directory.connect settings.endpoint settings.directory

theorem run_eq (collaborator : Collaborator) (settings : Settings) (optionsFirst : Bool)
    (words : List String) (files : Files) :
    collaborator.run settings optionsFirst words files =
      settings.observe ((runWith settings optionsFirst words (collaborator.factory settings)).run
        (.start files collaborator.memory)) := by
  cases collaborator <;> rfl

theorem connects (collaborator : Collaborator) (settings : Settings) :
    (collaborator.factory settings).Connects := by
  cases collaborator with
  | scripted replies initError => exact Script.connects _ _ _ _
  | directory connection => exact Directory.connects _ _

end Collaborator

/-- Settings that differ in the threshold and the rendering of the log at most. -/
def Settings.SameButLogging (settings settings' : Settings) : Prop :=
  { settings with logLevel := settings'.logLevel, logJson := settings'.logJson } = settings'

theorem Settings.SameButLogging.runWith {settings settings' : Settings}
    (same : settings.SameButLogging settings') {threshold threshold' : Nat}
    (leveled : Log.threshold settings.logLevel = .ok threshold)
    (leveled' : Log.threshold settings'.logLevel = .ok threshold') (collaborator : Collaborator)
    (optionsFirst : Bool) (words : List String) :
    runWith settings' optionsFirst words (collaborator.factory settings') =
      runWith settings optionsFirst words (collaborator.factory settings) := by
  have factories : collaborator.factory settings' = collaborator.factory settings := by
    rw [← same]
    cases collaborator <;> rfl
  rw [factories, AccountSync.runWith, AccountSync.runWith, leveled, leveled']
  rw [← same]
  rfl

theorem Settings.SameButLogging.line {settings settings' : Settings}
    (same : settings.SameButLogging settings') (json : settings.logJson = settings'.logJson) :
    settings'.line = settings.line := by
  rw [← same]
  unfold Settings.line
  rw [json]

/-- Runs with settings that differ in logging only end the same, and leave the same files and the same
collaborator with the same calls made, whatever was in the log before; what is seen of them differs in
what the log prints at most. The lines of the run with the higher threshold are those of the other one
whose level reaches that threshold. A threshold by an unknown name is that by `INFO`. -/
theorem logging_unheeded (collaborator : Collaborator) {settings settings' : Settings}
    (same : settings.SameButLogging settings') {threshold threshold' : Nat}
    (leveled : Log.threshold settings.logLevel = .ok threshold)
    (leveled' : Log.threshold settings'.logLevel = .ok threshold') (optionsFirst : Bool)
    (words : List String) (site : Site collaborator.Memory) :
    let conduct (settings : Settings) :=
      (runWith settings optionsFirst words (collaborator.factory settings)).run
    let ended := conduct settings site
    conduct settings' site = ended ∧
      (∀ files, collaborator.run settings' optionsFirst words files =
        { collaborator.run settings optionsFirst words files with
          output := fun time =>
            settings'.output time (collaborator.run settings optionsFirst words files).log }) ∧
      (∀ earlier, conduct settings' (site.since earlier) = (ended.1, ended.2.since earlier)) ∧
      (settings.logJson = settings'.logJson → threshold ≤ threshold' → ∀ time,
        settings'.output time ended.2.log = String.join
          (((settings.written ended.2.log).filter fun r => threshold' ≤ r.level.number).map fun r =>
            settings.line time r ++ "\n")) ∧
      ∀ name, Log.capitals name ∉ Log.knownNames →
        let unknown : Settings := { settings with logLevel := name }
        let info : Settings := { settings with logLevel := "INFO" }
        conduct unknown site = conduct info site ∧ unknown.output = info.output := by
  intro conduct ended
  have conducts : conduct settings' = conduct settings :=
    congrArg Act.run (same.runWith leveled leveled' collaborator optionsFirst words)
  refine ⟨congrFun conducts site, fun files => ?_, fun earlier => ?_, fun json higher time => ?_,
    fun name unknown => ?_⟩
  · rw [Collaborator.run_eq, Collaborator.run_eq, same.runWith leveled leveled']
    rfl
  · rw [conducts]
    exact (collaborator.connects settings).runWith settings optionsFirst words earlier site
  · rw [Settings.output, Settings.written, Settings.written, leveled, leveled', same.line json]
    dsimp only
    rw [Log.written_written higher]
  · have info : Log.threshold "INFO" = .ok Log.defaultThreshold := by cbv
    have defaults := Log.threshold_unknown unknown
    have alike : ({ settings with logLevel := "INFO" } : Settings).SameButLogging
        { settings with logLevel := name } := rfl
    refine ⟨?_, ?_⟩
    · exact congrFun (congrArg Act.run
        (alike.runWith info defaults collaborator optionsFirst words)) site
    · funext time records
      unfold Settings.output Settings.written
      dsimp only
      rw [info, defaults]
      rfl

def Settings.leveled (name : String) (limit : Above 1) : Settings :=
  { Settings.serving "R" limit with logLevel := name }

def Collaborator.refusing : Collaborator := scripted [⟨⟨53, "no"⟩, [], none⟩] none

/-- A drain that is refused, once with the stages of the drain in the log and once with errors only. -/
theorem logging_unheeded_refused :
    let settings := Settings.leveled "debug" ⟨8192, by decide⟩
    let settings' := Settings.leveled "Error" ⟨8192, by decide⟩
    let files : Files := ⟨[(["q"], .file (.ofBytes (Utf8.encode "u\nad\nenable\n")))], [], none⟩
    let conduct (settings : Settings) :=
      (runWith settings false ["-f", "q"] (Collaborator.refusing.factory settings)).run
        (.start files Collaborator.refusing.memory)
    settings.SameButLogging settings' ∧ Log.threshold settings.logLevel = .ok 10 ∧
      Log.threshold settings'.logLevel = .ok 40 ∧ conduct settings' = conduct settings ∧
      (conduct settings).1 = .ok ⟨1, "krb5-sync: AD status change for u failed (53): no\n"⟩ ∧
      (conduct settings).2.log.map (fun r => r.level) = [.debug, .debug, .debug, .error] ∧
      (settings'.written (conduct settings).2.log).map (fun r => r.level) = [.error] := by
  intro settings settings' files conduct
  have same : settings.SameButLogging settings' := rfl
  have leveled : Log.threshold settings.logLevel = .ok 10 := by cbv
  have leveled' : Log.threshold settings'.logLevel = .ok 40 := by cbv
  obtain ⟨conducts, -⟩ := logging_unheeded Collaborator.refusing same leveled leveled' false
    ["-f", "q"] (.start files Collaborator.refusing.memory)
  refine ⟨same, leveled, leveled', conducts, ?_, ?_, ?_⟩
  · unfold conduct files settings
    rfl
  · unfold conduct files settings
    rfl
  · unfold conduct files settings settings'
    rfl

end AccountSync
