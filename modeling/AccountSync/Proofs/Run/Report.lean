import AccountSync.Proofs.Run.Accomplished
import AccountSync.Proofs.Run.Agreement

/-!
# What a run reports

A run returns zero exactly if its command was carried out to the end, and then says nothing. If it
returns one, a failure stopped it, which it reports in one line and, unless the line is about the
command line itself, in one last record (`exit_exact`).
-/

namespace AccountSync

variable {σ : Type}

/-- The backend was made, and the command was carried out with it. -/
structure Done (settings : Settings) (factory : Act σ (Backend σ)) (command : Command) (site : Site σ)
    (after : Site (Journal × σ)) : Prop where
  made : ∃ b, (factory.run site).1 = .ok b
  accomplished : Accomplished settings.realm settings.queueLineLimit.value command site.files
    after.files after.peer.1.made

section

variable {memories : σ → Prop} {factory : Act σ (Backend σ)} {settings : Settings}
  {command : Command} {site : Site σ}
  (confined : factory.Confined memories (fun _ => True) (Backend.Confined memories fun _ => True))

include confined

/-- Closing the backend adds no fault to those that came before it. -/
theorem serve_result {threshold : Nat} (leveled : Log.threshold settings.logLevel = .ok threshold)
    (command : Command) (site : Site σ) (known : memories site.peer) :
    ((serve settings factory command).run site).1 =
      ((undertake settings factory command).run site).1.map fun _ => () := by
  rw [run_undertake leveled, serve, Act.run_bind]
  obtain ⟨events, memory, left, _, kept, _, fits⟩ := confined site known
  generalize factory.run site = begun at left fits
  obtain ⟨made, after⟩ := begun
  obtain rfl : after = site.absorb events memory := left
  cases made with
  | error fault => rfl
  | ok b =>
    have routed := route_kept (fits b rfl) (fun _ => trivial) settings.realm
      settings.queueLineLimit.value command (site.absorb events memory) (fun _ _ _ _ _ => trivial) kept
    dsimp only
    rw [(fits b rfl).close.run_ensuring routed.known]
    generalize (route b settings.realm settings.queueLineLimit.value command).run _ = ended
    obtain ⟨result, last⟩ := ended
    cases result <;> rfl

theorem serve_done_iff (known : memories site.peer) :
    let ran := (serve settings (watchFactory factory) command).run site.watched
    ran.1 = .ok () ↔ Done settings factory command site ran.2 := by
  have forgotten : site.watched.forget = site := rfl
  rw [run_serve_watched, forgotten]
  obtain ⟨events, memory, left, _, kept, _, fits⟩ := confined site known
  cases begun : factory.run site with
  | mk made after =>
  rw [begun] at left fits
  obtain rfl : after = site.absorb events memory := left
  cases made with
  | error fault =>
    refine ⟨fun returned => (by cases returned), fun done => ?_⟩
    obtain ⟨b, made⟩ := done.made
    rw [begun] at made
    cases made
  | ok b =>
    have passed := run_watched_work (fits b rfl) settings.realm settings.queueLineLimit.value command
      (site.absorb events memory) kept
    exact passed.trans ⟨fun accomplished => ⟨⟨b, congrArg Prod.fst begun⟩, accomplished⟩,
      fun done => done.accomplished⟩

/-- What is known of a served command: it succeeds exactly if it was carried out, stops as it would
without a journal, and logs no report itself. -/
theorem serve_watched {threshold : Nat} (leveled : Log.threshold settings.logLevel = .ok threshold)
    (command : Command) (files : Files) {memory : σ} (known : memories memory) :
    let site := Site.start files memory
    let ran := (serve settings (watchFactory factory) command).run site.watched
    (ran.1 = .ok () ↔ Done settings factory command site ran.2) ∧
      ran.1 = ((undertake settings factory command).run site).1.map (fun _ => ()) ∧
      ran.2.Unreported ∧ ran.2.queueFile = none := by
  intro site ran
  have follows : (serve settings factory command).run site = ran.map id Site.forget :=
    follows_serve settings factory command site.watched
  have result := serve_result confined leveled command site known
  have kept := serve_kept confined (fun _ => trivial) settings command site
    (fun _ _ _ _ _ => trivial) known
  rw [follows] at result kept
  exact ⟨serve_done_iff confined known, result, kept.plain (List.forall_mem_nil _), kept.mark⟩

end

/-! ### Status, diagnostic and report -/

def Failure.report (f : Failure) : Log.Record := ⟨.syncFailed f.message f.kind, none⟩

/-- Status and diagnostic of a run that began at `site`, returned `exit` and left `after`. -/
structure Diagnosed (settings : Settings) (optionsFirst : Bool) (words : List String)
    (factory : Act σ (Backend σ)) (site : Site σ) (exit : Exit) (after : Site (Journal × σ)) :
    Prop where
  status : exit.status = 0 ∨ exit.status = 1
  success : exit.status = 0 ↔ ∃ command,
    CommandLine.parse optionsFirst words = .ok command ∧ Done settings factory command site after
  silent : exit.status = 0 → exit.stderr = "" ∧ after.Unreported
  failure : exit.status = 1 ↔ (∃ fault, CommandLine.parse optionsFirst words = .error fault) ∨
    ∃ command f, CommandLine.parse optionsFirst words = .ok command ∧
      ((undertake settings factory command).run site).1 = .error (.failure f)
  usage : ∀ fault, CommandLine.parse optionsFirst words = .error fault →
    exit.stderr = (fault.usage? settings.programName).getD
        (settings.programName ++ ": " ++ fault.message) ++ "\n" ∧
      after = site.watched
  /-- The report is the last record, and is written if the log's level admits errors. -/
  report : ∀ command f, CommandLine.parse optionsFirst words = .ok command →
    ((undertake settings factory command).run site).1 = .error (.failure f) →
    exit.stderr = settings.programName ++ ": " ++ f.message ++ "\n" ∧ ∃ earlier,
      after.log = earlier ++ [f.report] ∧ (∀ record ∈ earlier, ¬ record.event.isReport) ∧
      ∀ threshold, Log.threshold settings.logLevel = .ok threshold →
        settings.written after.log = settings.written earlier ++
          if threshold ≤ Log.Level.error.number then [f.report] else []

theorem Failure.log_report (f : Failure) {after : Site (Journal × σ)} (unmarked : after.queueFile = none) :
    (after.note (.syncFailed f.message f.kind)).log = after.log ++ [f.report] := by
  unfold Site.note Failure.report
  rw [unmarked]

theorem error_of_map {α β : Type} {g : α → β} {result : Except Fault α} {fault : Fault}
    (mapped : result.map g = .error fault) : result = .error fault := by
  cases result with
  | ok a => cases mapped
  | error other =>
    cases mapped
    rfl

theorem written_report {settings : Settings} {threshold : Nat}
    (leveled : Log.threshold settings.logLevel = .ok threshold) (earlier : List Log.Record)
    (f : Failure) :
    settings.written (earlier ++ [f.report]) = settings.written earlier ++
      if threshold ≤ Log.Level.error.number then [f.report] else [] := by
  have level : f.report.level = .error := rfl
  unfold Settings.written
  rw [leveled]
  dsimp only
  rw [Log.written, List.filter_append, List.filter_cons, level, List.filter_nil, Log.written]
  simp only [decide_eq_true_eq]

section

variable {settings : Settings} {optionsFirst : Bool} {words : List String}
  {factory : Act σ (Backend σ)} {site : Site σ}

theorem diagnosed_refused {fault : CommandLine.Fault}
    (refused : CommandLine.parse optionsFirst words = .error fault) :
    Diagnosed settings optionsFirst words factory site
      (.refusal (fault.report settings.programName)) site.watched where
  status := .inr rfl
  success := by
    refine ⟨fun zero => (by cases zero), ?_⟩
    rintro ⟨command, parsed, _⟩
    cases refused.symm.trans parsed
  silent zero := by cases zero
  failure := ⟨fun _ => .inl ⟨fault, refused⟩, fun _ => rfl⟩
  usage := by
    intro other again
    cases refused.symm.trans again
    refine ⟨?_, rfl⟩
    unfold Exit.refusal CommandLine.Fault.report
    cases fault.usage? settings.programName <;> rfl
  report := by
    intro command f parsed
    cases refused.symm.trans parsed

theorem diagnosed_done {command : Command} {after : Site (Journal × σ)}
    (parsed : CommandLine.parse optionsFirst words = .ok command)
    (done : Done settings factory command site after)
    (ended : ((undertake settings factory command).run site).1.map (fun _ => ()) = .ok ())
    (plain : after.Unreported) :
    Diagnosed settings optionsFirst words factory site .success after where
  status := .inl rfl
  success := ⟨fun _ => ⟨command, parsed, done⟩, fun _ => rfl⟩
  silent _ := ⟨rfl, plain⟩
  failure := by
    refine ⟨fun zero => (by cases zero), ?_⟩
    rintro (⟨fault, refused⟩ | ⟨other, f, again, failed⟩)
    · cases parsed.symm.trans refused
    · cases parsed.symm.trans again
      rw [failed] at ended
      cases ended
  usage := by
    intro fault refused
    cases parsed.symm.trans refused
  report := by
    intro other f again failed
    cases parsed.symm.trans again
    rw [failed] at ended
    cases ended

theorem diagnosed_failed {command : Command} {after : Site (Journal × σ)} {f : Failure}
    (parsed : CommandLine.parse optionsFirst words = .ok command)
    (undone : ¬ Done settings factory command site after)
    (ended : ((undertake settings factory command).run site).1.map (fun _ => ()) =
      .error (.failure f))
    (plain : after.Unreported) (unmarked : after.queueFile = none) :
    Diagnosed settings optionsFirst words factory site
      (.refusal (settings.programName ++ ": " ++ f.message))
      (after.note (.syncFailed f.message f.kind)) where
  status := .inr rfl
  success := by
    refine ⟨fun zero => (by cases zero), ?_⟩
    rintro ⟨other, again, done⟩
    cases parsed.symm.trans again
    exact (undone ⟨done.made, done.accomplished⟩).elim
  silent zero := by cases zero
  failure := ⟨fun _ => .inr ⟨command, f, parsed, error_of_map ended⟩, fun _ => rfl⟩
  usage := by
    intro fault refused
    cases parsed.symm.trans refused
  report := by
    intro other g again same
    cases parsed.symm.trans again
    cases (error_of_map ended).symm.trans same
    refine ⟨rfl, after.log, f.log_report unmarked, plain, fun threshold leveled => ?_⟩
    rw [f.log_report unmarked]
    exact written_report leveled after.log f

end

/-- Whatever the backend answers and raises: a run that returns, returns zero exactly if its command
was carried out, and is silent then; and it returns one exactly if a failure stopped it, of which its
line and its report tell. -/
theorem exit_exact {memories : σ → Prop} {factory : Act σ (Backend σ)}
    (confined : factory.Confined memories (fun _ => True) (Backend.Confined memories fun _ => True))
    {memory : σ} (known : memories memory) (settings : Settings) (optionsFirst : Bool)
    (words : List String) (files : Files) :
    let site := Site.start files memory
    let ran := (runWith settings optionsFirst words (watchFactory factory)).run site.watched
    (runWith settings optionsFirst words factory).run site = ran.map id Site.forget ∧
      ∀ exit, ran.1 = .ok exit →
        Diagnosed settings optionsFirst words factory site exit ran.2 := by
  intro site ran
  refine ⟨follows_runWith settings factory optionsFirst words site.watched, fun exit returned => ?_⟩
  change ((runWith settings optionsFirst words (watchFactory factory)).run site.watched).1 = _ at returned
  change Diagnosed _ _ _ _ _ _
    ((runWith settings optionsFirst words (watchFactory factory)).run site.watched).2
  cases leveled : Log.threshold settings.logLevel with
  | error defect =>
    rw [runWith, leveled] at returned
    cases returned
  | ok threshold =>
    cases parsed : CommandLine.parse optionsFirst words with
    | error fault =>
      rw [runWith_refused leveled parsed] at returned ⊢
      cases returned
      exact diagnosed_refused parsed
    | ok command =>
      rw [runWith_parsed leveled parsed, run_reported] at returned ⊢
      obtain ⟨done, ended, plain, unmarked⟩ :=
        serve_watched confined leveled command files known
      generalize (serve settings (watchFactory factory) command).run site.watched = served
        at returned done ended plain unmarked ⊢
      obtain ⟨result, after⟩ := served
      cases result with
      | ok _ =>
        cases returned
        exact diagnosed_done parsed (done.mp rfl) ended.symm plain
      | error fault =>
        cases fault with
        | defect d => cases returned
        | failure f =>
          cases returned
          exact diagnosed_failed parsed (fun all => by cases done.mpr all) ended.symm plain unmarked

/-! ### Scripted backends -/

namespace Script

theorem respond_confined (drain : String → Act Script Queue.Record) (request : Request) :
    (respond drain request).Confined Still (fun _ => True) fun _ => True := by
  refine .get_bind fun site still => ?_
  obtain ⟨effects, rest⟩ := still.take request
  generalize site.peer.take request = taken at effects rest
  refine .bind (.modify (g := fun _ => taken.2) (fun _ => rfl) fun _ _ => rest) fun _ _ => ?_
  have idle : (taken.1.effects.forM (runEffect drain)).Confined Still (fun _ => True)
      fun _ => True := by
    rw [effects]
    exact .pure trivial
  refine .bind idle fun _ _ => ?_
  split
  · exact .throw trivial
  · exact .pure trivial

theorem backend_confined (realm : Option String) (lineLimit : Int) (depth : Nat) :
    (backend realm lineLimit depth).Confined Still fun _ => True := by
  let count (s : Script) : Script := { s with closed := s.closed + 1 }
  have closes : closeOne.Confined Still (fun _ => False) fun _ => True :=
    .modify (g := count) (fun _ => rfl) fun _ still => still
  cases depth with
  | zero => exact ⟨fun request _ => respond_confined _ request, closes⟩
  | succ depth => exact ⟨fun request _ => respond_confined _ request, closes⟩

theorem connect_confined (realm : Option String) (lineLimit : Int) (depth : Nat)
    (error : Option String) :
    (connect realm lineLimit depth error).Confined Still (fun _ => True)
      (Backend.Confined Still fun _ => True) := by
  unfold connect
  split
  · exact .throw trivial
  · let note (s : Script) : Script := { s with opened := s.opened ++ [realm] }
    refine .bind (.modify (g := note) (fun _ => rfl) fun _ still => still) fun _ _ => ?_
    exact .pure (backend_confined realm lineLimit depth)

end Script

/-- The second of two actions is refused. -/
theorem exit_exact_refused :
    let settings := Settings.serving "R" ⟨8192, by decide⟩
    let factory := Script.connect (some "R") 8192 2 none
    let script := Script.start [.success, ⟨⟨53, "no"⟩, [], none⟩]
    let exit : Exit := ⟨1, "krb5-sync: AD status change for u failed (53): no\n"⟩
    let site := Site.start (.empty []) script
    let ran := (runWith settings false ["-e", "-px", "u"] (watchFactory factory)).run site.watched
    factory.Confined Script.Still (fun _ => True) (Backend.Confined Script.Still fun _ => True) ∧
      script.Still ∧ ran.1 = .ok exit ∧
      Diagnosed settings false ["-e", "-px", "u"] factory site exit ran.2 := by
  have confined := Script.connect_confined (some "R") 8192 2 none
  have still : (Script.start [.success, ⟨⟨53, "no"⟩, [], none⟩]).Still := by
    intro reply member
    rcases List.mem_cons.mp member with rfl | last
    · rfl
    · rw [List.mem_singleton.mp last]
  obtain ⟨_, diagnosed⟩ := exit_exact confined still (.serving "R" ⟨8192, by decide⟩) false
    ["-e", "-px", "u"] (.empty [])
  refine ⟨confined, still, ?returned, diagnosed _ ?returned⟩
  rfl

end AccountSync
