import AccountSync.Proofs.Directory.Switch
import AccountSync.Proofs.Drain.Outcome
import AccountSync.Proofs.Files.Unlink

/-!
# Drains that are tried again

A queue file asks to switch an account on or off, and is drained again and again through the
directory backend. A drain may fail at its search, or at the end, when its file cannot be removed.
However many do, the account is switched once and the file goes with the first drain that returns
(`retries_harmless`).
-/

namespace AccountSync.Directory

/-- A drain with what the system and the directory make of it. -/
structure Trial where
  /-- The path by which the file is drained. -/
  file : String
  /-- What every removal is refused with. -/
  refusal : Option OsError
  /-- What the search is answered with in place of the accounts. -/
  search : Option Reply

namespace Trial

def start (trial : Trial) (site : Site Connection) : Site Connection :=
  { site with
    files := { site.files with refusal := trial.refusal }
    peer := { site.peer with search := trial.search.toList } }

def finds (trial : Trial) : Bool := trial.search.isNone

def completes (trial : Trial) : Bool := trial.finds && trial.refusal.isNone

end Trial

/-- Drains one after another: how each ended, and what is left in the end. -/
def trials (c : Controller Connection) :
    Site Connection → List Trial → List (Except Fault Queue.Record) × Site Connection
  | site, [] => ([], site)
  | site, trial :: rest =>
    let (result, next) := (c.drain trial.file).run (trial.start site)
    let (results, last) := trials c next rest
    (result :: results, last)

/-- The drain ended after its call: it returned, or it could not remove its file. -/
def gotPast : Except Fault Queue.Record → Bool
  | .ok _ => true
  | .error (.failure (.cannotUnlink ..)) => true
  | .error _ => false

def Operation.isModify : Operation → Bool
  | .modify .. => true
  | _ => false

/-- A path to an entry of the queue from which this record is read. -/
structure Queued (realm : Option String) (limit : Int) (files : Files) (names : List String)
    (record : Queue.Record) (principal : Principal) (file : String) : Prop where
  clean : file.toList.contains '\x00' = false
  named : files.NamedAt (.ofText file) names
  opens : ∃ source, files.openSource (.ofText file) = .ok source ∧
    ((Queue.Record.readWithin limit file).run source).1 = .ok record
  parses : Principal.parse realm record.principalName = .ok principal

section

variable {realm : Option String} {limit : Int} {files start : Files} {names : List String}
  {record : Queue.Record} {principal : Principal} {file : String}

namespace Queued

variable (queued : Queued realm limit start names record principal file)

include queued

theorem arrives (same : files.SameTree start) :
    arrive realm limit file files = .ready record principal := by
  obtain ⟨source, opened, read⟩ := queued.opens
  apply arrive_ready_iff.mpr
  exact ⟨queued.clean, source, (same.openSource _).trans opened, read, queued.parses⟩

theorem unlink (same : files.SameTree start) : files.unlink (.ofText file) = files.remove names := by
  obtain ⟨source, opened, _⟩ := queued.opens
  have opens : files.openSource (.ofText file) = .ok source := (same.openSource _).trans opened
  exact Files.unlink_opened opens (same.namedAt queued.named)

theorem missing (same : files.SameTree (start.erase names)) :
    arrive realm limit file files = .stopped [] (.failure (.cannotOpen file .noEntry)) := by
  obtain ⟨source, opened, _⟩ := queued.opens
  apply arrive_unopened queued.clean
  rw [same.openSource]
  exact Files.openSource_erased opened queued.named

end Queued

/-- The record asks to switch the account of this name. -/
structure Errand (config : Config) (record : Queue.Record) (principal : Principal) (name : String)
    (enabled : Bool) : Prop where
  asks : record.action = .ofEnabled enabled
  mapped : config.account? principal = some name

/-! ### One drain -/

theorem perform_ofEnabled (config : Config) (realm : Option String) (principal : Principal)
    (enabled : Bool) :
    config.perform ⟨realm, principal, .ofEnabled enabled⟩ = config.changeStatus principal enabled := by
  cases enabled with
  | true => rfl
  | false => rfl

/-- The file is still there, and the directory holds these accounts. -/
structure Standing (start : Files) (directory : List (String × Account)) (site : Site Connection) :
    Prop where
  files : site.files.SameTree start
  serves : Serves directory site.peer

variable {config : Config} {directory : List (String × Account)} {name : String} {account : Account}
  {flags : Int} {enabled : Bool} {site : Site Connection} {trial : Trial}

namespace Standing

variable (standing : Standing start directory site)
  (queued : Queued realm limit start names record principal trial.file)
  (errand : Errand config record principal name enabled)

include standing queued errand

theorem drain_failing {reply : Reply} (prepared : trial.search = some reply)
    (failing : reply.Failing) :
    ∃ status message after,
      (Controller.drain ⟨backend config, realm, limit⟩ trial.file).run (trial.start site) =
        (.error (.failure (.backendRefused record.action.operation record.principalName status message)),
          after) ∧
      Standing start directory after ∧
      after.peer.operations =
        site.peer.operations ++ [.search config.baseDn (userFilter name)] := by
  have begun : (trial.start site).files.SameTree start := standing.files.refuse trial.refusal
  have search : (Controller.reached trial.file (trial.start site)).peer.search = [reply] := by
    simp [Trial.start, prepared]
  obtain ⟨answer, peer, call, refused, frame⟩ :=
    run_changeStatus_failing config search failing errand.mapped enabled
  rw [← perform_ofEnabled config realm, ← errand.asks] at call
  have rejected : ¬ answer.isOk := by simp [refused]
  rw [Controller.run_drain_ready ⟨backend config, realm, limit⟩ (queued.arrives begun) call rfl,
    Controller.settle_refused rejected]
  refine ⟨_, _, _, rfl, ⟨begun, ?_⟩, ?_⟩
  · change Serves directory peer
    rw [frame]
    obtain ⟨_, modify, modifyPassword, accounts⟩ := standing.serves
    exact ⟨rfl, modify, modifyPassword, accounts⟩
  · change peer.operations = _
    rw [frame]
    rfl

/-- How far a drain gets when its search finds the account: only the file is left to be removed. -/
theorem drain_finding (knows : Knows directory name account flags) (prepared : trial.search = none) :
    ∃ log peer,
      (Controller.drain ⟨backend config, realm, limit⟩ trial.file).run (trial.start site) =
        remark (trial.start site).queueFile (Controller.settle trial.file record
          (.ok .success, { Controller.reached trial.file (trial.start site) with log, peer })) ∧
      Serves (switched enabled account flags directory) peer ∧
      peer.operations = site.peer.operations ++
        .search config.baseDn (userFilter name) :: switches enabled account flags := by
  have begun : (trial.start site).files.SameTree start := standing.files.refuse trial.refusal
  have serves : Serves directory (Controller.reached trial.file (trial.start site)).peer := by
    obtain ⟨_, modify, modifyPassword, accounts⟩ := standing.serves
    refine ⟨?_, modify, modifyPassword, accounts⟩
    simp [Trial.start, prepared]
  obtain ⟨log, peer, call, after⟩ := knows.run_changeStatus config serves errand.mapped enabled
  rw [← perform_ofEnabled config realm, ← errand.asks] at call
  rw [Controller.run_drain_ready ⟨backend config, realm, limit⟩ (queued.arrives begun) call rfl]
  exact ⟨log, peer, rfl, after⟩

theorem drain_kept (knows : Knows directory name account flags) (prepared : trial.search = none)
    {why : OsError} (refused : trial.refusal = some why) :
    ∃ after,
      (Controller.drain ⟨backend config, realm, limit⟩ trial.file).run (trial.start site) =
        (.error (.failure (.cannotUnlink trial.file why)), after) ∧
      Standing start (switched enabled account flags directory) after ∧
      after.peer.operations = site.peer.operations ++
        .search config.baseDn (userFilter name) :: switches enabled account flags := by
  have begun : (trial.start site).files.SameTree start := standing.files.refuse trial.refusal
  have unlink : (trial.start site).files.unlink (.ofText trial.file) = .error why := by
    have refusal : (trial.start site).files.refusal = some why := refused
    rw [queued.unlink begun, Files.remove, refusal]
  obtain ⟨log, peer, drained, serves, operations⟩ :=
    standing.drain_finding queued errand knows prepared
  have settled : Controller.settle trial.file record
      (.ok .success, { Controller.reached trial.file (trial.start site) with log, peer }) = _ :=
    Controller.settle_kept rfl unlink
  rw [drained, settled]
  exact ⟨_, rfl, ⟨begun, serves⟩, operations⟩

theorem drain_removed (knows : Knows directory name account flags) (prepared : trial.search = none)
    (allowed : trial.refusal = none) :
    ∃ after,
      (Controller.drain ⟨backend config, realm, limit⟩ trial.file).run (trial.start site) =
        (.ok record, after) ∧
      Standing (start.erase names) (switched enabled account flags directory) after ∧
      after.peer.operations = site.peer.operations ++
        .search config.baseDn (userFilter name) :: switches enabled account flags := by
  have begun : (trial.start site).files.SameTree start := standing.files.refuse trial.refusal
  have unlink : (trial.start site).files.unlink (.ofText trial.file) =
      .ok ((trial.start site).files.erase names) := by
    have refusal : (trial.start site).files.refusal = none := allowed
    rw [queued.unlink begun, Files.remove, refusal]
  obtain ⟨log, peer, drained, serves, operations⟩ :=
    standing.drain_finding queued errand knows prepared
  have settled : Controller.settle trial.file record
      (.ok .success, { Controller.reached trial.file (trial.start site) with log, peer }) = _ :=
    Controller.settle_removed rfl unlink
  rw [drained, settled]
  exact ⟨_, rfl, ⟨begun.erase names, serves⟩, operations⟩

end Standing

/-! ### Drains one after another -/

variable {plan rest : List Trial}

theorem trials_cons {c : Controller Connection} {result : Except Fault Queue.Record}
    {next : Site Connection} (drained : (c.drain trial.file).run (trial.start site) = (result, next)) :
    trials c site (trial :: rest) =
      (result :: (trials c next rest).1, (trials c next rest).2) := by
  rw [trials, drained]

/-- What drains of a file have come to, if the account had these flags when they began. -/
structure Retried (start : Files) (names : List String) (enabled : Bool) (account : Account)
    (flags : Int) (directory : List (String × Account)) (site : Site Connection) (plan : List Trial)
    (results : List (Except Fault Queue.Record)) (last : Site Connection) : Prop where
  past : results.any gotPast = plan.any Trial.finds
  returned : results.any Except.isOk = plan.any Trial.completes
  files : last.files.SameTree (if plan.any Trial.completes then start.erase names else start)
  accounts : last.peer.accounts =
    (if plan.any Trial.finds then switched enabled account flags directory else directory).map
      fun named => (escape named.1, named.2)
  operations : ∃ made, last.peer.operations = site.peer.operations ++ made ∧
    made.countP Operation.isModify ≤ (switches enabled account flags).length

namespace Retried

variable {results : List (Except Fault Queue.Record)} {next last : Site Connection} {fault : Fault}

/-- A drain whose search failed, and the ones after it. -/
theorem failed (retried : Retried start names enabled account flags directory next rest results last)
    (lost : trial.finds = false) (stopped : gotPast (.error fault) = false)
    (asked : next.peer.operations =
      site.peer.operations ++ [.search config.baseDn (userFilter name)]) :
    Retried start names enabled account flags directory site (trial :: rest)
      (.error fault :: results) last := by
  have unfinished : trial.completes = false := by simp [Trial.completes, lost]
  obtain ⟨past, returned, files, accounts, made, also, few⟩ := retried
  refine ⟨?_, ?_, ?_, ?_, .search config.baseDn (userFilter name) :: made, ?_, ?_⟩
  · rw [List.any_cons, List.any_cons, stopped, lost, past]
  · rw [List.any_cons, List.any_cons, unfinished, returned]
    rfl
  · rw [List.any_cons, unfinished]
    exact files
  · rw [List.any_cons, lost]
    exact accounts
  · rw [also, asked, List.append_assoc]
    rfl
  · exact few

/-- A drain that could not remove its file, and the ones after it: they find the account switched. -/
theorem kept {later : Account}
    (retried : Retried start names enabled later (toggled enabled flags)
      (switched enabled account flags directory) next rest results last)
    (found : trial.finds = true) (unfinished : trial.completes = false)
    (passed : gotPast (.error fault) = true)
    (asked : next.peer.operations = site.peer.operations ++
      .search config.baseDn (userFilter name) :: switches enabled account flags) :
    Retried start names enabled account flags directory site (trial :: rest)
      (.error fault :: results) last := by
  obtain ⟨past, returned, files, accounts, made, also, few⟩ := retried
  rw [switched_toggled, ite_self] at accounts
  rw [switches_toggled, List.length_nil, Nat.le_zero] at few
  refine ⟨?_, ?_, ?_, ?_,
    .search config.baseDn (userFilter name) :: switches enabled account flags ++ made, ?_, ?_⟩
  · rw [List.any_cons, List.any_cons, passed, found, Bool.true_or, Bool.true_or]
  · rw [List.any_cons, List.any_cons, unfinished, returned]
    rfl
  · rw [List.any_cons, unfinished]
    exact files
  · rw [List.any_cons, found]
    exact accounts
  · rw [also, asked, List.append_assoc]
  · rw [List.countP_append, few, Nat.add_zero]
    exact List.countP_le_length (l := switches enabled account flags)

end Retried

theorem drain_missing (c : Controller Connection) (missing : site.files.SameTree (start.erase names))
    (queued : Queued c.realm c.lineLimit start names record principal trial.file) :
    ∃ after, (c.drain trial.file).run (trial.start site) =
        (.error (.failure (.cannotOpen trial.file .noEntry)), after) ∧
      after.files.SameTree (start.erase names) ∧
      after.peer.accounts = site.peer.accounts ∧ after.peer.operations = site.peer.operations := by
  have begun : (trial.start site).files.SameTree (start.erase names) := missing.refuse trial.refusal
  rw [Controller.run_drain_stopped c (queued.missing begun)]
  exact ⟨_, rfl, begun, rfl, rfl⟩

/-- Once the file is gone, nothing else happens. -/
theorem trials_missing (c : Controller Connection) (missing : site.files.SameTree (start.erase names))
    (queued : ∀ trial ∈ plan, Queued c.realm c.lineLimit start names record principal trial.file) :
    (trials c site plan).1.any gotPast = false ∧ (trials c site plan).1.any Except.isOk = false ∧
      (trials c site plan).2.files.SameTree (start.erase names) ∧
      (trials c site plan).2.peer.accounts = site.peer.accounts ∧
      (trials c site plan).2.peer.operations = site.peer.operations := by
  induction plan generalizing site with
  | nil => exact ⟨rfl, rfl, missing, rfl, rfl⟩
  | cons trial rest ih =>
    obtain ⟨first, others⟩ := List.forall_mem_cons.mp queued
    obtain ⟨next, drained, left, accounts, operations⟩ := drain_missing c missing first
    obtain ⟨past, returned, files, kept, asked⟩ := ih left others
    rw [trials_cons drained]
    exact ⟨past, returned, files, kept.trans accounts, asked.trans operations⟩

theorem trials_standing (standing : Standing start directory site)
    (knows : Knows directory name account flags)
    (errand : Errand config record principal name enabled)
    (queued : ∀ trial ∈ plan, Queued realm limit start names record principal trial.file)
    (failing : ∀ trial ∈ plan, ∀ reply ∈ trial.search, reply.Failing) :
    Retried start names enabled account flags directory site plan
      (trials ⟨backend config, realm, limit⟩ site plan).1
      (trials ⟨backend config, realm, limit⟩ site plan).2 := by
  -- the account and its flags are free: after one change the rest is about the switched account
  induction plan generalizing site directory account flags with
  | nil => exact ⟨rfl, rfl, standing.files, standing.serves.accounts, [], by simp [trials], by simp⟩
  | cons trial rest ih =>
    obtain ⟨first, others⟩ := List.forall_mem_cons.mp queued
    obtain ⟨fails, later⟩ := List.forall_mem_cons.mp failing
    cases prepared : trial.search with
    | some reply =>
      obtain ⟨status, message, next, drained, stands, asked⟩ :=
        standing.drain_failing first errand prepared (fails reply prepared)
      have lost : trial.finds = false := by simp [Trial.finds, prepared]
      rw [trials_cons drained]
      exact (ih stands knows others later).failed lost rfl asked
    | none =>
      have found : trial.finds = true := by simp [Trial.finds, prepared]
      cases refusal : trial.refusal with
      | some why =>
        obtain ⟨next, drained, stands, asked⟩ :=
          standing.drain_kept first errand knows prepared refusal
        obtain ⟨_, switched⟩ := knows.switched enabled
        have unfinished : trial.completes = false := by simp [Trial.completes, refusal]
        rw [trials_cons drained]
        exact (ih stands switched others later).kept found unfinished rfl asked
      | none =>
        obtain ⟨next, drained, stands, asked⟩ :=
          standing.drain_removed first errand knows prepared refusal
        have finished : trial.completes = true := by simp [Trial.completes, found, refusal]
        obtain ⟨_, _, files, accounts, operations⟩ :=
          trials_missing ⟨backend config, realm, limit⟩ stands.files others
        rw [trials_cons drained]
        refine ⟨?_, ?_, ?_, ?_,
          .search config.baseDn (userFilter name) :: switches enabled account flags, ?_, ?_⟩
        · rw [List.any_cons, List.any_cons, found]
          rfl
        · rw [List.any_cons, List.any_cons, finished]
          rfl
        · rw [List.any_cons, finished]
          exact files
        · rw [List.any_cons, found]
          exact accounts.trans stands.serves.accounts
        · exact operations.trans asked
        · exact List.countP_le_length (l := switches enabled account flags)

end

/-! ### Retries -/

theorem switches_length (enabled : Bool) (account : Account) (flags : Int) :
    (switches enabled account flags).length ≤ 1 := by
  unfold switches
  split
  · exact Nat.zero_le 1
  · exact Nat.le_refl 1

/-- However often a file is drained, and whatever its drains fail with: once one of them got past its
call, the directory is as a single drain leaves it, with one write at most. Until the first drain
that returns, all files are as they were, and from then on this one is absent. -/
theorem retries_harmless (config : Config) {directory : List (String × Account)}
    {site : Site Connection} (serves : Serves directory site.peer)
    (names : (directory.map fun named => named.1).Nodup)
    (dns : (directory.map fun named => named.2.dn).Nodup)
    (readable : ∀ named ∈ directory, ∃ flags, readFlags named.2.control = .ok flags ∧
      (Nat.toDigits 10 flags.natAbs).length < Text.maxDigits)
    {record : Queue.Record} {enabled : Bool} (asks : record.action = .ofEnabled enabled)
    {principal : Principal} {name : String} (mapped : config.account? principal = some name)
    {account : Account} (present : directory.lookup name = some account)
    {realm : Option String} {limit : Int} {place : List String} {file : String}
    (queued : Queued realm limit site.files place record principal file) (plan : List Trial)
    (again : ∀ trial ∈ plan, Queued realm limit site.files place record principal trial.file)
    (failing : ∀ trial ∈ plan, ∀ reply ∈ trial.search, reply.Failing) :
    let c : Controller Connection := ⟨backend config, realm, limit⟩
    let once := (c.drain file).run (Trial.start ⟨file, none, none⟩ site)
    let results := (trials c site plan).1
    let last := (trials c site plan).2
    once.1 = .ok record ∧
      results.any gotPast = plan.any Trial.finds ∧
      results.any Except.isOk = plan.any Trial.completes ∧
      last.peer.accounts = (if results.any gotPast then once.2.peer.accounts else site.peer.accounts) ∧
      (∃ made, last.peer.operations = site.peer.operations ++ made ∧
        made.countP Operation.isModify ≤ 1) ∧
      (∀ other, last.files.get? other =
        if results.any Except.isOk ∧ other = place then none else site.files.get? other) ∧
      last.files.openSource (.ofText file) =
        if results.any Except.isOk then .error .noEntry else site.files.openSource (.ofText file) := by
  intro c once results last
  obtain ⟨flags, knows⟩ := exists_knows names dns readable present
  have standing : Standing site.files directory site := ⟨.refl site.files, serves⟩
  have errand : Errand config record principal name enabled := ⟨asks, mapped⟩
  let alone : Trial := ⟨file, none, none⟩
  have reads : Queued realm limit site.files place record principal alone.file := queued
  obtain ⟨single, drained, stands, _⟩ := standing.drain_removed reads errand knows rfl rfl
  have retried := trials_standing standing knows errand again failing
  change Retried _ _ _ _ _ _ _ _ results last at retried
  obtain ⟨past, returned, files, accounts, made, asked, few⟩ := retried
  have done : once = (.ok record, single) := drained
  rw [done]
  obtain ⟨source, opened, _⟩ := queued.opens
  refine ⟨rfl, past, returned, ?_, ⟨made, asked, few.trans (switches_length _ _ _)⟩, ?_, ?_⟩
  · rw [accounts, past, stands.serves.accounts, serves.accounts]
    split
    · rfl
    · rfl
  · intro other
    rw [files.get?, returned]
    cases plan.any Trial.completes with
    | false => simp
    | true => simpa using Files.get?_erased opened queued.named other
  · rw [files.openSource, returned]
    cases plan.any Trial.completes with
    | false => rfl
    | true => exact Files.openSource_erased opened queued.named

/-- Two drains fail, the second one after its call, the third one returns by another path, and the
fourth one finds no file. -/
theorem retries_harmless_twice :
    let config : Config := ⟨"DC=example", none, 64⟩
    let files : Files :=
      ⟨[(["d"], .folder), (["d", "q"], .file (.ofBytes (Utf8.encode "u\nad\ndisable\n")))], [], none⟩
    let directory : List (String × Account) := [("u", ⟨"CN=u", .integer 512⟩)]
    let site := Site.start files
      (Connection.start (directory.map fun named => (escape named.1, named.2)))
    let plan : List Trial :=
      [⟨"d/q", none, some (.ldapError "timed out")⟩, ⟨"d/q", some .busy, none⟩, ⟨"./d//q", none, none⟩,
        ⟨"d/q", none, none⟩]
    (trials ⟨backend config, some "R", 16⟩ site plan).1.any Except.isOk ∧
      (trials ⟨backend config, some "R", 16⟩ site plan).2.peer.accounts =
        ((Controller.drain ⟨backend config, some "R", 16⟩ "d/q").run
          (Trial.start ⟨"d/q", none, none⟩ site)).2.peer.accounts ∧
      (trials ⟨backend config, some "R", 16⟩ site plan).2.files.get? ["d", "q"] = none := by
  intro config files directory site plan
  have queued : ∀ file, file = "d/q" ∨ file = "./d//q" →
      Queued (some "R") 16 site.files ["d", "q"] ⟨"u", .activeDirectory, .disable⟩ ⟨["u"], "R"⟩ file := by
    rintro file (rfl | rfl)
    · exact ⟨by decide, ⟨_, rfl⟩, ⟨_, rfl, rfl⟩, rfl⟩
    · exact ⟨by decide, ⟨_, rfl⟩, ⟨_, rfl, rfl⟩, rfl⟩
  have readable : ∀ named ∈ directory, ∃ flags, readFlags named.2.control = .ok flags ∧
      (Nat.toDigits 10 flags.natAbs).length < Text.maxDigits := by
    intro named member
    have same := List.mem_singleton.mp member
    subst same
    exact ⟨512, rfl, by decide⟩
  have again : ∀ trial ∈ plan, trial.file = "d/q" ∨ trial.file = "./d//q" := by
    intro trial member
    simp only [plan, List.mem_cons, List.not_mem_nil, or_false] at member
    rcases member with rfl | rfl | rfl | rfl <;> simp
  have failing : ∀ trial ∈ plan, ∀ reply ∈ trial.search, reply.Failing := by
    intro trial member reply prepared
    simp only [plan, List.mem_cons, List.not_mem_nil, or_false] at member
    rcases member with rfl | rfl | rfl | rfl
    · cases prepared
      exact trivial
    · cases prepared
    · cases prepared
    · cases prepared
  have serves : Serves directory site.peer := ⟨rfl, rfl, rfl, rfl⟩
  have disables : (⟨"u", .activeDirectory, .disable⟩ : Queue.Record).action = .ofEnabled false := rfl
  have mapped : config.account? ⟨["u"], "R"⟩ = some "u" := rfl
  have present : directory.lookup "u" = some ⟨"CN=u", .integer 512⟩ := rfl
  obtain ⟨_, past, returned, accounts, _, left, _⟩ :=
    retries_harmless config serves (by decide) (by decide) readable disables mapped present
      (queued "d/q" (.inl rfl)) plan (fun trial member => queued trial.file (again trial member)) failing
  have got : plan.any Trial.finds = true := rfl
  have done : plan.any Trial.completes = true := rfl
  rw [done] at returned
  rw [past, got, if_pos rfl] at accounts
  refine ⟨returned, accounts, (left ["d", "q"]).trans ?_⟩
  exact if_pos ⟨returned, rfl⟩

end AccountSync.Directory
