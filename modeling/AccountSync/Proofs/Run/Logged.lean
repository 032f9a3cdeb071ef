import AccountSync.Proofs.Directory.Operations
import AccountSync.Run
import AccountSync.Script

/-!
# What is logged

A step logs events of a kind if all records that it adds to the log are of such events. The
directory's backend logs no more than that an account is as it should be already (`logs_perform`), and
whatever a run of the tool logs with this backend or a scripted one is its own
(`own_runWith`).
-/

namespace AccountSync

variable {σ α β : Type}

/-! ### Events of a kind -/

/-- The second log is the first one with records of allowed events after it. -/
def Site.Adds (allowed : Log.Event → Prop) (s t : Site σ) : Prop :=
  ∃ records, t.log = s.log ++ records ∧ ∀ record ∈ records, allowed record.event

/-- From wherever the step is made, what it adds to the log is allowed. -/
def Act.Logs (allowed : Log.Event → Prop) (x : Act σ α) : Prop :=
  ∀ site : Site σ, site.Adds allowed (x.run site).2

namespace Site.Adds

variable {allowed : Log.Event → Prop} {s t u : Site σ}

theorem of_log (same : t.log = s.log) : s.Adds allowed t :=
  ⟨[], same.trans (List.append_nil _).symm, List.forall_mem_nil _⟩

theorem trans (first : s.Adds allowed t) (second : t.Adds allowed u) : s.Adds allowed u := by
  obtain ⟨records, log, each⟩ := first
  obtain ⟨more, later, others⟩ := second
  refine ⟨records ++ more, by rw [later, log, List.append_assoc], fun record member => ?_⟩
  exact (List.mem_append.mp member).elim (each record) (others record)

end Site.Adds

namespace Act.Logs

variable {allowed : Log.Event → Prop}

theorem of_log {x : Act σ α} (kept : ∀ site, (x.run site).2.log = site.log) : x.Logs allowed :=
  fun site => .of_log (kept site)

theorem emit {event : Log.Event} (may : allowed event) : (Act.emit event : Act σ Unit).Logs allowed := by
  refine fun site => ⟨[⟨event, site.queueFile⟩], rfl, fun record member => ?_⟩
  rw [List.mem_singleton.mp member]
  exact may

theorem bind {x : Act σ α} {f : α → Act σ β} (first : x.Logs allowed)
    (next : ∀ a, (f a).Logs allowed) : (x >>= f).Logs allowed := by
  intro site
  have before := first site
  rw [run_bind]
  generalize x.run site = ran at before
  obtain ⟨result, after⟩ := ran
  cases result with
  | error fault => exact before
  | ok a => exact before.trans (next a after)

theorem get_bind {f : Site σ → Act σ α} (each : ∀ site, (f site).Logs allowed) :
    (get >>= f).Logs allowed := fun site => each site site

theorem discard {x : Act σ α} (logs : x.Logs allowed) : (discard x : Act σ Unit).Logs allowed := by
  have dropped : (x >>= fun _ => pure () : Act σ Unit).Logs allowed :=
    logs.bind fun _ => .of_log fun _ => rfl
  exact dropped

theorem forM {items : List α} {f : α → Act σ Unit} (each : ∀ a, (f a).Logs allowed) :
    (items.forM f).Logs allowed := by
  induction items with
  | nil => exact .of_log fun _ => rfl
  | cons item rest ih => exact (each item).bind fun _ => ih

theorem marked {x : Act σ α} (logs : x.Logs allowed) (file : String) :
    (Act.marked file x).Logs allowed := by
  intro site
  exact logs { site with queueFile := some file }

theorem ensuring {x cleanup : Act σ Unit} {site : Site σ} (logs : site.Adds allowed (x.run site).2)
    (cleans : cleanup.Logs allowed) : site.Adds allowed ((x.ensuring cleanup).run site).2 := by
  change site.Adds allowed (Act.ensuring x cleanup site).2
  unfold Act.ensuring
  generalize x.run site = ran at logs
  obtain ⟨result, after⟩ := ran
  have cleaned := logs.trans (cleans after)
  dsimp only
  generalize cleanup.run after = last at cleaned
  obtain ⟨result', after'⟩ := last
  cases result' <;> exact cleaned

theorem onFailure {x : Act σ α} {handle : Act σ Unit} (logs : x.Logs allowed)
    (handles : handle.Logs allowed) : (x.onFailure handle).Logs allowed := by
  intro site
  have before := logs site
  change site.Adds allowed (Act.onFailure x handle site).2
  unfold Act.onFailure
  generalize x.run site = ran at before
  obtain ⟨(failure | defect) | a, after⟩ := ran
  · have handled := before.trans (handles after)
    dsimp only
    generalize handle.run after = last at handled
    obtain ⟨result', after'⟩ := last
    cases result' <;> exact handled
  · exact before
  · exact before

end Act.Logs

/-! ### The directory's backend -/

namespace Directory

section

variable {allowed : Log.Event → Prop}

theorem logs_readable (read : Except Value.Fault α) : (readable read).Logs allowed :=
  .of_log fun site => by rw [site_readable]

theorem logs_call (op : Operation) : (call op).Logs allowed :=
  .of_log fun site => by rw [run_call]

theorem logs_apply (config : Config) (op : Operation) : (config.apply op).Logs allowed := by
  refine .bind (logs_call op) fun outcome => ?_
  cases outcome with
  | error text => exact .of_log fun _ => rfl
  | ok value => exact .of_log fun site => by rw [site_lastAnswer]

theorem logs_findUser (config : Config) (account : String) : (config.findUser account).Logs allowed := by
  refine .bind (logs_call _) fun outcome => ?_
  cases outcome with
  | error text => exact .of_log fun _ => rfl
  | ok value =>
    refine .get_bind fun site => .bind (logs_readable _) fun code => ?_
    split
    · exact .bind (logs_readable _) fun _ => .of_log fun _ => rfl
    · refine .bind (logs_readable _) fun entries => ?_
      cases entries with
      | nil => exact .of_log fun _ => rfl
      | cons entry rest => exact .bind (logs_readable _) fun _ => .of_log fun _ => rfl

theorem logs_changePassword (config : Config) (principal : Principal) (password : String) :
    (config.changePassword principal password).Logs allowed := by
  unfold Config.changePassword
  split
  · exact .of_log fun _ => rfl
  · refine .bind (logs_findUser config _) fun found => ?_
    cases found with
    | error answer => exact .of_log fun _ => rfl
    | ok entry => exact logs_apply config _

variable (told : ∀ account enabled, allowed (.statusUnchanged account enabled))

include told

theorem logs_changeStatus (config : Config) (principal : Principal) (enabled : Bool) :
    (config.changeStatus principal enabled).Logs allowed := by
  unfold Config.changeStatus
  split
  · exact .of_log fun _ => rfl
  · refine .bind (logs_findUser config _) fun found => ?_
    cases found with
    | error answer => exact .of_log fun _ => rfl
    | ok entry =>
      dsimp only
      split
      · exact .bind (.emit (told _ _)) fun _ => .of_log fun _ => rfl
      · exact .bind (logs_readable _) fun numeral => logs_apply config _

theorem logs_perform (config : Config) (request : Request) :
    ((backend config).perform request).Logs allowed := by
  change (config.perform request).Logs allowed
  unfold Config.perform
  split
  · exact logs_changePassword config _ _
  · exact logs_changeStatus told config _ true
  · exact logs_changeStatus told config _ false

end

end Directory

/-! ### Events of the program itself -/

/-- All events but those of other program parts. -/
def Log.Event.isOwn : Event → Bool
  | .notice .. => false
  | _ => true

theorem Action.isOwn_notice (action : Action) (name : String) : (action.notice name).isOwn := by
  cases action <;> rfl

/-- The step logs events of the program itself only. -/
abbrev Act.Own (x : Act σ α) : Prop := x.Logs fun event => event.isOwn

structure Backend.Own (b : Backend σ) : Prop where
  perform : ∀ request, (b.perform request).Own
  close : b.close.Own

/-! ### Drains -/

theorem own_advance (next : Stage) : (advance next : Act σ Unit).Own := by
  refine .get_bind fun site => ?_
  split
  · exact .bind (.emit rfl) fun _ => .of_log fun _ => rfl
  · exact .of_log fun _ => rfl

theorem own_checkPath (file : String) : (checkPath file : Act σ Path).Own := by
  unfold checkPath
  split <;> exact .of_log fun _ => rfl

theorem own_openFile (file : String) (path : Path) : (openFile file path : Act σ Queue.Source).Own := by
  refine .get_bind fun site => ?_
  split <;> exact .of_log fun _ => rfl

theorem own_readRecord (limit : Int) (file : String) (source : Queue.Source) :
    (readRecord limit file source : Act σ Queue.Record).Own := by
  unfold readRecord
  split <;> exact .of_log fun _ => rfl

theorem own_unlinkFile (file : String) (path : Path) : (unlinkFile file path : Act σ Unit).Own := by
  refine .get_bind fun site => ?_
  split <;> exact .of_log fun _ => rfl

theorem own_resolve (realm : Option String) (text : String) :
    (resolve realm text : Act σ Principal).Own := by
  unfold resolve
  split <;> exact .of_log fun _ => rfl

section

variable {b : Backend σ} (calls : ∀ request, (b.perform request).Own)

include calls

theorem own_dispatch (realm : Option String) (principal : Principal) (action : Action) (name : String) :
    (dispatch b realm principal action name).Own := by
  refine .bind (calls _) fun answer => ?_
  split
  · exact .emit (action.isOwn_notice name)
  · exact .of_log fun _ => rfl

theorem own_drain (realm : Option String) (limit : Int) (file : String) :
    (Controller.drain ⟨b, realm, limit⟩ file).Own := by
  have processed : (Controller.process ⟨b, realm, limit⟩ file).Own := by
    refine .bind (own_checkPath file) fun path => ?_
    refine .bind (own_openFile file path) fun source => ?_
    refine .bind (own_advance .opened) fun _ => ?_
    refine .bind (own_readRecord limit file source) fun record => ?_
    refine .bind (own_advance .parsed) fun _ => ?_
    refine .bind (own_resolve realm _) fun principal => ?_
    refine .bind (own_dispatch calls realm principal record.action _) fun _ => ?_
    refine .bind (own_advance .dispatched) fun _ => ?_
    refine .bind (own_unlinkFile file path) fun _ => ?_
    exact .bind (own_advance .deleted) fun _ => .of_log fun _ => rfl
  refine .bind (.of_log fun _ => rfl) fun _ => ?_
  exact (processed.onFailure (own_advance .failed)).marked file

theorem own_route (realm : Option String) (limit : Int) (command : Command) :
    (route b realm limit command).Own := by
  cases command with
  | drain file => exact (own_drain calls realm limit file).discard
  | immediate user actions =>
    exact .bind (own_resolve realm user) fun principal => .forM fun action =>
      own_dispatch calls realm principal action user

end

/-! ### Backends -/

namespace Script

theorem own_changeFiles (paths : List String) (change : Files → Except OsError Files) :
    (changeFiles paths change).Own := by
  refine .bind (.forM fun path => (own_checkPath path).discard) fun _ => .get_bind fun site => ?_
  split <;> exact .of_log fun _ => rfl

theorem own_respond {drain : String → Act Script Queue.Record} (drains : ∀ file, (drain file).Own)
    (request : Request) : (respond drain request).Own := by
  have effects (effect : Effect) : (runEffect drain effect).Own := by
    cases effect with
    | remove path => exact own_changeFiles [path] fun files => files.delete (.ofText path)
    | put path entry => exact own_changeFiles _ fun files => files.put (.ofText path) entry
    | drain path => exact (drains path).discard
  refine .get_bind fun site => ?_
  obtain ⟨reply, rest⟩ := site.peer.take request
  dsimp only
  refine .bind (.of_log fun _ => rfl) fun _ => .bind (.forM effects) fun _ => ?_
  split <;> exact .of_log fun _ => rfl

/-- By induction on the depth: what a reply drains is drained with a backend one level down. -/
theorem own_backend (realm : Option String) (lineLimit : Int) (depth : Nat) :
    (backend realm lineLimit depth).Own := by
  induction depth with
  | zero => exact ⟨own_respond fun _ => .of_log fun _ => rfl, .of_log fun _ => rfl⟩
  | succ depth ih =>
    exact ⟨own_respond (own_drain ih.perform realm lineLimit), .of_log fun _ => rfl⟩

end Script

theorem Directory.own_backend (config : Config) : (backend config).Own where
  perform := logs_perform (fun _ _ => rfl) config
  close := by
    refine .bind (logs_call _) fun outcome => ?_
    cases outcome with
    | ok value => exact .of_log fun _ => rfl
    | error text => exact .emit rfl

theorem Directory.own_connect (endpoint : Endpoint) (config : Config) :
    (connect endpoint config).Own := by
  refine .bind (.of_log fun _ => rfl) fun _ => .bind (logs_call _) fun outcome => ?_
  cases outcome with
  | error text => exact .of_log fun _ => rfl
  | ok bound =>
    dsimp only
    split
    · exact .bind (.emit rfl) fun _ => .of_log fun _ => rfl
    · exact .get_bind fun site => .bind (logs_readable _) fun _ => .of_log fun _ => rfl

/-! ### Runs -/

section

variable {factory : Act σ (Backend σ)} (own : factory.Own)
  (made : ∀ {site backend after}, factory.run site = (.ok backend, after) → backend.Own)

include own made

theorem own_serve (settings : Settings) (command : Command) : (serve settings factory command).Own := by
  intro site
  have before := own site
  unfold serve
  rw [Act.run_bind]
  cases ran : factory.run site with
  | mk result after =>
    rw [ran] at before
    cases result with
    | error fault => exact before
    | ok backend =>
      obtain ⟨performs, closes⟩ := made ran
      have routed := own_route performs settings.realm settings.queueLineLimit.value command
      exact before.trans (Act.Logs.ensuring (routed after) closes)

/-- A run logs events of the program itself only, if the making of the backend and the backend do. -/
theorem own_runWith (settings : Settings) (optionsFirst : Bool) (words : List String) :
    (runWith settings optionsFirst words factory).Own := by
  unfold runWith
  split
  · exact .of_log fun _ => rfl
  split
  · exact .of_log fun _ => rfl
  next command _ =>
  intro site
  have served := own_serve own made settings command site
  change site.Adds _ (reported settings.programName (serve settings factory command) site).2
  unfold reported
  generalize (serve settings factory command).run site = ran at served
  obtain ⟨(failure | defect) | a, after⟩ := ran
  · have told : (do
        Act.emit (.syncFailed failure.message failure.kind)
        return Exit.refusal (settings.programName ++ ": " ++ failure.message) : Act σ Exit).Own :=
      .bind (.emit rfl) fun _ => .of_log fun _ => rfl
    exact served.trans (told after)
  · exact served
  · exact served

end

end AccountSync
