import AccountSync.Proofs.Run.Agreement
import AccountSync.Proofs.Run.Confined
import AccountSync.Proofs.Secrecy.Run

/-!
# The connection is released

A run binds its connection once, before all else, and unbinds it once, after all else, however the
work between ends; it does neither if there is no command. A run whose unbind fails ends as it would
otherwise, and logs one record more (`connection_released`).
-/

namespace AccountSync

namespace Directory

/-! ### Connections abreast -/

namespace Connection

/-- What `c` and `d` are after the same exchanges, if they began as `start` and as `start` with other
replies to unbind. What is asked of them may differ in passwords. -/
structure Abreast (start : Connection) (replies : List Reply) (c d : Connection) : Prop where
  other : { c with unbind := replies, operations := d.operations } = d
  unbind : c.unbind = start.unbind
  endpoints : c.endpoints = start.endpoints
  exchanged : ∃ work, c.operations = start.operations ++ work ∧ ∀ op ∈ work, op.isExchange

theorem perform_endpoints (c : Connection) (op : Operation) :
    (c.perform op).2.endpoints = c.endpoints := by
  unfold perform
  dsimp only
  split
  · cases op <;> rfl
  · next reply rest _ => cases reply <;> cases op <;> rfl

/-- An exchange neither sees nor changes the replies to unbind. -/
theorem perform_unbind (c : Connection) (replies : List Reply) (operations : List Operation)
    {op op' : Operation} (exchange : op.isExchange) (alike : op.Alike op') :
    let other := { c with unbind := replies, operations }.perform op'
    (c.perform op).1 = other.1 ∧ (c.perform op).2.unbind = c.unbind ∧
      { (c.perform op).2 with unbind := replies, operations := other.2.operations } = other.2 := by
  obtain ⟨bind, search, modify, modifyPassword, unbind, accounts, result, response, asked, endpoints⟩ := c
  cases alike with
  | modifyPassword dn password password' =>
    cases modifyPassword with
    | nil => exact ⟨rfl, rfl, rfl⟩
    | cons reply rest => cases reply <;> exact ⟨rfl, rfl, rfl⟩
  | same =>
    cases op with
    | bind => cases exchange
    | unbind => cases exchange
    | search base filter =>
      cases search with
      | nil => exact ⟨rfl, rfl, rfl⟩
      | cons reply rest => cases reply <;> exact ⟨rfl, rfl, rfl⟩
    | modify dn control =>
      cases modify with
      | nil => exact ⟨rfl, rfl, rfl⟩
      | cons reply rest => cases reply <;> exact ⟨rfl, rfl, rfl⟩
    | modifyPassword dn password =>
      cases modifyPassword with
      | nil => exact ⟨rfl, rfl, rfl⟩
      | cons reply rest => cases reply <;> exact ⟨rfl, rfl, rfl⟩

theorem abreast_exchanges (start : Connection) (replies : List Reply) :
    Exchanges (Abreast start replies) where
  perform := by
    intro c d op op' abreast exchange alike
    obtain ⟨other, unbind, endpoints, work, operations, exchanged⟩ := abreast
    obtain ⟨outcome, unbound, same⟩ := c.perform_unbind replies d.operations exchange alike
    rw [other] at outcome same
    refine ⟨outcome, same, unbound.trans unbind, (c.perform_endpoints op).trans endpoints,
      work ++ [op], ?_, ?_⟩
    · rw [operations_perform, operations, List.append_assoc]
    · intro made member
      rcases List.mem_append.mp member with earlier | last
      · exact exchanged made earlier
      · rw [List.mem_singleton.mp last]
        exact exchange
  result abreast := by rw [← abreast.other]
  response abreast := by rw [← abreast.other]

/-! ### Bind and unbind -/

/-- The server accepts the bind. -/
def accepts (c : Connection) : Bool :=
  match c.bind with
  | [] => true
  | .answered _ _ bound :: _ => bound.isTruthy
  | _ => false

/-- The connection to an endpoint after the bind. -/
def bound (endpoint : Endpoint) (c : Connection) : Connection :=
  ({ c with endpoints := c.endpoints ++ [endpoint] }.perform .bind).2

theorem bound_operations (endpoint : Endpoint) (c : Connection) :
    (c.bound endpoint).operations = c.operations ++ [.bind] :=
  operations_perform _ _

theorem bound_endpoints (endpoint : Endpoint) (c : Connection) :
    (c.bound endpoint).endpoints = c.endpoints ++ [endpoint] :=
  perform_endpoints _ _

theorem bound_unbind (endpoint : Endpoint) (c : Connection) (replies : List Reply) :
    (c.bound endpoint).unbind = c.unbind ∧
      { c.bound endpoint with unbind := replies } =
        ({ c with unbind := replies } : Connection).bound endpoint := by
  obtain ⟨bind, search, modify, modifyPassword, unbind, accounts, result, response, asked, endpoints⟩ := c
  cases bind with
  | nil => exact ⟨rfl, rfl⟩
  | cons reply rest => cases reply <;> exact ⟨rfl, rfl⟩

theorem accepts_iff (endpoint : Endpoint) (c : Connection) :
    c.accepts ↔ ∃ value,
      ({ c with endpoints := c.endpoints ++ [endpoint] }.perform .bind).1 = .returned value ∧
        value.isTruthy := by
  obtain ⟨bind, search, modify, modifyPassword, unbind, accounts, result, response, asked, endpoints⟩ := c
  cases bind with
  | nil => exact ⟨fun _ => ⟨.flag true, rfl, rfl⟩, fun _ => rfl⟩
  | cons reply rest =>
    cases reply with
    | ldapError text => exact ⟨fun accepts => (by cases accepts), fun ⟨_, returned, _⟩ => by cases returned⟩
    | raised text => exact ⟨fun accepts => (by cases accepts), fun ⟨_, returned, _⟩ => by cases returned⟩
    | answered result response bound =>
      refine ⟨fun truthy => ⟨bound, rfl, truthy⟩, ?_⟩
      rintro ⟨_, ⟨⟩, truthy⟩
      exact truthy

/-- Replies of which the first, if there is one, is no error. -/
def Calm (replies : List Reply) : Prop :=
  ∀ reply ∈ replies.head?, ∃ result response value, reply = .answered result response value

theorem Calm.returns {c : Connection} (calm : Calm c.unbind) :
    ∃ value, (c.perform .unbind).1 = .returned value := by
  obtain ⟨bind, search, modify, modifyPassword, unbind, accounts, result, response, asked, endpoints⟩ := c
  cases unbind with
  | nil => exact ⟨.flag true, rfl⟩
  | cons reply others =>
    obtain ⟨_, _, value, rfl⟩ := calm reply rfl
    exact ⟨value, rfl⟩

end Connection

section

variable (endpoint : Endpoint) (config : Config) (site : Site Connection)

theorem connect_accepted (accepts : site.peer.accepts) :
    (connect endpoint config).run site = (.ok (backend config),
      ({ site with peer := site.peer.bound endpoint } : Site Connection).note
        (.backendBound endpoint.host config.baseDn)) := by
  obtain ⟨value, returned, truthy⟩ := (Connection.accepts_iff endpoint site.peer).mp accepts
  let asked : Site Connection :=
    { site with peer := { site.peer with endpoints := site.peer.endpoints ++ [endpoint] } }
  unfold connect
  rw [Act.run_bind]
  change Act.run (call .bind >>= _) asked = _
  rw [Act.run_bind, run_call, returned]
  change Act.run (if value.isTruthy then _ else _) _ = _
  rw [if_pos truthy]
  rfl

theorem connect_refused (refused : ¬ site.peer.accepts) :
    ∃ fault, (connect endpoint config).run site =
      (.error fault, { site with peer := site.peer.bound endpoint }) := by
  let asked : Site Connection :=
    { site with peer := { site.peer with endpoints := site.peer.endpoints ++ [endpoint] } }
  unfold connect
  rw [Act.run_bind]
  change ∃ fault, Act.run (call .bind >>= _) asked = _
  rw [Act.run_bind, run_call]
  cases outcome : (asked.peer.perform .bind).1 with
  | ldapError text => exact ⟨_, rfl⟩
  | raised text => exact ⟨_, rfl⟩
  | returned value =>
    have falsy : ¬ value.isTruthy := fun truthy =>
      refused ((Connection.accepts_iff endpoint site.peer).mpr ⟨value, outcome, truthy⟩)
    change ∃ fault, Act.run (if value.isTruthy then _ else _) _ = _
    rw [if_neg falsy]
    change ∃ fault, Act.run (readable (describe (site.peer.bound endpoint).result) >>= _) _ = _
    rw [Act.run_bind]
    cases describe (site.peer.bound endpoint).result with
    | ok why => exact ⟨_, rfl⟩
    | error fault => exact ⟨_, rfl⟩

theorem run_close :
    close.run site =
      match (site.peer.perform .unbind).1 with
      | .returned _ => (.ok (), { site with peer := (site.peer.perform .unbind).2 })
      | .ldapError text =>
        (.ok (), ({ site with peer := (site.peer.perform .unbind).2 } : Site Connection).note
          (.unbindFailed text))
      | .raised text =>
        (.error (.defect (.raised text)), { site with peer := (site.peer.perform .unbind).2 }) := by
  unfold close
  rw [Act.run_bind, run_call]
  cases (site.peer.perform .unbind).1 <;> rfl

theorem close_peer :
    (close.run site).2.peer = (site.peer.perform .unbind).2 := by
  rw [run_close]
  cases (site.peer.perform .unbind).1 <;> rfl

theorem close_calm (calm : Connection.Calm site.peer.unbind) :
    close.run site = (.ok (), { site with peer := (site.peer.perform .unbind).2 }) := by
  obtain ⟨value, returned⟩ := calm.returns
  rw [run_close, returned]

theorem close_failed {text : String} {rest : List Reply}
    (next : site.peer.unbind = .ldapError text :: rest) :
    close.run site = (.ok (),
      ({ site with peer := (site.peer.perform .unbind).2 } : Site Connection).note
        (.unbindFailed text)) := by
  have failed : (site.peer.perform .unbind).1 = .ldapError text := by
    have replies : ({ site.peer with operations := site.peer.operations ++ [.unbind] } :
        Connection).replies .unbind = .ldapError text :: rest := next
    unfold Connection.perform
    dsimp only
    rw [replies]
    rfl
  rw [run_close, failed]

end

end Directory

/-! ### The work between -/

open Directory (Connection Config)

section

variable {σ : Type} {b : Backend σ}

theorem dispatches_mark (marks : ∀ request site,
      ((b.perform request).run site).2.queueFile = site.queueFile)
    (realm : Option String) (principal : Principal) (name : String) (actions : List Action)
    (site : Site σ) :
    ((actions.forM fun action => dispatch b realm principal action name).run site).2.queueFile =
      site.queueFile := by
  induction actions generalizing site with
  | nil => rfl
  | cons action rest ih =>
    have dispatched :
        ((dispatch b realm principal action name).run site).2.queueFile = site.queueFile := by
      rw [run_dispatch, ← marks ⟨realm, principal, action⟩ site]
      obtain ⟨result, after⟩ := (b.perform ⟨realm, principal, action⟩).run site
      cases result with
      | error fault => rfl
      | ok answer => dsimp only; split <;> rfl
    change ((dispatch b realm principal action name >>= fun _ =>
      rest.forM fun action => dispatch b realm principal action name).run site).2.queueFile = _
    rw [Act.run_bind, ← dispatched]
    obtain ⟨result, after⟩ := (dispatch b realm principal action name).run site
    cases result with
    | error fault => rfl
    | ok _ => exact ih after

/-- The marks of drains do not outlast them. -/
theorem route_mark (marks : ∀ request site,
      ((b.perform request).run site).2.queueFile = site.queueFile)
    (realm : Option String) (limit : Int) (command : Command) (site : Site σ) :
    ((route b realm limit command).run site).2.queueFile = site.queueFile := by
  cases command with
  | drain file =>
    rw [route, run_discard, Controller.run_drain]
    rfl
  | immediate user actions =>
    rw [route, Act.run_bind, run_resolve]
    cases Principal.parse realm user with
    | error why => rfl
    | ok principal => exact dispatches_mark marks realm principal user actions site

end

theorem perform_mark (config : Config) (request : Request) (site : Site Connection) :
    ((config.perform request).run site).2.queueFile = site.queueFile := by
  obtain ⟨result, events, after, ran, _⟩ :=
    (Directory.backend_detached config).perform request site.peer trivial
  have left : (config.perform request).run site = (result, site.absorb events after) := ran site rfl
  rw [left]
  rfl

theorem Command.Alike.refl (command : Command) : command.Alike command := by
  cases command with
  | drain file => exact .drain file
  | immediate user actions => exact .immediate user (List.forall₂_same.mpr fun _ _ => .same _)

/-- Work on two connections that differ in the replies to unbind goes on alike. -/
theorem route_abreast (start : Connection) (replies : List Directory.Reply) (config : Config)
    (realm : Option String) (limit : Int) (command : Command) {s t : Site Connection}
    (abreast : Site.Alike (Files.Alike limit.toNat) (Connection.Abreast start replies) s t) :
    let alike := Site.Alike (Files.Alike limit.toNat) (Connection.Abreast start replies)
    Ends alike alike (fun _ _ => True) ((route (Directory.backend config) realm limit command).run s)
      ((route (Directory.backend config) realm limit command).run t) := by
  -- the work does not depend on how the backend is closed
  let lasting : Backend Connection := ⟨config.perform, pure ()⟩
  have alike : lasting.Alike (Files.Alike limit.toNat) (Connection.Abreast start replies) lasting :=
    ⟨fun requests => Directory.perform_alike (Connection.abreast_exchanges start replies) config
      requests, Parallel.pure trivial⟩
  exact (route_alike alike realm (.refl command)).run abreast

/-! ### Whole runs -/

/-- The site of a run once its connection is bound. -/
def Settings.begun (settings : Settings) (files : Files) (c : Connection) : Site Connection :=
  ({ Site.start files c with peer := c.bound settings.endpoint } : Site Connection).note
    (.backendBound settings.endpoint.host settings.directory.baseDn)

/-- The work of a command on a connection that is bound. -/
def Settings.work (settings : Settings) (command : Command) : Act Connection Unit :=
  route (Directory.backend settings.directory) settings.realm settings.queueLineLimit.value command

theorem Ends.both {ε σ : Type} {held : σ → σ → Prop} {left right : Except ε Unit × σ}
    (ended : Ends held held (fun _ _ => True) left right) :
    left.1 = right.1 ∧ held left.2 right.2 := by
  cases ended with
  | failed e held => exact ⟨rfl, held⟩
  | done _ held => exact ⟨rfl, held⟩

theorem ensuring_left {σ : Type} (x : Act σ Unit) (cleanup : Act σ Unit) (site : Site σ) :
    ((x.ensuring cleanup).run site).2 = (cleanup.run (x.run site).2).2 := by
  change (Act.ensuring x cleanup site).2 = _
  unfold Act.ensuring
  obtain ⟨result, after⟩ := x.run site
  dsimp only
  obtain ⟨cleaned, last⟩ := cleanup.run after
  cases cleaned <;> rfl

theorem reported_peer {σ : Type} (program : String) (x : Act σ Unit) (site : Site σ) :
    ((reported program x).run site).2.peer = (x.run site).2.peer := by
  rw [run_reported]
  obtain ⟨result, after⟩ := x.run site
  cases result with
  | ok _ => rfl
  | error fault => cases fault <;> rfl

section

variable (settings : Settings) (command : Command) (files : Files) (c : Connection)

theorem serve_accepted (accepts : c.accepts) :
    (serve settings (Directory.connect settings.endpoint settings.directory) command).run
        (.start files c) =
      ((settings.work command).ensuring Directory.close).run (settings.begun files c) := by
  have connected := Directory.connect_accepted settings.endpoint settings.directory
    (.start files c) accepts
  rw [serve, Act.run_bind, connected]
  rfl

theorem serve_refused (refused : ¬ c.accepts) :
    ((serve settings (Directory.connect settings.endpoint settings.directory) command).run
        (.start files c)).2.peer = c.bound settings.endpoint := by
  obtain ⟨fault, connected⟩ := Directory.connect_refused settings.endpoint settings.directory
    (.start files c) refused
  rw [serve, Act.run_bind, connected]
  rfl

theorem begun_abreast (limit : Nat) (replies : List Directory.Reply) :
    Site.Alike (Files.Alike limit) (Connection.Abreast (c.bound settings.endpoint) replies)
      (settings.begun files c) (settings.begun files { c with unbind := replies }) := by
  refine ⟨.refl limit files, rfl, rfl, rfl, ?_, rfl, rfl, [], (List.append_nil _).symm, List.forall_mem_nil _⟩
  obtain ⟨_, other⟩ := c.bound_unbind settings.endpoint replies
  change { c.bound settings.endpoint with
    unbind := replies
    operations := (({ c with unbind := replies } : Connection).bound settings.endpoint).operations } =
    ({ c with unbind := replies } : Connection).bound settings.endpoint
  rw [← other]

theorem work_abreast (replies : List Directory.Reply) :
    let loud := (settings.work command).run (settings.begun files c)
    let quiet := (settings.work command).run (settings.begun files { c with unbind := replies })
    loud.1 = quiet.1 ∧ Site.Alike (Files.Alike settings.queueLineLimit.value.toNat)
      (Connection.Abreast (c.bound settings.endpoint) replies) loud.2 quiet.2 :=
  (route_abreast _ replies settings.directory settings.realm settings.queueLineLimit.value command
    (begun_abreast settings files c _ replies)).both

theorem serve_released (accepts : c.accepts) :
    let left := ((serve settings (Directory.connect settings.endpoint settings.directory) command).run
      (.start files c)).2.peer
    left.endpoints = c.endpoints ++ [settings.endpoint] ∧ ∃ work,
      left.operations = c.operations ++ [.bind] ++ work ++ [.unbind] ∧
        ∀ op ∈ work, op.isExchange := by
  obtain ⟨_, alike⟩ := work_abreast settings command files c c.unbind
  obtain ⟨_, _, endpoints, work, operations, exchanged⟩ := alike.peer
  dsimp only
  rw [serve_accepted settings command files c accepts, ensuring_left, Directory.close_peer,
    Connection.perform_endpoints, Connection.operations_perform, endpoints, operations,
    Connection.bound_endpoints, Connection.bound_operations]
  exact ⟨rfl, work, rfl, exchanged⟩

theorem serve_unbind_failed (accepts : c.accepts) {text : String} {rest : List Directory.Reply}
    (fails : c.unbind = .ldapError text :: rest) {replies : List Directory.Reply}
    (calm : Connection.Calm replies) :
    let served (c : Connection) :=
      (serve settings (Directory.connect settings.endpoint settings.directory) command).run
        (.start files c)
    let quiet := served { c with unbind := replies }
    (served c).1 = quiet.1 ∧ quiet.2.queueFile = none ∧ (served c).2.queueFile = none ∧
      (served c).2.log = quiet.2.log ++ [⟨.unbindFailed text, none⟩] := by
  obtain ⟨result, alike⟩ := work_abreast settings command files c replies
  have accepts' : ({ c with unbind := replies } : Connection).accepts := accepts
  have mark : ((settings.work command).run (settings.begun files c)).2.queueFile = none :=
    route_mark (perform_mark settings.directory) settings.realm settings.queueLineLimit.value command
      (settings.begun files c)
  dsimp only
  rw [serve_accepted settings command files c accepts,
    serve_accepted settings command files _ accepts']
  have unbind := (c.bound_unbind settings.endpoint replies).1
  have loud := Directory.close_failed _ ((alike.peer.unbind.trans unbind).trans fails)
  have calmed : Connection.Calm ((settings.work command).run
      (settings.begun files { c with unbind := replies })).2.peer.unbind := by
    rw [← alike.peer.other]
    exact calm
  have quiet := Directory.close_calm _ calmed
  rw [Act.run_ensuring_ok loud, Act.run_ensuring_ok quiet]
  refine ⟨result, alike.queueFile.symm.trans mark, mark, ?_⟩
  rw [Site.note]
  dsimp only
  rw [mark, alike.log]

end

/-- A command binds the connection first and only once. If the server accepts, the command unbinds it
last and only once, whatever came between; without a command nothing is asked of the connection. If
unbind fails with an error of the directory, the run ends as if it had not, but for one record. -/
theorem connection_released (settings : Settings) {threshold : Nat}
    (leveled : Log.threshold settings.logLevel = .ok threshold) (optionsFirst : Bool)
    (words : List String) (files : Files) (c : Connection) :
    let run (c : Connection) :=
      (runWith settings optionsFirst words
        (Directory.connect settings.endpoint settings.directory)).run (.start files c)
    let left := (run c).2.peer
    (∀ fault, CommandLine.parse optionsFirst words = .error fault → left = c) ∧
      ∀ command, CommandLine.parse optionsFirst words = .ok command →
        left.endpoints = c.endpoints ++ [settings.endpoint] ∧
        (¬ c.accepts → left.operations = c.operations ++ [.bind]) ∧
        (c.accepts → ∃ work, left.operations = c.operations ++ [.bind] ++ work ++ [.unbind] ∧
          ∀ op ∈ work, op.isExchange) ∧
        (c.accepts → ∀ text rest replies, c.unbind = .ldapError text :: rest →
          Connection.Calm replies →
          let quiet := run { c with unbind := replies }
          (run c).1 = quiet.1 ∧ ∃ earlier later, quiet.2.log = earlier ++ later ∧
            (run c).2.log = earlier ++ [⟨.unbindFailed text, none⟩] ++ later) := by
  dsimp only
  refine ⟨fun fault refused => ?_, fun command parsed => ?_⟩
  · rw [runWith_refused leveled refused]
    rfl
  rw [runWith_parsed leveled parsed]
  refine ⟨?_, fun refused => ?_, fun accepts => ?_, fun accepts text rest replies fails calm => ?_⟩
  · rw [reported_peer]
    by_cases accepts : c.accepts
    · exact (serve_released settings command files c accepts).1
    · rw [serve_refused settings command files c accepts, Connection.bound_endpoints]
  · rw [reported_peer, serve_refused settings command files c refused, Connection.bound_operations]
  · rw [reported_peer]
    exact (serve_released settings command files c accepts).2
  · obtain ⟨result, unmarked, unmarked', log⟩ :=
      serve_unbind_failed settings command files c accepts fails calm
    dsimp only at result unmarked unmarked' log
    rw [run_reported, run_reported]
    generalize (serve settings (Directory.connect settings.endpoint settings.directory) command).run
      (.start files c) = loud at result unmarked' log
    generalize (serve settings (Directory.connect settings.endpoint settings.directory) command).run
      (.start files { c with unbind := replies }) = quiet at result unmarked log
    obtain ⟨ended, noisy⟩ := loud
    obtain ⟨same, calmed⟩ := quiet
    obtain rfl : ended = same := result
    change calmed.queueFile = none at unmarked
    change noisy.queueFile = none at unmarked'
    change noisy.log = calmed.log ++ _ at log
    cases ended with
    | ok _ => exact ⟨rfl, calmed.log, [], (List.append_nil _).symm, log.trans (List.append_nil _).symm⟩
    | error fault =>
      cases fault with
      | defect d =>
        exact ⟨rfl, calmed.log, [], (List.append_nil _).symm, log.trans (List.append_nil _).symm⟩
      | failure f =>
        refine ⟨rfl, calmed.log, [⟨.syncFailed f.message f.kind, none⟩], ?_, ?_⟩
        · rw [← unmarked]
          rfl
        · rw [← log, ← unmarked']
          rfl

/-- An empty directory that breaks off when it is left. -/
def Directory.Connection.leaving : Connection :=
  { Connection.start [] with unbind := [.ldapError "gone"] }

/-- The work is refused, and the connection is released all the same. -/
theorem connection_released_leaving :
    let settings := Settings.serving "R" ⟨8192, by decide⟩
    let run (c : Connection) := (runWith settings false ["-e", "--", "u"]
      (Directory.connect settings.endpoint settings.directory)).run (.start (.empty []) c)
    let c := Connection.leaving
    let quiet := run (.start [])
    Log.threshold settings.logLevel = .ok 20 ∧ c.accepts ∧ Connection.Calm [] ∧
      CommandLine.parse false ["-e", "--", "u"] = .ok (.immediate "u" [.enable]) ∧
      (∃ work, (run c).2.peer.operations = [.bind] ++ work ++ [.unbind] ∧
        ∀ op ∈ work, op.isExchange) ∧
      (run c).1 = quiet.1 ∧ ∃ earlier later, quiet.2.log = earlier ++ later ∧
        (run c).2.log = earlier ++ [⟨.unbindFailed "gone", none⟩] ++ later := by
  have leveled : Log.threshold (Settings.serving "R" ⟨8192, by decide⟩).logLevel = .ok 20 := by
    cbv
  have calm : Connection.Calm [] := fun _ member => by cases member
  have parsed := CommandLine.parse_words false .attached .enable "u"
  obtain ⟨_, released⟩ := connection_released (Settings.serving "R" ⟨8192, by decide⟩) leveled false
    ["-e", "--", "u"] (.empty []) Connection.leaving
  obtain ⟨_, _, unbound, alike⟩ := released _ parsed
  exact ⟨leveled, rfl, calm, parsed, unbound rfl, alike rfl "gone" [] [] rfl calm⟩

end AccountSync
