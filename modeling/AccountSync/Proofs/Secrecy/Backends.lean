import AccountSync.Proofs.Directory.Operations
import AccountSync.Proofs.Secrecy.Trees
import AccountSync.Script

/-!
# Backends that keep a secret

A backend keeps passwords to itself if it answers requests that differ in the password alike. Scripted
backends do (`Script.backend_alike`) and so does the directory's (`Directory.backend_alike`); with
such a backend, dispatches and drains of requests that differ in the password end alike
(`dispatch_alike`, `drain_alike`).
-/

namespace AccountSync

variable {σ : Type} {limit : Nat} {peers : σ → σ → Prop}

/-- Requests that differ in the password at most. -/
structure Request.Alike (r s : Request) : Prop where
  realm : r.realm = s.realm
  principal : r.principal = s.principal
  action : r.action.Alike s.action

structure Backend.Alike (files : Files → Files → Prop) (peers : σ → σ → Prop)
    (backend backend' : Backend σ) : Prop where
  perform : ∀ {request request' : Request}, request.Alike request' →
    Act.Alike files peers Eq (backend.perform request) (backend'.perform request')
  close : Act.Alike files peers (fun _ _ => True) backend.close backend'.close

/-! ### Steps -/

section

variable {files : Files → Files → Prop}

theorem advance_alike (next : Stage) :
    Act.Alike files peers (fun _ _ => True) (advance next) (advance next) := by
  refine Act.Alike.get_bind fun s t start => ?_
  rw [start.stage]
  split
  · refine Act.Alike.bind (Act.Alike.emit _) fun _ => Act.Alike.modify fun s t start => ?_
    exact ⟨start.files, start.log, rfl, start.queueFile, start.peer⟩
  · exact Parallel.throw _

theorem checkPath_alike (file : String) :
    Act.Alike files peers Eq (checkPath file) (checkPath file) := by
  unfold checkPath
  split
  · exact Parallel.throw _
  · exact Parallel.pure rfl

theorem resolve_alike (realm : Option String) (text : String) :
    Act.Alike files peers Eq (resolve realm text) (resolve realm text) := by
  unfold resolve
  split
  · exact Parallel.pure rfl
  · exact Parallel.throw _

/-- What is said of a request does not tell its password. -/
theorem dispatch_alike {backend backend' : Backend σ} (alike : backend.Alike files peers backend')
    (realm : Option String) (principal : Principal) {action action' : Action}
    (actions : action.Alike action') (name : String) :
    Act.Alike files peers (fun _ _ => True) (dispatch backend realm principal action name)
      (dispatch backend' realm principal action' name) := by
  have notice : action.notice name = action'.notice name := by cases actions <;> rfl
  have operation : action.operation = action'.operation := by cases actions <;> rfl
  refine Act.Alike.bind (alike.perform ⟨rfl, rfl, actions⟩) ?_
  rintro answer _ rfl
  rw [notice, operation]
  split
  · exact Act.Alike.emit _
  · exact Parallel.throw _

end

theorem openFile_alike (file : String) (path : Path) :
    Act.Alike (Files.Alike limit) peers (Queue.Source.Alike limit) (openFile file path)
      (openFile file path) := by
  refine Act.Alike.get_bind fun s t start => ?_
  have opened := Files.openSource_alike start.files path
  generalize s.files.openSource path = found at opened
  generalize t.files.openSource path = found' at opened
  cases opened with
  | failed why => exact Parallel.throw _
  | done sources => exact Parallel.pure sources

theorem readRecord_alike {files : Files → Files → Prop} (limit : Int) (file : String)
    {source source' : Queue.Source} (sources : source.Alike limit.toNat source') :
    Act.Alike files peers Queue.Record.Like (readRecord limit file source)
      (readRecord limit file source') := by
  have read := Queue.Record.readWithin_alike limit file source source' sources
  unfold readRecord
  generalize (Queue.Record.readWithin limit file).run source = outcome at read
  generalize (Queue.Record.readWithin limit file).run source' = outcome' at read
  cases read with
  | failed fault => exact Parallel.throw _
  | done records => exact Parallel.pure records

theorem unlinkFile_alike (file : String) (path : Path) :
    Act.Alike (Files.Alike limit) peers (fun _ _ => True) (unlinkFile file path)
      (unlinkFile file path) := by
  refine Act.Alike.get_bind fun s t start => ?_
  have unlinked := Files.unlink_alike start.files path
  generalize s.files.unlink path = left at unlinked
  generalize t.files.unlink path = left' at unlinked
  cases unlinked with
  | failed why => exact Parallel.throw _
  | done alike =>
    refine Act.Alike.modify fun s t start => ?_
    exact ⟨alike, start.log, start.stage, start.queueFile, start.peer⟩

/-! ### Drains -/

section

variable {lineLimit : Int} {backend backend' : Backend σ}

theorem process_alike (alike : backend.Alike (Files.Alike lineLimit.toNat) peers backend')
    (realm : Option String) (file : String) :
    Act.Alike (Files.Alike lineLimit.toNat) peers Queue.Record.Like
      (Controller.process ⟨backend, realm, lineLimit⟩ file)
      (Controller.process ⟨backend', realm, lineLimit⟩ file) := by
  refine Act.Alike.bind (checkPath_alike file) ?_
  rintro path _ rfl
  refine Act.Alike.bind (openFile_alike file path) fun sources => ?_
  refine Act.Alike.bind (advance_alike .opened) fun _ => ?_
  refine Act.Alike.bind (readRecord_alike lineLimit file sources) fun records => ?_
  refine Act.Alike.bind (advance_alike .parsed) fun _ => ?_
  rw [records.principalName]
  refine Act.Alike.bind (resolve_alike realm _) ?_
  rintro principal _ rfl
  refine Act.Alike.bind (dispatch_alike alike realm principal records.action _) fun _ => ?_
  refine Act.Alike.bind (advance_alike .dispatched) fun _ => ?_
  refine Act.Alike.bind (unlinkFile_alike file path) fun _ => ?_
  exact Act.Alike.bind (advance_alike .deleted) fun _ => Parallel.pure records

theorem drain_alike (alike : backend.Alike (Files.Alike lineLimit.toNat) peers backend')
    (realm : Option String) (file : String) :
    Act.Alike (Files.Alike lineLimit.toNat) peers Queue.Record.Like
      (Controller.drain ⟨backend, realm, lineLimit⟩ file)
      (Controller.drain ⟨backend', realm, lineLimit⟩ file) := by
  refine Act.Alike.bind (Act.Alike.modify fun s t start => ?_) fun _ => ?_
  · exact Site.Alike.mk start.files start.log rfl start.queueFile start.peer
  · exact Act.Alike.marked file
      (Act.Alike.onFailure (process_alike alike realm file) (advance_alike .failed))

end

/-! ### Scripted backends -/

namespace Script

/-- Scripts with the same replies to come, whatever they were asked. -/
def Same (s t : Script) : Prop := s.replies = t.replies

theorem take_alike {s t : Script} (same : s.Same t) (request request' : Request) :
    (s.take request).1 = (t.take request').1 ∧ (s.take request).2.Same (t.take request').2 := by
  unfold take Same
  rw [same]
  cases t.replies with
  | nil => exact ⟨rfl, rfl⟩
  | cons reply rest => exact ⟨rfl, rfl⟩

theorem changeFiles_alike (paths : List String) {change : Files → Except OsError Files}
    (changes : ∀ {files files'}, Files.Alike limit files files' →
      Both (Files.Alike limit) (change files) (change files')) :
    Act.Alike (Files.Alike limit) Same (fun _ _ => True) (changeFiles paths change)
      (changeFiles paths change) := by
  have checked : Act.Alike (Files.Alike limit) Same (fun _ _ => True)
      (paths.forM fun path => discard (checkPath path) : Act Script Unit)
      (paths.forM fun path => discard (checkPath path)) :=
    Act.Alike.forM (List.forall₂_same.mpr fun _ _ => rfl) fun {path _} same =>
      same ▸ Act.Alike.discard (checkPath_alike path)
  refine Act.Alike.bind checked fun _ => Act.Alike.get_bind fun s t start => ?_
  have changed := changes start.files
  generalize change s.files = left at changed
  generalize change t.files = left' at changed
  cases changed with
  | failed why => exact Parallel.throw _
  | done alike =>
    refine Act.Alike.modify fun s t start => ?_
    exact ⟨alike, start.log, start.stage, start.queueFile, start.peer⟩

theorem runEffect_alike {drain drain' : String → Act Script Queue.Record}
    (drains : ∀ file, Act.Alike (Files.Alike limit) Same Queue.Record.Like (drain file) (drain' file))
    (effect : Effect) :
    Act.Alike (Files.Alike limit) Same (fun _ _ => True) (runEffect drain effect)
      (runEffect drain' effect) := by
  cases effect with
  | remove path =>
    exact @changeFiles_alike limit [path] (fun files => files.delete (.ofText path))
      fun alike => Files.delete_alike alike _
  | put path entry =>
    exact @changeFiles_alike limit _ (fun files => files.put (.ofText path) entry)
      fun alike => Files.put_alike alike _ entry
  | drain path => exact Act.Alike.discard (drains path)

theorem respond_alike {drain drain' : String → Act Script Queue.Record}
    (drains : ∀ file, Act.Alike (Files.Alike limit) Same Queue.Record.Like (drain file) (drain' file))
    (request request' : Request) :
    Act.Alike (Files.Alike limit) Same Eq (respond drain request) (respond drain' request') := by
  refine Act.Alike.get_bind fun s t start => ?_
  obtain ⟨reply, rest⟩ := take_alike start.peer request request'
  dsimp only
  rw [reply]
  refine Act.Alike.bind (Act.Alike.modify fun s' t' start => ?_) fun _ => ?_
  · exact ⟨start.files, start.log, start.stage, start.queueFile, rest⟩
  refine Act.Alike.bind (Act.Alike.forM (List.forall₂_same.mpr fun _ _ => rfl)
    fun {effect _} same => same ▸ runEffect_alike drains effect) fun _ => ?_
  split
  · exact Parallel.throw _
  · exact Parallel.pure rfl

theorem closeOne_alike {files : Files → Files → Prop} :
    Act.Alike files Same (fun _ _ => True) closeOne closeOne :=
  Act.Alike.modify fun _ _ start =>
    ⟨start.files, start.log, start.stage, start.queueFile, start.peer⟩

/-- By induction on the depth: the drains of a reply are those of a backend one level down. -/
theorem backend_alike (realm : Option String) (lineLimit : Int) (depth : Nat) :
    (backend realm lineLimit depth).Alike (Files.Alike lineLimit.toNat) Same
      (backend realm lineLimit depth) := by
  induction depth with
  | zero => exact ⟨fun _ => respond_alike (fun _ => Parallel.throw _) _ _, closeOne_alike⟩
  | succ depth ih => exact ⟨fun _ => respond_alike (drain_alike ih realm) _ _, closeOne_alike⟩

theorem connect_alike (realm : Option String) (lineLimit : Int) (depth : Nat)
    (error : Option String) :
    Act.Alike (Files.Alike lineLimit.toNat) Same
      (Backend.Alike (Files.Alike lineLimit.toNat) Same)
      (connect realm lineLimit depth error) (connect realm lineLimit depth error) := by
  unfold connect
  split
  · exact Parallel.throw _
  · refine Act.Alike.bind (Act.Alike.modify fun s t start => ?_) fun _ => ?_
    · exact ⟨start.files, start.log, start.stage, start.queueFile, start.peer⟩
    · exact Parallel.pure (backend_alike realm lineLimit depth)

end Script

/-! ### The directory's backend -/

namespace Directory

/-- Operations that differ in the password at most. -/
inductive Operation.Alike : Operation → Operation → Prop where
  | same (op : Operation) : Alike op op
  | modifyPassword (dn : Value) (password password' : String) :
    Alike (.modifyPassword dn password) (.modifyPassword dn password')

namespace Connection

/-- Connections that answer the same, whatever they were asked. -/
def Same (c d : Connection) : Prop :=
  { c with operations := d.operations, endpoints := d.endpoints } = d

section

variable {c d : Connection} {op op' : Operation}

theorem replies_alike (same : c.Same d) (alike : op.Alike op') : c.replies op = d.replies op' := by
  rw [← same]
  cases alike with
  | same => cases op <;> rfl
  | modifyPassword => rfl

theorem setReplies_alike (same : c.Same d) (alike : op.Alike op') (rest : List Reply) :
    (c.setReplies rest op).Same (d.setReplies rest op') := by
  rw [← same]
  cases alike with
  | same => cases op <;> rfl
  | modifyPassword => rfl

theorem serve_alike (same : c.Same d) (alike : op.Alike op') : (c.serve op).Same (d.serve op') := by
  rw [← same]
  cases alike with
  | same => cases op <;> rfl
  | modifyPassword => rfl

theorem follow_alike (same : c.Same d) (reply : Reply) :
    (c.follow reply).1 = (d.follow reply).1 ∧ (c.follow reply).2.Same (d.follow reply).2 := by
  rw [← same]
  cases reply <;> exact ⟨rfl, rfl⟩

theorem perform_alike (same : c.Same d) (alike : op.Alike op') :
    (c.perform op).1 = (d.perform op').1 ∧ (c.perform op).2.Same (d.perform op').2 := by
  have asked : ({ c with operations := c.operations ++ [op] } : Connection).Same
      { d with operations := d.operations ++ [op'] } := by
    rw [← same]
    rfl
  unfold perform
  dsimp only
  rw [replies_alike asked alike]
  split
  · exact ⟨rfl, serve_alike asked alike⟩
  · exact follow_alike (setReplies_alike asked alike _) _

end

end Connection

/-- Connections that show the same and answer alike whatever is asked between bind and unbind. -/
structure Exchanges (peers : Connection → Connection → Prop) : Prop where
  perform : ∀ {c d op op'}, peers c d → op.isExchange → op.Alike op' →
    (c.perform op).1 = (d.perform op').1 ∧ peers (c.perform op).2 (d.perform op').2
  result : ∀ {c d}, peers c d → c.result = d.result
  response : ∀ {c d}, peers c d → c.response = d.response

theorem Connection.same_exchanges : Exchanges Same where
  perform same _ alike := perform_alike same alike
  result same := by rw [← same]
  response same := by rw [← same]

/-! The parts of the backend, in the order of their definitions. -/

section

variable {files : Files → Files → Prop} {peers : Connection → Connection → Prop}

theorem readable_both {α : Type} {like : α → α → Prop} {read read' : Except Value.Fault α}
    (both : Both like read read') : Act.Alike files peers like (readable read) (readable read') := by
  cases both with
  | failed fault => exact Parallel.throw _
  | done alike => exact Parallel.pure alike

theorem readable_alike {α : Type} (read : Except Value.Fault α) :
    Act.Alike files peers Eq (readable read) (readable read) :=
  readable_both (.refl (fun _ => rfl) read)

theorem call_alike {op op' : Operation}
    (performs : ∀ {c d}, peers c d →
      (c.perform op).1 = (d.perform op').1 ∧ peers (c.perform op).2 (d.perform op').2) :
    Act.Alike files peers Eq (call op) (call op') := by
  refine Act.Alike.get_bind fun s t start => ?_
  obtain ⟨outcome, peer⟩ := performs start.peer
  dsimp only
  rw [outcome]
  refine Act.Alike.bind (Act.Alike.modify fun _ _ _ => ?_) fun _ => ?_
  · exact ⟨start.files, start.log, start.stage, start.queueFile, peer⟩
  · split
    · exact Parallel.pure rfl
    · exact Parallel.pure rfl
    · exact Parallel.throw _

theorem lastAnswer_alike (results : ∀ {c d}, peers c d → c.result = d.result) (config : Config) :
    Act.Alike files peers Eq config.lastAnswer config.lastAnswer := by
  refine Act.Alike.get_bind fun s t start => ?_
  dsimp only
  rw [results start.peer]
  refine Act.Alike.bind (readable_alike _) ?_
  rintro code _ rfl
  split
  · exact Parallel.pure rfl
  · refine Act.Alike.bind (readable_alike _) ?_
    rintro text _ rfl
    exact Parallel.pure rfl

theorem apply_alike (results : ∀ {c d}, peers c d → c.result = d.result) (config : Config)
    {op op' : Operation} (calls : Act.Alike files peers Eq (call op) (call op')) :
    Act.Alike files peers Eq (config.apply op) (config.apply op') := by
  refine Act.Alike.bind calls ?_
  rintro outcome _ rfl
  split
  · exact Parallel.pure rfl
  · exact lastAnswer_alike results config

section

variable (exchanges : Exchanges peers)

include exchanges

theorem exchange_alike {op op' : Operation} (exchange : op.isExchange) (alike : op.Alike op') :
    Act.Alike files peers Eq (call op) (call op') :=
  call_alike fun same => exchanges.perform same exchange alike

theorem findUser_alike (config : Config) (account : String) :
    Act.Alike files peers Eq (config.findUser account) (config.findUser account) := by
  refine Act.Alike.bind (exchange_alike exchanges rfl (.same _)) ?_
  rintro outcome _ rfl
  split
  · exact Parallel.pure rfl
  refine Act.Alike.get_bind fun s t start => ?_
  dsimp only
  rw [exchanges.result start.peer, exchanges.response start.peer]
  refine Act.Alike.bind (readable_alike _) ?_
  rintro code _ rfl
  split
  · refine Act.Alike.bind (readable_alike _) ?_
    rintro text _ rfl
    exact Parallel.pure rfl
  · refine Act.Alike.bind (readable_alike _) ?_
    rintro entries _ rfl
    split
    · exact Parallel.pure rfl
    · refine Act.Alike.bind (readable_alike _) ?_
      rintro found _ rfl
      exact Parallel.pure rfl

theorem changePassword_alike (config : Config) (principal : Principal) (password password' : String) :
    Act.Alike files peers Eq (config.changePassword principal password)
      (config.changePassword principal password') := by
  unfold Config.changePassword
  split
  · exact Parallel.pure rfl
  refine Act.Alike.bind (findUser_alike exchanges config _) ?_
  rintro found _ rfl
  split
  · exact Parallel.pure rfl
  · exact apply_alike exchanges.result config (exchange_alike exchanges rfl (.modifyPassword _ _ _))

theorem changeStatus_alike (config : Config) (principal : Principal) (enabled : Bool) :
    Act.Alike files peers Eq (config.changeStatus principal enabled)
      (config.changeStatus principal enabled) := by
  unfold Config.changeStatus
  split
  · exact Parallel.pure rfl
  refine Act.Alike.bind (findUser_alike exchanges config _) ?_
  rintro found _ rfl
  split
  · exact Parallel.pure rfl
  · dsimp only
    split
    · exact Act.Alike.bind (Act.Alike.emit _) fun _ => Parallel.pure rfl
    · refine Act.Alike.bind (readable_alike _) ?_
      rintro numeral _ rfl
      exact apply_alike exchanges.result config (exchange_alike exchanges rfl (.same _))

/-- The backend answers requests that differ in the password alike. -/
theorem perform_alike (config : Config) {request request' : Request} (alike : request.Alike request') :
    Act.Alike files peers Eq (config.perform request) (config.perform request') := by
  unfold Config.perform
  rw [alike.principal]
  have actions := alike.action
  generalize request.action = action at actions
  generalize request'.action = action' at actions
  cases actions with
  | secret secret secret' => exact changePassword_alike exchanges config _ _ _
  | same =>
    cases action with
    | password secret => exact changePassword_alike exchanges config _ _ _
    | enable => exact changeStatus_alike exchanges config _ _
    | disable => exact changeStatus_alike exchanges config _ _

end

theorem close_alike : Act.Alike files Connection.Same (fun _ _ => True) close close := by
  refine Act.Alike.bind (call_alike fun same => Connection.perform_alike same (.same _)) ?_
  rintro outcome _ rfl
  split
  · exact Parallel.pure trivial
  · exact Act.Alike.emit _

theorem backend_alike (config : Config) :
    (backend config).Alike files Connection.Same (backend config) := by
  exact ⟨fun alike => perform_alike Connection.same_exchanges config alike, close_alike⟩

/-- The credentials are seen by the server only. -/
theorem connect_alike {endpoint endpoint' : Endpoint} (host : endpoint.host = endpoint'.host)
    (config : Config) :
    Act.Alike files Connection.Same (Backend.Alike files Connection.Same)
      (connect endpoint config) (connect endpoint' config) := by
  refine Act.Alike.bind (Act.Alike.modify fun s t start => ?_) fun _ => ?_
  · refine ⟨start.files, start.log, start.stage, start.queueFile, ?_⟩
    rw [← start.peer]
    rfl
  refine Act.Alike.bind (call_alike fun same => Connection.perform_alike same (.same _)) ?_
  rintro outcome _ rfl
  rw [host]
  split
  · exact Parallel.throw _
  · split
    · exact Act.Alike.bind (Act.Alike.emit _) fun _ => Parallel.pure (backend_alike config)
    · refine Act.Alike.get_bind fun s t start => ?_
      rw [Connection.same_exchanges.result start.peer]
      refine Act.Alike.bind (readable_alike _) ?_
      rintro why _ rfl
      exact Parallel.throw _

end

end Directory

end AccountSync
