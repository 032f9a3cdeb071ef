import AccountSync.Proofs.Directory.Accounts
import AccountSync.Proofs.Directory.Operations
import AccountSync.Proofs.Run.Confined

/-!
# Orderly connections

A connection is orderly if its results, responses and entries have the form that a directory gives
them and no operation on it breaks off with anything but an error of the directory. It stays so
(`Connection.Orderly.perform`), and the backend on it never stops with a fault (`backend_confined`).
-/

namespace AccountSync.Directory

/-! ### Replies -/

/-- Control flags, possibly missing or empty, that read as an integer which can be written back. All
integers of fewer digits than `Text.maxDigits` can (`Bounded.of_digits`). -/
def Legible (control : Value) : Prop := ∃ flags, readFlags control = .ok flags ∧ Bounded flags

/-- A mapping whose result code, if it has one, reads as an integer. -/
def IsResult (value : Value) : Prop :=
  ∃ members, value = .map members ∧
    ∀ code, members.lookup "result" = some code → ∃ n, code.toInteger = .ok n

/-- A mapping that carries a `dn` and attributes with legible control flags if it is an entry. -/
def IsItem (value : Value) : Prop :=
  ∃ members, value = .map members ∧
    (members.lookup "type" = some (.text "searchResEntry") → ∃ dn attributes,
      members.lookup "dn" = some dn ∧ members.lookup "attributes" = some (.map attributes) ∧
        Legible ((attributes.lookup "userAccountControl").getD .null))

/-- An entry whose name and control flags can be read. -/
def IsReadable (entry : Value) : Prop := ∃ found, readEntry entry = .ok found ∧ Bounded found.2

def IsResponse (value : Value) : Prop :=
  value = .null ∨ ∃ items, value = .list items ∧ ∀ item ∈ items, IsItem item

def Reply.Orderly : Reply → Prop
  | .ldapError _ => True
  | .raised _ => False
  | .answered result response _ =>
    (∀ value, result = some value → IsResult value) ∧ ∀ value, response = some value → IsResponse value

structure Connection.Orderly (c : Connection) : Prop where
  result : IsResult c.result
  response : IsResponse c.response
  replies : ∀ op, ∀ reply ∈ c.replies op, reply.Orderly
  accounts : ∀ named ∈ c.accounts, Legible named.2.control

/-! ### Reading replies -/

section

variable {value : Value}

theorem IsResult.resultCode (isResult : IsResult value) : ∃ code, resultCode value = .ok code := by
  obtain ⟨members, rfl, reads⟩ := isResult
  obtain ⟨code, read⟩ := codeOf_total reads
  exact ⟨code, (resultCode_map members).trans read⟩

theorem IsResult.describe (isResult : IsResult value) : ∃ text, describe value = .ok text := by
  obtain ⟨members, rfl, _⟩ := isResult
  exact ⟨explanation members, describe_map members⟩

theorem isEntry_map (members : List (String × Value)) : ∃ keep, isEntry (.map members) = .ok keep ∧
    (keep → members.lookup "type" = some (.text "searchResEntry")) := by
  unfold isEntry
  simp only [Value.member?, bind, Except.bind]
  split
  · next kind known =>
    refine ⟨_, rfl, fun same => ?_⟩
    rw [known, of_decide_eq_true same]
  · exact ⟨false, rfl, fun kept => by cases kept⟩

theorem IsItem.isEntry (isItem : IsItem value) : ∃ keep, isEntry value = .ok keep ∧
    (keep → IsReadable value) := by
  obtain ⟨members, rfl, carries⟩ := isItem
  obtain ⟨keep, looked, kind⟩ := isEntry_map members
  refine ⟨keep, looked, fun kept => ?_⟩
  obtain ⟨dn, attributes, named, carried, flags, read, bounded⟩ := carries (kind kept)
  refine ⟨(dn, flags), ?_, bounded⟩
  simp only [readEntry, Value.member?, named, carried, bind, Except.bind, Option.getD_some, read]
  rfl

theorem entriesOf_items {items : List Value} (each : ∀ item ∈ items, IsItem item) :
    ∃ entries, entriesOf items = .ok entries ∧ ∀ entry ∈ entries, IsReadable entry := by
  induction items with
  | nil => exact ⟨[], rfl, List.forall_mem_nil _⟩
  | cons item rest ih =>
    obtain ⟨first, others⟩ := List.forall_mem_cons.mp each
    obtain ⟨keep, known, found⟩ := first.isEntry
    obtain ⟨entries, read, legible⟩ := ih others
    rw [entriesOf, known, read]
    cases keep with
    | false => exact ⟨entries, rfl, legible⟩
    | true => exact ⟨item :: entries, rfl, List.forall_mem_cons.mpr ⟨found rfl, legible⟩⟩

theorem IsResponse.entries (isResponse : IsResponse value) :
    ∃ entries, responseEntries value = .ok entries ∧ ∀ entry ∈ entries, IsReadable entry := by
  rcases isResponse with rfl | ⟨items, rfl, each⟩
  · exact ⟨[], rfl, List.forall_mem_nil _⟩
  · unfold responseEntries
    cases items with
    | nil => exact ⟨[], rfl, List.forall_mem_nil _⟩
    | cons item rest => exact entriesOf_items each

end

/-! ### Operations -/

/-- A write of control flags that can be read back. -/
def Operation.Orderly : Operation → Prop
  | .modify _ control => Legible (.list (control.map .text))
  | _ => True

theorem isItem_entry {account : Account} (legible : Legible account.control) :
    IsItem (Connection.Account.entry account) :=
  ⟨_, rfl, fun _ => ⟨_, _, rfl, rfl, legible⟩⟩

theorem isResult_success : IsResult Connection.success := by
  refine ⟨_, rfl, fun code member => ⟨0, ?_⟩⟩
  cases member
  rfl

theorem Connection.replies_asked (c : Connection) (operations : List Operation)
    (endpoints : List Endpoint) (op : Operation) :
    ({ c with operations, endpoints } : Connection).replies op = c.replies op := by
  cases op <;> rfl

theorem Connection.replies_setReplies (c : Connection) (rest : List Reply) (op other : Operation) :
    (c.setReplies rest op).replies other = rest ∨
      (c.setReplies rest op).replies other = c.replies other := by
  cases op <;> cases other <;> first | exact .inl rfl | exact .inr rfl

namespace Connection.Orderly

variable {c : Connection}

theorem found (orderly : c.Orderly) (filter : String) : IsResponse (.list (c.found filter)) := by
  refine .inr ⟨_, rfl, fun item member => ?_⟩
  obtain ⟨named, among, rfl⟩ := List.mem_map.mp member
  exact isItem_entry (orderly.accounts named (List.mem_filter.mp among).1)

theorem asked (orderly : c.Orderly) (operations : List Operation) (endpoints : List Endpoint) :
    ({ c with operations, endpoints } : Connection).Orderly where
  result := orderly.result
  response := orderly.response
  replies op := c.replies_asked operations endpoints op ▸ orderly.replies op
  accounts := orderly.accounts

theorem serve (orderly : c.Orderly) {op : Operation} (writes : op.Orderly) : (c.serve op).Orderly := by
  cases op with
  | bind => exact ⟨isResult_success, orderly.response, orderly.replies, orderly.accounts⟩
  | unbind => exact orderly
  | modifyPassword dn password =>
    exact ⟨isResult_success, orderly.response, orderly.replies, orderly.accounts⟩
  | search base filter =>
    exact ⟨isResult_success, orderly.found filter, orderly.replies, orderly.accounts⟩
  | modify dn control =>
    refine ⟨isResult_success, orderly.response, orderly.replies, fun named member => ?_⟩
    obtain ⟨former, among, rfl⟩ := List.mem_map.mp member
    change Legible (store dn control former.2).control
    unfold store
    split
    · split
      · exact writes
      · exact orderly.accounts former among
    · exact orderly.accounts former among

theorem follow (orderly : c.Orderly) {reply : Reply} (answers : reply.Orderly) :
    (c.follow reply).2.Orderly ∧ ∀ text, (c.follow reply).1 ≠ .raised text := by
  cases reply with
  | ldapError text => exact ⟨orderly, fun _ same => by cases same⟩
  | raised text => exact answers.elim
  | answered result response value =>
    obtain ⟨isResult, isResponse⟩ := answers
    refine ⟨⟨?_, ?_, orderly.replies, orderly.accounts⟩, fun _ same => by cases same⟩
    · cases result with
      | none => exact orderly.result
      | some value => exact isResult value rfl
    · cases response with
      | none => exact orderly.response
      | some value => exact isResponse value rfl

theorem setReplies (orderly : c.Orderly) {op : Operation} {reply : Reply} {rest : List Reply}
    (next : c.replies op = reply :: rest) : (c.setReplies rest op).Orderly where
  result := by cases op <;> exact orderly.result
  response := by cases op <;> exact orderly.response
  replies other := by
    intro later member
    rcases c.replies_setReplies rest op other with same | same
    · rw [same] at member
      exact orderly.replies op later (next ▸ List.mem_cons_of_mem _ member)
    · rw [same] at member
      exact orderly.replies other later member
  accounts := by cases op <;> exact orderly.accounts

/-- Whatever is asked, the connection stays orderly. -/
theorem perform (orderly : c.Orderly) {op : Operation} (writes : op.Orderly) :
    (c.perform op).2.Orderly ∧ ∀ text, (c.perform op).1 ≠ .raised text := by
  have asked := orderly.asked (c.operations ++ [op]) c.endpoints
  unfold Connection.perform
  dsimp only
  split
  · exact ⟨asked.serve writes, fun _ same => by cases same⟩
  · next reply rest next =>
    exact (asked.setReplies next).follow (asked.replies op reply (next ▸ List.mem_cons_self))

end Connection.Orderly

/-! ### The backend -/

section

variable {α : Type} {allowed : Fault → Prop} {fitting : α → Prop}

theorem readable_confined {read : Except Value.Fault α} (reads : ∃ a, read = .ok a ∧ fitting a) :
    (readable read).Confined Connection.Orderly allowed fitting := by
  obtain ⟨a, rfl, fits⟩ := reads
  exact .pure fits

theorem readable_total {read : Except Value.Fault α} (reads : ∃ a, read = .ok a) :
    (readable read).Confined Connection.Orderly allowed fun _ => True :=
  readable_confined (reads.imp fun _ same => ⟨same, trivial⟩)

theorem call_confined {op : Operation} (writes : op.Orderly) :
    (call op).Confined Connection.Orderly allowed fun _ => True := by
  intro site orderly
  obtain ⟨kept, returns⟩ := orderly.perform writes
  rw [run_call]
  refine ⟨[], (site.peer.perform op).2, by simp [Site.absorb], List.forall_mem_nil _, kept, ?_,
    fun _ _ => trivial⟩
  intro fault failed
  generalize (site.peer.perform op).1 = outcome at returns failed
  cases outcome with
  | returned value => cases failed
  | ldapError text => cases failed
  | raised text => exact (returns text rfl).elim

theorem lastAnswer_confined (config : Config) :
    config.lastAnswer.Confined Connection.Orderly allowed fun _ => True := by
  refine .get_bind fun site orderly => ?_
  refine .bind (readable_total orderly.result.resultCode) fun code _ => ?_
  split
  · exact .pure trivial
  · exact .bind (readable_total orderly.result.describe) fun _ _ => .pure trivial

theorem apply_confined (config : Config) {op : Operation} (writes : op.Orderly) :
    (config.apply op).Confined Connection.Orderly allowed fun _ => True := by
  refine .bind (call_confined writes) fun outcome _ => ?_
  split
  · exact .pure trivial
  · exact lastAnswer_confined config

/-- The flags that are found can be written back. -/
theorem findUser_confined (config : Config) (account : String) :
    (config.findUser account).Confined Connection.Orderly allowed
      fun found => ∀ dn flags, found = .ok (dn, flags) → Bounded flags := by
  refine .bind (call_confined trivial) fun outcome _ => ?_
  split
  · exact .pure fun _ _ same => by cases same
  refine .get_bind fun site orderly => ?_
  refine .bind (readable_total orderly.result.resultCode) fun code _ => ?_
  split
  · exact .bind (readable_total orderly.result.describe) fun _ _ => .pure fun _ _ same => by cases same
  refine .bind (readable_confined orderly.response.entries) fun entries legible => ?_
  cases entries with
  | nil => exact .pure fun _ _ same => by cases same
  | cons entry rest =>
    refine .bind (readable_confined (legible entry List.mem_cons_self)) fun found bounded =>
      .pure ?_
    rintro dn flags ⟨⟩
    exact bounded

theorem changePassword_confined (config : Config) (principal : Principal) (password : String) :
    (config.changePassword principal password).Confined Connection.Orderly allowed
      fun _ => True := by
  unfold Config.changePassword
  split
  · exact .pure trivial
  refine .bind (findUser_confined config _) fun found _ => ?_
  split
  · exact .pure trivial
  · exact apply_confined config trivial

theorem changeStatus_confined (config : Config) (principal : Principal) (enabled : Bool) :
    (config.changeStatus principal enabled).Confined Connection.Orderly allowed fun _ => True := by
  unfold Config.changeStatus
  split
  · exact .pure trivial
  next account _ =>
  refine .bind (findUser_confined config account) fun found bounded => ?_
  split
  · exact .pure trivial
  next dn flags =>
  have writable := (bounded dn flags rfl).setDisabled (!enabled)
  dsimp only
  split
  · exact .bind (.emit (by simp [Log.Event.isReport, Log.Event.name])) fun _ _ => .pure trivial
  have reads : (readable (Value.writeInteger (setDisabled (!enabled) flags))).Confined
      Connection.Orderly allowed fun numeral => numeral = toString (setDisabled (!enabled) flags) :=
    readable_confined ⟨_, writable.writeInteger, rfl⟩
  refine .bind reads fun numeral written => ?_
  subst written
  exact apply_confined config ⟨_, writable.readFlags, writable⟩

theorem backend_confined (config : Config) : (backend config).Confined Connection.Orderly allowed where
  perform request _ := by
    change (config.perform request).Confined Connection.Orderly allowed fun _ => True
    unfold Config.perform
    split
    · exact changePassword_confined config _ _
    · exact changeStatus_confined config _ _
    · exact changeStatus_confined config _ _
  close := by
    refine .bind (call_confined trivial) fun outcome _ => ?_
    split
    · exact .pure trivial
    · exact .emit (by simp [Log.Event.isReport, Log.Event.name])

theorem connect_confined (failures : ∀ f, allowed (.failure f)) (endpoint : Endpoint)
    (config : Config) :
    (connect endpoint config).Confined Connection.Orderly allowed
      (Backend.Confined Connection.Orderly allowed) := by
  let ask (c : Connection) : Connection := { c with endpoints := c.endpoints ++ [endpoint] }
  have asks : ∀ c : Connection, c.Orderly → (ask c).Orderly := fun c orderly =>
    orderly.asked c.operations _
  refine .bind (.modify (g := ask) (fun _ => rfl) asks) fun _ _ => ?_
  refine .bind (call_confined trivial) fun outcome _ => ?_
  split
  · exact .throw (failures _)
  split
  · exact .bind (.emit (by simp [Log.Event.isReport, Log.Event.name])) fun _ _ =>
      .pure (backend_confined config)
  exact .get_bind fun site orderly =>
    .bind (readable_total orderly.result.describe) fun _ _ => .throw (failures _)

end

end AccountSync.Directory
