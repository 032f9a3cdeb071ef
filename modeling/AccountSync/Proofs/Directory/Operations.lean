import AccountSync.Directory.Backend

/-!
# Operations on a connection

What a call returns (`run_call`) and what is asked whatever it returns (`operations_findUser`,
`operations_apply`), what the members of a result say (`resultCode_map`, `describe_map`), and what the
backend reads from a connection that has no prepared replies (`run_call_served`, `run_apply`,
`responseEntries_found`).
-/

namespace AccountSync.Directory

theorem run_get_bind {α : Type} (f : Site Connection → Act Connection α) (site : Site Connection) :
    (get >>= f).run site = (f site).run site := rfl

/-- What a call returns; an error that the directory itself raises is a value. -/
def Outcome.result : Outcome → Except Fault (Except String Value)
  | .returned value => .ok (.ok value)
  | .ldapError text => .ok (.error text)
  | .raised text => .error (.defect (.raised text))

theorem run_call (op : Operation) (site : Site Connection) :
    (call op).run site =
      ((site.peer.perform op).1.result, { site with peer := (site.peer.perform op).2 }) := by
  unfold call
  rw [run_get_bind]
  generalize site.peer.perform op = performed
  obtain ⟨outcome, peer⟩ := performed
  cases outcome <;> rfl

theorem run_readable {α : Type} {a : α} {read : Except Value.Fault α} (read_eq : read = .ok a)
    (site : Site Connection) : (readable read).run site = (.ok a, site) := by
  rw [read_eq]
  rfl

theorem run_readable_bind {α β : Type} {a : α} {read : Except Value.Fault α} (read_eq : read = .ok a)
    (f : α → Act Connection β) (site : Site Connection) :
    (readable read >>= f).run site = (f a).run site := by
  rw [Act.run_bind, run_readable read_eq]

/-- An operation of the work between bind and unbind. -/
def Operation.isExchange : Operation → Bool
  | .bind => false
  | .unbind => false
  | _ => true

theorem Connection.operations_serve (c : Connection) (op : Operation) :
    (c.serve op).operations = c.operations := by
  cases op <;> rfl

theorem Connection.operations_perform (c : Connection) (op : Operation) :
    (c.perform op).2.operations = c.operations ++ [op] := by
  unfold perform
  dsimp only
  split
  · exact operations_serve _ op
  · next reply rest _ =>
    cases reply <;> cases op <;> rfl

/-! ### What is asked -/

section

variable {α β : Type}

theorem site_readable (read : Except Value.Fault α) (site : Site Connection) :
    ((readable read).run site).2 = site := by
  cases read with
  | ok a => rfl
  | error fault => rfl

/-- Steps that only look at the site, one after the other. -/
theorem site_bind {x : Act Connection α} {f : α → Act Connection β} {site : Site Connection}
    (first : (x.run site).2 = site) (next : ∀ a, ((f a).run site).2 = site) :
    ((x >>= f).run site).2 = site := by
  rw [Act.run_bind]
  generalize x.run site = ran at first
  obtain ⟨result, after⟩ := ran
  cases result with
  | ok a =>
    rw [show after = site from first]
    exact next a
  | error fault => exact first

end

section

variable (config : Config) (site : Site Connection)

theorem site_lastAnswer : (config.lastAnswer.run site).2 = site := by
  unfold Config.lastAnswer
  rw [run_get_bind]
  refine site_bind (site_readable _ site) fun code => ?_
  split
  · rfl
  · exact site_bind (site_readable _ site) fun text => rfl

/-- Whatever a write is answered with, it is all that is asked. -/
theorem operations_apply (op : Operation) :
    ((config.apply op).run site).2.peer.operations = site.peer.operations ++ [op] := by
  have asked := site.peer.operations_perform op
  unfold Config.apply
  rw [Act.run_bind, run_call]
  cases (site.peer.perform op).1 with
  | returned value =>
    dsimp only [Outcome.result]
    rw [site_lastAnswer]
    exact asked
  | ldapError text => exact asked
  | raised text => exact asked

/-- Whatever a search is answered with, it is all that is asked to find an account. -/
theorem operations_findUser (name : String) :
    ((config.findUser name).run site).2.peer.operations =
      site.peer.operations ++ [.search config.baseDn (userFilter name)] := by
  have asked := site.peer.operations_perform (.search config.baseDn (userFilter name))
  unfold Config.findUser
  rw [Act.run_bind, run_call]
  generalize site.peer.perform (.search config.baseDn (userFilter name)) = searched at asked
  cases searched.1 with
  | ldapError text => exact asked
  | raised text => exact asked
  | returned value =>
    dsimp only [Outcome.result]
    rw [run_get_bind, site_bind (site_readable _ _) fun code => ?_]
    · exact asked
    split
    · exact site_bind (site_readable _ _) fun text => rfl
    · refine site_bind (site_readable _ _) fun entries => ?_
      cases entries with
      | nil => rfl
      | cons entry rest => exact site_bind (site_readable _ _) fun found => rfl

end

/-! ### Results -/

/-- The code among the members of a result. -/
def codeOf (members : List (String × Value)) : Except Value.Fault Int :=
  match members.lookup "result" with
  | none => .ok (-1)
  | some code => code.toInteger

/-- A member of a result as it is shown: not at all if it is missing or empty. -/
def shown (members : List (String × Value)) (key : String) : String :=
  match members.lookup key with
  | none => ""
  | some value => if value.isTruthy then value.asText else ""

/-- What a result says of itself. -/
def explanation (members : List (String × Value)) : String :=
  if members = [] then "no result from server"
  else match shown members "description", shown members "message" with
    | "", "" => "unknown error"
    | description, "" => description
    | "", message => message
    | description, message => description ++ ": " ++ message

theorem resultCode_map (members : List (String × Value)) :
    resultCode (.map members) = codeOf members := by
  unfold resultCode codeOf
  simp only [Value.member?, bind, Except.bind]
  cases members.lookup "result" <;> rfl

theorem resultText_map (members : List (String × Value)) (key : String) :
    resultText key (.map members) = .ok (shown members key) := by
  unfold resultText shown
  simp only [Value.member?, bind, Except.bind]
  cases members.lookup key <;> rfl

theorem describe_map (members : List (String × Value)) :
    describe (.map members) = .ok (explanation members) := by
  unfold describe explanation
  rw [resultText_map, resultText_map]
  cases members with
  | nil => rfl
  | cons member rest =>
    generalize shown (member :: rest) "description" = description
    generalize shown (member :: rest) "message" = message
    have filled : (Value.map (member :: rest)).isTruthy = true := rfl
    by_cases first : description = "" <;> by_cases second : message = ""
    all_goals simp [filled, first, second, bind, Except.bind, pure, Except.pure,
      String.intercalate_cons_cons]

theorem codeOf_total {members : List (String × Value)}
    (reads : ∀ code, members.lookup "result" = some code → ∃ n, code.toInteger = .ok n) :
    ∃ code, codeOf members = .ok code := by
  unfold codeOf
  cases found : members.lookup "result" with
  | none => exact ⟨-1, rfl⟩
  | some code => exact reads code found

/-! ### Replies that are not prepared -/

/-- The connection after an operation for which no reply was prepared. -/
def Connection.served (c : Connection) (op : Operation) : Connection :=
  ({ c with operations := c.operations ++ [op] } : Connection).serve op

theorem Connection.perform_served {c : Connection} {op : Operation} (unscripted : c.replies op = []) :
    c.perform op = (.returned (.flag true), c.served op) := by
  have none : ({ c with operations := c.operations ++ [op] } : Connection).replies op = [] := by
    rw [← unscripted]
    cases op <;> rfl
  simp only [Connection.perform, none]
  rfl

theorem run_call_served {op : Operation} {site : Site Connection}
    (unscripted : site.peer.replies op = []) :
    (call op).run site = (.ok (.ok (.flag true)), { site with peer := site.peer.served op }) := by
  rw [run_call, Connection.perform_served unscripted]
  rfl

theorem resultCode_success : resultCode Connection.success = .ok 0 := rfl

theorem run_apply (config : Config) {op : Operation} {site : Site Connection}
    (unscripted : site.peer.replies op = []) (succeeds : (site.peer.served op).result = Connection.success) :
    (config.apply op).run site = (.ok .success, { site with peer := site.peer.served op }) := by
  unfold Config.apply
  rw [Act.run_bind, run_call_served unscripted]
  change Act.run (readable (resultCode (site.peer.served op).result) >>= _) _ = _
  rw [succeeds, run_readable_bind resultCode_success]
  rfl

theorem entriesOf_entries (accounts : List Account) :
    entriesOf (accounts.map Connection.Account.entry) =
      .ok (accounts.map Connection.Account.entry) := by
  induction accounts with
  | nil => rfl
  | cons account rest ih =>
    rw [List.map_cons, entriesOf, ih]
    rfl

theorem responseEntries_found (accounts : List Account) :
    responseEntries (.list (accounts.map Connection.Account.entry)) =
      .ok (accounts.map Connection.Account.entry) := by
  unfold responseEntries
  cases accounts with
  | nil => rfl
  | cons account rest => exact entriesOf_entries (account :: rest)

theorem readEntry_entry {account : Account} {flags : Int} (read : readFlags account.control = .ok flags) :
    readEntry (Connection.Account.entry account) = .ok (.text account.dn, flags) := by
  change (do return (Value.text account.dn, ← readFlags account.control) : Except Value.Fault _) = _
  rw [read]
  rfl

end AccountSync.Directory
