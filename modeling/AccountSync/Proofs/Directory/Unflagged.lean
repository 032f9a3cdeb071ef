import AccountSync.Proofs.Secrecy.Backends

/-!
# Control flags that a password change reads

A password change looks up the name of an entry, and reads the control flags that are sent with it
although it has no use for them. Flags that can be read make no difference, but those that cannot stop
the change before the write (`password_unflagged`).
-/

namespace AccountSync.Directory

/-! ### Responses but for control flags -/

def withoutControl : Value → Value
  | .map members => .map (members.filter fun member => member.1 ≠ "userAccountControl")
  | value => value

/-- A member of an item, without the control flags if they are in it. -/
def unflaggedMember (member : String × Value) : String × Value :=
  (member.1, if member.1 = "attributes" then withoutControl member.2 else member.2)

def unflagged : Value → Value
  | .map members => .map (members.map unflaggedMember)
  | item => item

def unflaggedResponse : Value → Value
  | .list items => .list (items.map unflagged)
  | response => response

def Reply.unflagged : Reply → Reply
  | .answered result response value => .answered result (response.map unflaggedResponse) value
  | reply => reply

def Account.unflagged (a : Account) : Account := { a with control := .null }

/-- A connection as it is but for the control flags of the entries that it returns. -/
def Connection.unflagged (c : Connection) : Connection :=
  { c with
    bind := c.bind.map Reply.unflagged
    search := c.search.map Reply.unflagged
    modify := c.modify.map Reply.unflagged
    modifyPassword := c.modifyPassword.map Reply.unflagged
    unbind := c.unbind.map Reply.unflagged
    accounts := c.accounts.map fun account => (account.1, account.2.unflagged)
    response := unflaggedResponse c.response }

/-- Connections that differ in control flags at most. -/
def Connection.Unflagged (c d : Connection) : Prop := c.unflagged = d.unflagged

theorem lookup_unflagged (members : List (String × Value)) (key : String) :
    (members.map unflaggedMember).lookup key =
      (members.lookup key).map fun value => if key = "attributes" then withoutControl value else value := by
  induction members with
  | nil => rfl
  | cons member rest ih =>
    rw [List.map_cons, List.lookup_cons, List.lookup_cons, ih, unflaggedMember]
    by_cases here : key = member.1
    · simp [here]
    · have other : (key == member.1) = false := beq_false_of_ne here
      simp [other]

theorem isEntry_unflagged (item : Value) : isEntry (unflagged item) = isEntry item := by
  cases item with
  | map members =>
    simp only [isEntry, unflagged, Value.member?, lookup_unflagged]
    cases members.lookup "type" <;> rfl
  | _ => rfl

theorem entriesOf_unflagged (items : List Value) :
    entriesOf (items.map unflagged) = (entriesOf items).map (List.map unflagged) := by
  induction items with
  | nil => rfl
  | cons item rest ih =>
    rw [List.map_cons, entriesOf, entriesOf, isEntry_unflagged, ih]
    cases isEntry item with
    | error fault => rfl
    | ok keep =>
      cases entriesOf rest with
      | error fault => rfl
      | ok entries => cases keep <;> rfl

theorem items_unflagged (response : Value) :
    (unflaggedResponse response).items = response.items.map (List.map unflagged) := by
  cases response <;> simp [unflaggedResponse, Value.items, unflagged, Except.map, Function.comp_def]

theorem responseEntries_unflagged (response : Value) :
    responseEntries (unflaggedResponse response) =
      (responseEntries response).map (List.map unflagged) := by
  have truthy : (unflaggedResponse response).isTruthy = response.isTruthy := by
    cases response <;> simp [unflaggedResponse, Value.isTruthy]
  rw [responseEntries, responseEntries, truthy, items_unflagged]
  cases response.isTruthy with
  | false => rfl
  | true =>
    cases response.items with
    | error fault => rfl
    | ok items => exact entriesOf_unflagged items

/-! ### Operations -/

namespace Connection

theorem replies_unflagged (c : Connection) (op : Operation) :
    c.unflagged.replies op = (c.replies op).map Reply.unflagged := by
  cases op <;> rfl

theorem setReplies_unflagged (c : Connection) (op : Operation) (rest : List Reply) :
    (c.setReplies rest op).unflagged = c.unflagged.setReplies (rest.map Reply.unflagged) op := by
  cases op <;> rfl

theorem found_unflagged (c : Connection) (filter : String) :
    (c.found filter).map Directory.unflagged =
      (c.unflagged.found filter).map Directory.unflagged := by
  simp only [found, unflagged, List.filter_map, List.map_map]
  rfl

theorem store_unflagged (dn : Value) (control : List String) (a : Account) :
    (store dn control a).unflagged = a.unflagged := by
  unfold store
  split
  · split <;> rfl
  · rfl

theorem unflagged_modified (c : Connection) (dn : Value) (control : List String) :
    (c.serve (.modify dn control)).unflagged = { c.unflagged with result := success } := by
  simp only [serve, unflagged, List.map_map, Function.comp_def, store_unflagged]

variable {c d : Connection}

theorem serve_unflagged (same : c.Unflagged d) (op : Operation) : (c.serve op).Unflagged (d.serve op) := by
  unfold Unflagged at same ⊢
  cases op with
  | bind => exact congrArg (fun shown : Connection => { shown with result := success }) same
  | modifyPassword dn password =>
    exact congrArg (fun shown : Connection => { shown with result := success }) same
  | unbind => exact same
  | modify dn control => rw [unflagged_modified, unflagged_modified, same]
  | search base filter =>
    have entries : (c.found filter).map Directory.unflagged = (d.found filter).map Directory.unflagged := by
      rw [found_unflagged, same, ← found_unflagged]
    exact congrArg₂ (fun (shown : Connection) found =>
      { shown with result := success, response := .list found }) same entries

theorem follow_unflagged (c : Connection) (reply : Reply) :
    c.unflagged.follow reply.unflagged = (c.follow reply).map id unflagged := by
  cases reply with
  | ldapError text => rfl
  | raised text => rfl
  | answered result response value => cases response <;> rfl

def asked (c : Connection) (op : Operation) : Connection :=
  { c with operations := c.operations ++ [op] }

theorem perform_eq (c : Connection) (op : Operation) :
    c.perform op = match (c.asked op).replies op with
      | [] => (.returned (.flag true), (c.asked op).serve op)
      | reply :: rest => ((c.asked op).setReplies rest op).follow reply := rfl

/-- Control flags have no say in how an operation ends, or in what else it leaves. -/
theorem perform_unflagged (same : c.Unflagged d) (op : Operation) :
    (c.perform op).1 = (d.perform op).1 ∧ (c.perform op).2.Unflagged (d.perform op).2 := by
  have start : (c.asked op).Unflagged (d.asked op) := by
    unfold Unflagged at same ⊢
    exact congrArg (fun shown : Connection => shown.asked op) same
  have replies : ((c.asked op).replies op).map Reply.unflagged =
      ((d.asked op).replies op).map Reply.unflagged := by
    rw [← replies_unflagged, ← replies_unflagged, start]
  rw [perform_eq, perform_eq]
  generalize (c.asked op).replies op = prepared at replies
  generalize (d.asked op).replies op = prepared' at replies
  cases prepared with
  | nil =>
    obtain rfl : prepared' = [] := List.map_eq_nil_iff.mp replies.symm
    exact ⟨rfl, serve_unflagged start op⟩
  | cons reply rest =>
    cases prepared' with
    | nil => cases replies
    | cons reply' rest' =>
      obtain ⟨first, others⟩ := List.cons.inj replies
      have followed : ((c.asked op).setReplies rest op).unflagged.follow reply.unflagged =
          ((d.asked op).setReplies rest' op).unflagged.follow reply'.unflagged := by
        rw [setReplies_unflagged, setReplies_unflagged, start, first, others]
      rw [follow_unflagged, follow_unflagged] at followed
      have outcome := congrArg Prod.fst followed
      have left := congrArg Prod.snd followed
      exact ⟨outcome, left⟩

end Connection

/-! ### Entries with their flags unread -/

/-- The name of an entry, and its control flags as they are sent. -/
def entryParts (entry : Value) : Except Value.Fault (Value × Value) := do
  let some dn ← entry.member? "dn" | throw (.missingKey "dn")
  let attributes := (← entry.member? "attributes").getD (.map [])
  return (dn, (← attributes.member? "userAccountControl").getD .null)

theorem readEntry_eq (entry : Value) :
    readEntry entry = do
      let (dn, control) ← entryParts entry
      return (dn, ← readFlags control) := by
  unfold readEntry entryParts
  cases entry.member? "dn" with
  | error fault => rfl
  | ok dn =>
    cases dn with
    | none => rfl
    | some dn =>
      cases entry.member? "attributes" with
      | error fault => rfl
      | ok attributes =>
        cases sent : (attributes.getD (.map [])).member? "userAccountControl" <;>
          simp [bind, Except.bind, pure, Except.pure, sent]

/-- Nothing but the control flags is lost without the control flags. -/
theorem entryParts_unflagged (entry : Value) :
    (entryParts (unflagged entry)).map Prod.fst = (entryParts entry).map Prod.fst := by
  cases entry with
  | map members =>
    have named : (unflagged (.map members)).member? "dn" = .ok (members.lookup "dn") := by
      simp [unflagged, Value.member?, lookup_unflagged]
    have carried : (unflagged (.map members)).member? "attributes" =
        .ok ((members.lookup "attributes").map withoutControl) := by
      simp [unflagged, Value.member?, lookup_unflagged]
    unfold entryParts
    rw [named, carried]
    simp only [Value.member?]
    cases members.lookup "dn" with
    | none => rfl
    | some dn =>
      cases members.lookup "attributes" with
      | none => rfl
      | some attributes => cases attributes <;> rfl
  | _ => rfl

theorem entryParts_both {entry entry' : Value} (same : unflagged entry = unflagged entry') :
    Both (fun parts parts' => parts.1 = parts'.1) (entryParts entry) (entryParts entry') := by
  refine .of_map ?_
  rw [← entryParts_unflagged, same, entryParts_unflagged]

/-- The search for an account, with the control flags left unread. -/
def Config.findEntry (config : Config) (account : String) :
    Act Connection (Except Answer (Value × Value)) := do
  match ← call (.search config.baseDn (userFilter account)) with
  | .error text => return .error (config.refuse transportError text)
  | .ok _ =>
    let peer := (← get).peer
    let code ← readable (resultCode peer.result)
    if code ≠ 0 then return .error (config.refuse code (← readable (describe peer.result)))
    match ← readable (responseEntries peer.response) with
    | [] =>
      return .error (config.refuse noSuchObject
        ("no AD account " ++ account ++ " under " ++ config.baseDn))
    | entry :: _ => return .ok (← readable (entryParts entry))

theorem readable_bind {α β : Type} (read : Except Value.Fault α) (next : α → Except Value.Fault β) :
    readable (read >>= next) = readable read >>= fun a => readable (next a) := by
  cases read <;> rfl

theorem findUser_eq (config : Config) (account : String) :
    config.findUser account = do
      match ← config.findEntry account with
      | .error answer => return .error answer
      | .ok (dn, control) => return .ok (dn, ← readable (readFlags control)) := by
  unfold Config.findUser Config.findEntry
  rw [bind_assoc]
  refine bind_congr fun outcome => ?_
  cases outcome with
  | error text => rfl
  | ok value =>
    rw [bind_assoc]
    refine bind_congr fun site => ?_
    dsimp only
    rw [bind_assoc]
    refine bind_congr fun code => ?_
    by_cases accepted : code ≠ 0
    · rw [if_pos accepted, if_pos accepted, bind_assoc]
      rfl
    · rw [if_neg accepted, if_neg accepted, bind_assoc]
      refine bind_congr fun entries => ?_
      cases entries with
      | nil => rfl
      | cons entry rest =>
        dsimp only
        rw [readEntry_eq, readable_bind, bind_assoc, bind_assoc]
        refine bind_congr fun parts => ?_
        rw [readable_bind, bind_assoc]
        rfl

/-! ### A password change -/

section

variable (config : Config) (principal : Principal) (password : String)

/-- A password change reads the control flags, and drops what it read. -/
theorem changePassword_eq :
    config.changePassword principal password =
      match config.account? principal with
      | none => return config.unmapped principal
      | some account => (do
        match ← config.findEntry account with
        | .error answer => return answer
        | .ok (dn, control) =>
          let _ ← readable (readFlags control)
          config.apply (.modifyPassword dn password)) := by
  unfold Config.changePassword
  cases config.account? principal with
  | none => rfl
  | some account =>
    dsimp only
    rw [findUser_eq, bind_assoc]
    refine bind_congr fun found => ?_
    cases found with
    | error answer => rfl
    | ok parts =>
      dsimp only
      rw [bind_assoc]
      rfl

end

section

variable {files : Files → Files → Prop}

theorem unflagged_call (op : Operation) :
    Act.Alike files Connection.Unflagged Eq (call op) (call op) :=
  call_alike fun same => Connection.perform_unflagged same op

theorem result_unflagged {c d : Connection} (same : c.Unflagged d) : c.result = d.result := by
  have shown : c.unflagged.result = d.unflagged.result := congrArg _ same
  exact shown

theorem operations_unflagged {c d : Connection} (same : c.Unflagged d) :
    c.operations = d.operations := by
  have shown : c.unflagged.operations = d.unflagged.operations := congrArg _ same
  exact shown

theorem entries_unflagged {c d : Connection} (same : c.Unflagged d) :
    Both (fun entries entries' => entries.map unflagged = entries'.map unflagged)
      (responseEntries c.response) (responseEntries d.response) := by
  have shown : c.unflagged.response = d.unflagged.response := congrArg _ same
  refine .of_map ?_
  rw [← responseEntries_unflagged, ← responseEntries_unflagged]
  exact congrArg responseEntries shown

theorem findEntry_unflagged (config : Config) (account : String) :
    Act.Alike files Connection.Unflagged (Both fun parts parts' => parts.1 = parts'.1)
      (config.findEntry account) (config.findEntry account) := by
  refine Act.Alike.bind (unflagged_call _) ?_
  rintro outcome _ rfl
  split
  · exact Parallel.pure (.failed _)
  refine Act.Alike.get_bind fun s t start => ?_
  dsimp only
  rw [result_unflagged start.peer]
  refine Act.Alike.bind (readable_alike _) ?_
  rintro code _ rfl
  split
  · refine Act.Alike.bind (readable_alike _) ?_
    rintro text _ rfl
    exact Parallel.pure (.failed _)
  · refine Act.Alike.bind (readable_both (entries_unflagged start.peer)) fun {entries entries'} same => ?_
    cases entries with
    | nil =>
      obtain rfl : entries' = [] := List.map_eq_nil_iff.mp same.symm
      exact Parallel.pure (.failed _)
    | cons entry rest =>
      obtain ⟨entry', rest', rfl, first, -⟩ := List.map_eq_cons_iff.mp same.symm
      exact Act.Alike.bind (readable_both (entryParts_both first.symm)) fun parts =>
        Parallel.pure (.done parts)

theorem apply_unflagged (config : Config) (op : Operation) :
    Act.Alike files Connection.Unflagged Eq (config.apply op) (config.apply op) :=
  apply_alike result_unflagged config (unflagged_call op)

end

section

variable (config : Config) (site : Site Connection)

theorem site_findUser (account : String) :
    ((config.findUser account).run site).2 = ((config.findEntry account).run site).2 := by
  rw [findUser_eq, Act.run_bind]
  cases (config.findEntry account).run site with
  | mk result after =>
    cases result with
    | error fault => rfl
    | ok found =>
      cases found with
      | error answer => rfl
      | ok parts => exact site_bind (site_readable _ _) fun _ => rfl

theorem operations_findEntry (account : String) :
    ((config.findEntry account).run site).2.peer.operations =
      site.peer.operations ++ [.search config.baseDn (userFilter account)] := by
  rw [← site_findUser, operations_findUser]

end

/-- The account of a principal is found, and its control flags cannot be read. -/
def Config.Obscured (config : Config) (principal : Principal) (site : Site Connection)
    (fault : Value.Fault) : Prop :=
  ∃ account dn control after, config.account? principal = some account ∧
    (config.findEntry account).run site = (.ok (.ok (dn, control)), after) ∧
    readFlags control = .error fault

section

variable {config : Config} {principal : Principal} {site site' : Site Connection} {fault : Value.Fault}

theorem Config.Obscured.run (obscured : config.Obscured principal site fault) (password : String) :
    ∃ account, config.account? principal = some account ∧
      ((config.changePassword principal password).run site).1 =
        .error (.defect (.unreadableReply fault)) ∧
      ((config.changePassword principal password).run site).2.peer.operations =
        site.peer.operations ++ [.search config.baseDn (userFilter account)] := by
  obtain ⟨account, dn, control, after, mapped, found, unread⟩ := obscured
  have searched := operations_findEntry config site account
  rw [found] at searched
  rw [changePassword_eq, mapped]
  dsimp only
  rw [Act.run_bind, found]
  dsimp only
  rw [unread]
  exact ⟨account, rfl, rfl, searched⟩

/-- Where the flags can be read, they have no part in a password change. -/
theorem changePassword_clear (password : String)
    (start : Site.Alike Eq Connection.Unflagged site site')
    (clear : ∀ fault, ¬ config.Obscured principal site fault)
    (clear' : ∀ fault, ¬ config.Obscured principal site' fault) :
    AccountSync.Ends (Site.Alike Eq Connection.Unflagged) (Site.Alike Eq Connection.Unflagged) Eq
      ((config.changePassword principal password).run site)
      ((config.changePassword principal password).run site') := by
  rw [changePassword_eq]
  cases mapped : config.account? principal with
  | none => exact .done rfl start
  | some account =>
    have searched := (findEntry_unflagged config account).run start
    dsimp only
    rw [Act.run_bind, Act.run_bind]
    generalize found : (config.findEntry account).run site = ran at searched
    generalize found' : (config.findEntry account).run site' = ran' at searched
    cases searched with
    | failed e left => exact .failed e left
    | done both left =>
      cases both with
      | failed answer => exact .done rfl left
      | @done parts parts' alike =>
        obtain ⟨dn, control⟩ := parts
        obtain ⟨dn', control'⟩ := parts'
        obtain rfl : dn = dn' := alike
        cases read : readFlags control with
        | error fault => exact absurd ⟨account, _, _, _, mapped, found, read⟩ (clear fault)
        | ok flags =>
          cases read' : readFlags control' with
          | error fault => exact absurd ⟨account, _, _, _, mapped, found', read'⟩ (clear' fault)
          | ok flags' =>
            dsimp only
            rw [run_readable_bind read, run_readable_bind read']
            exact (apply_unflagged config _).run left

/-- Flags that cannot be read hold back a write that is made without them. -/
theorem Config.Obscured.withheld (obscured : config.Obscured principal site fault) (password : String)
    (start : Site.Alike Eq Connection.Unflagged site site')
    (clear : ∀ fault, ¬ config.Obscured principal site' fault) {account : String}
    (mapped : config.account? principal = some account) :
    ∃ dn, ((config.changePassword principal password).run site').2.peer.operations =
      site'.peer.operations ++
        [.search config.baseDn (userFilter account), .modifyPassword dn password] := by
  obtain ⟨account', dn, control, after, mapped', found, unread⟩ := obscured
  obtain rfl : account = account' := Option.some.inj (mapped.symm.trans mapped')
  have searched := (findEntry_unflagged config account).run start
  have asked := operations_findEntry config site' account
  rw [found] at searched
  generalize found' : (config.findEntry account).run site' = ran' at searched asked
  cases searched with
  | done both left =>
    cases both with
    | @done _ parts' alike =>
      obtain ⟨dn', control'⟩ := parts'
      refine ⟨dn', ?_⟩
      rw [changePassword_eq, mapped]
      dsimp only
      rw [Act.run_bind, found']
      cases read : readFlags control' with
      | error fault => exact absurd ⟨account, _, _, _, mapped, found', read⟩ (clear fault)
      | ok flags =>
        dsimp only
        rw [run_readable_bind read, operations_apply, asked, List.append_assoc]
        rfl

/-- Runs that end the same and ask the same are stopped by the same flags. -/
theorem Config.Obscured.shared (obscured : config.Obscured principal site fault) (password : String)
    (start : Site.Alike Eq Connection.Unflagged site site')
    (results : ((config.changePassword principal password).run site).1 =
      ((config.changePassword principal password).run site').1)
    (asks : ((config.changePassword principal password).run site).2.peer.operations =
      ((config.changePassword principal password).run site').2.peer.operations) :
    config.Obscured principal site' fault := by
  obtain ⟨account, mapped, stops, searched⟩ := obscured.run password
  by_cases clear : ∀ other, ¬ config.Obscured principal site' other
  · obtain ⟨dn, wrote⟩ := obscured.withheld password start clear mapped
    rw [searched, wrote, operations_unflagged start.peer] at asks
    cases List.append_cancel_left asks
  · obtain ⟨other, also⟩ := not_forall_not.mp clear
    obtain ⟨_, _, stops', _⟩ := also.run password
    cases (stops.symm.trans results).trans stops'
    exact also

end

/-- Connections that differ in control flags alone are told apart by a password change only if the
flags of the entry that it finds cannot be read in one of them, or cannot be read for another reason.
It stops at such flags once it has searched, where it would otherwise have gone on to write. -/
theorem password_unflagged (config : Config) (principal : Principal) (password : String)
    {site site' : Site Connection} (start : Site.Alike Eq Connection.Unflagged site site') :
    let ended := (config.changePassword principal password).run site
    let ended' := (config.changePassword principal password).run site'
    (ended.1 = ended'.1 ∧ ended.2.peer.operations = ended'.2.peer.operations ↔
      ∀ fault, config.Obscured principal site fault ↔ config.Obscured principal site' fault) ∧
    ∀ fault, config.Obscured principal site fault →
      ∃ account, config.account? principal = some account ∧
        ended.1 = .error (.defect (.unreadableReply fault)) ∧
        ended.2.peer.operations =
          site.peer.operations ++ [.search config.baseDn (userFilter account)] ∧
        ((∀ other, ¬ config.Obscured principal site' other) →
          ∃ dn, ended'.2.peer.operations = site'.peer.operations ++
            [.search config.baseDn (userFilter account), .modifyPassword dn password]) := by
  intro ended ended'
  have back : Site.Alike Eq Connection.Unflagged site' site :=
    ⟨start.files.symm, start.log.symm, start.stage.symm, start.queueFile.symm, start.peer.symm⟩
  refine ⟨⟨?_, ?_⟩, ?_⟩
  · rintro ⟨results, asks⟩ fault
    exact ⟨fun obscured => obscured.shared password start results asks,
      fun obscured => obscured.shared password back results.symm asks.symm⟩
  · intro alike
    by_cases clear : ∀ fault, ¬ config.Obscured principal site fault
    · have clear' : ∀ fault, ¬ config.Obscured principal site' fault :=
        fun fault obscured => clear fault ((alike fault).mpr obscured)
      have ends := changePassword_clear password start clear clear'
      change AccountSync.Ends _ _ _ ended ended' at ends
      generalize ended = left at ends
      generalize ended' = right at ends
      cases ends with
      | failed e kept => exact ⟨rfl, operations_unflagged kept.peer⟩
      | done same kept => exact ⟨congrArg Except.ok same, operations_unflagged kept.peer⟩
    · obtain ⟨fault, obscured⟩ := not_forall_not.mp clear
      obtain ⟨account, mapped, stops, searched⟩ := obscured.run password
      obtain ⟨account', mapped', stops', searched'⟩ := ((alike fault).mp obscured).run password
      obtain rfl : account = account' := Option.some.inj (mapped.symm.trans mapped')
      refine ⟨stops.trans stops'.symm, ?_⟩
      rw [searched, searched', operations_unflagged start.peer]
  · intro fault obscured
    obtain ⟨account, mapped, stops, searched⟩ := obscured.run password
    exact ⟨account, mapped, stops, searched,
      fun clear => obscured.withheld password start clear mapped⟩

/-- A connection whose one search finds an entry with these control flags. -/
def flagging (control : Value) : Connection :=
  { Connection.start [] with
    search := [.answered (some Connection.success) (some (.list [Connection.Account.entry ⟨"D", control⟩]))
      (.flag true)] }

/-- Flags that are no number hold a password back that would be written with flags that are one. -/
theorem password_unflagged_blocked :
    let config : Config := ⟨"", none, 256⟩
    let principal : Principal := ⟨["u"], "R"⟩
    let site := Site.start (.empty []) (flagging (.text "off"))
    let site' := Site.start (.empty []) (flagging (.text "512"))
    Site.Alike Eq Connection.Unflagged site site' ∧
      ((config.changePassword principal "p").run site).1 =
        .error (.defect (.unreadableReply (.notNumeral (Value.shownText "off")))) ∧
      ((config.changePassword principal "p").run site).2.peer.operations =
        [.search "" (userFilter "u")] ∧
      ∃ dn, ((config.changePassword principal "p").run site').2.peer.operations =
        [.search "" (userFilter "u"), .modifyPassword dn "p"] := by
  intro config principal site site'
  have start : Site.Alike Eq Connection.Unflagged site site' := ⟨rfl, rfl, rfl, rfl, rfl⟩
  obtain ⟨-, stopped⟩ := password_unflagged config principal "p" start
  have obscured : config.Obscured principal site (.notNumeral (Value.shownText "off")) :=
    ⟨"u", .text "D", .text "off", _, rfl, rfl, rfl⟩
  have clear : ∀ other, ¬ config.Obscured principal site' other := by
    rintro other ⟨account, dn, control, after, mapped, found, unread⟩
    obtain rfl : "u" = account := Option.some.inj mapped
    have shown : ((config.findEntry "u").run site').1 = .ok (.ok (.text "D", .text "512")) := rfl
    have read : readFlags (.text "512") = .ok 512 := rfl
    rw [found] at shown
    cases shown
    cases read.symm.trans unread
  obtain ⟨account, mapped, raises, searched, written⟩ := stopped _ obscured
  obtain rfl : "u" = account := Option.some.inj mapped
  exact ⟨start, raises, searched, written clear⟩

end AccountSync.Directory
