import AccountSync.Proofs.Directory.Accounts
import AccountSync.Proofs.Directory.Operations
import Mathlib

/-!
# The directory as a machine of accounts

Behind the directory backend stands a machine that knows accounts by their names and nothing of
searches and numerals. Over every sequence of changes the backend answers, and leaves the directory,
as the machine does (`answers_refine`).
-/

namespace AccountSync.Directory

/-! ### The machine -/

structure Entry where
  dn : String
  flags : Int
  deriving DecidableEq, Repr

/-- Accounts by their names. -/
abbrev Book := String → Option Entry

def Book.put (book : Book) (name : String) (entry : Entry) : Book :=
  fun other => if other = name then some entry else book other

inductive Ask where
  | status (principal : Principal) (enabled : Bool)
  | password (principal : Principal) (text : String)

def Ask.principal : Ask → Principal
  | status principal _ => principal
  | password principal _ => principal

/-- The first component names the account if it is the only one, or if the only other one is the
base instance, which must not be empty. -/
def accountName? (baseInstance : Option String) (principal : Principal) : Option String :=
  if principal.components.length = 1 ∨ principal.components.length = 2 ∧
      principal.components[1]? = baseInstance ∧ baseInstance ≠ some ""
  then principal.components.head? else none

structure Machine where
  book : Book
  /-- What was written to the directory, oldest first. -/
  writes : List Operation
  /-- What was logged, oldest first. -/
  notices : List Log.Event

namespace Machine

def change (m : Machine) (name : String) (entry : Entry) : Ask → Machine
  | .password _ text => { m with writes := m.writes ++ [.modifyPassword (.text entry.dn) text] }
  | .status _ enabled =>
    let flags := toggled enabled entry.flags
    if flags = entry.flags then
      { m with notices := m.notices ++ [.statusUnchanged name enabled] }
    else
      { m with
        book := m.book.put name { entry with flags }
        writes := m.writes ++ [.modify (.text entry.dn) [toString flags]] }

def step (config : Config) (m : Machine) (ask : Ask) : Answer × Machine :=
  match accountName? config.baseInstance ask.principal with
  | none =>
    (⟨53, Answer.clip config.messageLimit
      ("principal " ++ ask.principal.text ++ " does not map to an AD account")⟩, m)
  | some name =>
    match m.book name with
    | none =>
      (⟨32, Answer.clip config.messageLimit
        ("no AD account " ++ name ++ " under " ++ config.baseDn)⟩, m)
    | some entry => (⟨0, ""⟩, m.change name entry ask)

def run (config : Config) : Machine → List Ask → List Answer × Machine
  | m, [] => ([], m)
  | m, ask :: rest =>
    let (answer, next) := m.step config ask
    let (answers, last) := run config next rest
    (answer :: answers, last)

end Machine

/-! ### The backend on a directory -/

def Config.answer (config : Config) : Ask → Act Connection Answer
  | .status principal enabled => config.changeStatus principal enabled
  | .password principal text => config.changePassword principal text

def Operation.isWrite : Operation → Bool
  | .modify .. => true
  | .modifyPassword .. => true
  | _ => false

/-- A connection with no prepared replies, whose searches find the accounts by their filters. -/
structure Serves (directory : List (String × Account)) (c : Connection) : Prop where
  search : c.search = []
  modify : c.modify = []
  modifyPassword : c.modifyPassword = []
  accounts : c.accounts = directory.map fun named => (escape named.1, named.2)

/-- Each name and each `dn` stands for one account, and all flags can be read and written. -/
structure Sound (directory : List (String × Account)) : Prop where
  names : (directory.map fun named => named.1).Nodup
  dns : (directory.map fun named => named.2.dn).Nodup
  flags : ∀ named ∈ directory, ∃ flags, readFlags named.2.control = .ok flags ∧ Bounded flags

def Account.entry? (account : Account) : Option Entry :=
  match readFlags account.control with
  | .ok flags => some ⟨account.dn, flags⟩
  | .error _ => none

def bookOf (directory : List (String × Account)) : Book :=
  fun name => (directory.lookup name).bind Account.entry?

/-! ### Accounts in a list -/

theorem filter_eq_lookup {directory : List (String × Account)}
    (names : (directory.map fun named => named.1).Nodup) (name : String) :
    (directory.filter fun named => named.1 = name).map (fun named => named.2) =
      (directory.lookup name).toList := by
  induction directory with
  | nil => rfl
  | cons named rest ih =>
    obtain ⟨key, account⟩ := named
    obtain ⟨fresh, others⟩ := List.nodup_cons.mp names
    by_cases same : key = name
    · subst same
      have none : rest.filter (fun other => other.1 = key) = [] := by
        refine List.filter_eq_nil_iff.mpr fun other member again => fresh ?_
        exact List.mem_map.mpr ⟨other, member, of_decide_eq_true again⟩
      simp [none]
    · have different : (name == key) = false := beq_false_of_ne (Ne.symm same)
      rw [List.filter_cons_of_neg (by simpa using same), ih others, List.lookup_cons, different]

theorem lookup_map (directory : List (String × Account)) (f : Account → Account) (name : String) :
    (directory.map fun named => (named.1, f named.2)).lookup name =
      (directory.lookup name).map f := by
  induction directory with
  | nil => rfl
  | cons named rest ih =>
    rw [List.map_cons, List.lookup_cons, List.lookup_cons, ih]
    cases name == named.1 <;> rfl

theorem mem_of_lookup {directory : List (String × Account)} {name : String} {account : Account}
    (found : directory.lookup name = some account) : (name, account) ∈ directory := by
  obtain ⟨front, back, rfl, _⟩ := List.lookup_eq_some_iff.mp found
  simp

/-! ### The backend on a directory that it keeps -/

namespace Serves

variable {directory : List (String × Account)} {c : Connection}

theorem served_search (serves : Serves directory c) (base filter : String) :
    Serves directory (c.served (.search base filter)) :=
  ⟨serves.search, serves.modify, serves.modifyPassword, serves.accounts⟩

theorem served_modifyPassword (serves : Serves directory c) (dn : Value) (text : String) :
    Serves directory (c.served (.modifyPassword dn text)) :=
  ⟨serves.search, serves.modify, serves.modifyPassword, serves.accounts⟩

theorem served_modify (serves : Serves directory c) (dn : Value) (control : List String) :
    Serves (directory.map fun named => (named.1, Connection.store dn control named.2))
      (c.served (.modify dn control)) where
  search := serves.search
  modify := serves.modify
  modifyPassword := serves.modifyPassword
  accounts := by
    change c.accounts.map (fun named => (named.1, Connection.store dn control named.2)) = _
    rw [serves.accounts, List.map_map, List.map_map]
    rfl

theorem found (serves : Serves directory c) (names : (directory.map fun named => named.1).Nodup)
    (name : String) :
    c.found (userFilter name) = (directory.lookup name).toList.map Connection.Account.entry := by
  rw [← filter_eq_lookup names, Connection.found, serves.accounts, List.filter_map, List.map_map,
    List.map_map]
  have same : ∀ named ∈ directory, ((fun account : String × Account =>
      decide (matching account.1 = userFilter name)) ∘ fun named => (escape named.1, named.2)) named =
      decide (named.1 = name) := by
    intro named _
    exact decide_eq_decide.mpr userFilter_inj
  rw [List.filter_congr same]
  rfl

end Serves

/-- What follows a search: the entry's name and flags if there is one, a refusal if not. -/
theorem run_findUser (config : Config) {directory : List (String × Account)} {site : Site Connection}
    (serves : Serves directory site.peer) (names : (directory.map fun named => named.1).Nodup)
    (name : String) :
    (config.findUser name).run site =
      Act.run (match directory.lookup name with
        | none => return .error (config.refuse noSuchObject
            ("no AD account " ++ name ++ " under " ++ config.baseDn))
        | some account => return .ok (← readable (readEntry (Connection.Account.entry account))))
        { site with peer := site.peer.served (.search config.baseDn (userFilter name)) } := by
  have unscripted : site.peer.replies (.search config.baseDn (userFilter name)) = [] := serves.search
  unfold Config.findUser
  rw [Act.run_bind, run_call_served unscripted]
  have code : resultCode (site.peer.served (.search config.baseDn (userFilter name))).result = .ok 0 :=
    resultCode_success
  have entries :
      responseEntries (site.peer.served (.search config.baseDn (userFilter name))).response =
        .ok ((directory.lookup name).toList.map Connection.Account.entry) := by
    rw [← responseEntries_found, ← serves.found names]
    rfl
  dsimp only
  rw [run_get_bind, run_readable_bind code, if_neg (by decide), run_readable_bind entries]
  cases directory.lookup name <;> rfl

/-! ### A change of one account -/

/-- The directory after the flags under a `dn` are written. -/
def rewritten (dn : String) (flags : Int) (directory : List (String × Account)) :
    List (String × Account) :=
  directory.map fun named => (named.1, Connection.store (.text dn) [toString flags] named.2)

theorem store_same (account : Account) (numeral : String) :
    Connection.store (.text account.dn) [numeral] account =
      { account with control := .list [.text numeral] } := by
  simp [Connection.store]

theorem store_other {dn : String} {account : Account} (other : account.dn ≠ dn) (numeral : String) :
    Connection.store (.text dn) [numeral] account = account := by
  simp [Connection.store, other]

theorem dn_store (dn : Value) (control : List String) (account : Account) :
    (Connection.store dn control account).dn = account.dn := by
  unfold Connection.store
  cases dn with
  | text name => dsimp only; split <;> rfl
  | _ => rfl

namespace Sound

variable {directory : List (String × Account)}

theorem rewritten (sound : Sound directory) {flags : Int} (bounded : Bounded flags) (dn : String) :
    Sound (rewritten dn flags directory) where
  names := by
    rw [Directory.rewritten, List.map_map]
    exact sound.names
  dns := by
    rw [Directory.rewritten, List.map_map]
    simpa only [Function.comp_def, dn_store] using sound.dns
  flags := by
    intro named member
    obtain ⟨former, belongs, rfl⟩ := List.mem_map.mp member
    by_cases same : former.2.dn = dn
    · subst same
      rw [store_same]
      exact ⟨flags, bounded.readFlags, bounded⟩
    · rw [store_other same]
      exact sound.flags former belongs

theorem readFlags_of_lookup (sound : Sound directory) {name : String} {account : Account}
    (found : directory.lookup name = some account) :
    ∃ flags, readFlags account.control = .ok flags ∧ Bounded flags ∧
      bookOf directory name = some ⟨account.dn, flags⟩ := by
  obtain ⟨flags, read, bounded⟩ := sound.flags _ (mem_of_lookup found)
  refine ⟨flags, read, bounded, ?_⟩
  simp [bookOf, found, Account.entry?, read]

theorem name_eq (sound : Sound directory) {name other : String} {account second : Account}
    (found : directory.lookup name = some account) (also : directory.lookup other = some second)
    (same : second.dn = account.dn) : other = name :=
  congrArg Prod.fst
    (List.inj_on_of_nodup_map sound.dns (mem_of_lookup also) (mem_of_lookup found) same)

/-- As every `dn` is that of one account, a write to it changes that account only. -/
theorem bookOf_rewritten (sound : Sound directory) {name : String} {account : Account}
    (found : directory.lookup name = some account) {flags : Int} (bounded : Bounded flags) :
    bookOf (Directory.rewritten account.dn flags directory) =
      (bookOf directory).put name ⟨account.dn, flags⟩ := by
  funext other
  rw [bookOf, Directory.rewritten, lookup_map, Book.put]
  by_cases same : other = name
  · subst same
    rw [if_pos rfl, found, Option.map_some, store_same, Option.bind_some, Account.entry?,
      bounded.readFlags]
  · rw [if_neg same, bookOf]
    cases also : directory.lookup other with
    | none => rfl
    | some second =>
      have apart : second.dn ≠ account.dn := fun dn => same (sound.name_eq found also dn)
      rw [Option.map_some, store_other apart]

end Sound

/-! ### One answer -/

theorem account?_eq (config : Config) (principal : Principal) :
    config.account? principal = accountName? config.baseInstance principal := by
  unfold Config.account? accountName?
  match principal.components with
  | [] => simp
  | [name] => simp
  | [name, second] =>
    by_cases based : config.baseInstance = some second
    · simp [based, eq_comm]
    · simp [based, Ne.symm based]
  | _ :: _ :: _ :: _ => simp

/-- What both changes begin with: an answer for whom no account is found. -/
def Config.withUser (config : Config) (principal : Principal)
    (proceed : String → Value → Int → Act Connection Answer) : Act Connection Answer :=
  match config.account? principal with
  | none => return config.unmapped principal
  | some name => do
    match ← config.findUser name with
    | .error answer => return answer
    | .ok (dn, flags) => proceed name dn flags

def Config.proceed (config : Config) : Ask → String → Value → Int → Act Connection Answer
  | .password _ text, _, dn, _ => config.apply (.modifyPassword dn text)
  | .status _ enabled, name, dn, flags => do
    let wanted := setDisabled (!enabled) flags
    if wanted = flags then
      Act.emit (.statusUnchanged name enabled)
      return .success
    let numeral ← readable (Value.writeInteger wanted)
    config.apply (.modify dn [numeral])

theorem answer_eq (config : Config) (ask : Ask) :
    config.answer ask = config.withUser ask.principal (config.proceed ask) := by
  cases ask <;> rfl

theorem proceed_status (config : Config) (principal : Principal) (enabled : Bool) (name : String)
    (dn : Value) (flags : Int) :
    config.proceed (.status principal enabled) name dn flags =
      if toggled enabled flags = flags then do
        Act.emit (.statusUnchanged name enabled)
        return .success
      else (do
        let numeral ← readable (Value.writeInteger (toggled enabled flags))
        config.apply (.modify dn [numeral])) := by
  rw [← setDisabled_eq]
  rfl

theorem Machine.change_status (m : Machine) (name : String) (entry : Entry) (principal : Principal)
    (enabled : Bool) :
    m.change name entry (.status principal enabled) =
      if toggled enabled entry.flags = entry.flags then
        { m with notices := m.notices ++ [.statusUnchanged name enabled] }
      else
        { m with
          book := m.book.put name ⟨entry.dn, toggled enabled entry.flags⟩
          writes := m.writes ++
            [.modify (.text entry.dn) [toString (toggled enabled entry.flags)]] } := rfl

/-- A site on which a run that began at `origin` has left what the machine has left. -/
structure Simulates (origin : Site Connection) (m : Machine) (site : Site Connection) : Prop where
  accounts : ∃ directory, Serves directory site.peer ∧ Sound directory ∧ bookOf directory = m.book
  writes : site.peer.operations.filter Operation.isWrite = m.writes
  frame : site = { origin with
    peer := site.peer
    log := origin.log ++ m.notices.map fun event => ⟨event, origin.queueFile⟩ }

theorem operations_served (c : Connection) (op : Operation) :
    (c.served op).operations = c.operations ++ [op] :=
  Connection.operations_serve _ op

namespace Simulates

variable {origin site : Site Connection} {m : Machine}

theorem searched (simulates : Simulates origin m site) (base filter : String) :
    Simulates origin m { site with peer := site.peer.served (.search base filter) } where
  accounts := by
    obtain ⟨directory, serves, kept⟩ := simulates.accounts
    exact ⟨directory, serves.served_search base filter, kept⟩
  writes := by
    rw [operations_served, List.filter_append, simulates.writes]
    exact List.append_nil _
  frame := by
    conv_lhs => rw [simulates.frame]

theorem unchanged (simulates : Simulates origin m site) (name : String) (enabled : Bool) :
    Simulates origin { m with notices := m.notices ++ [.statusUnchanged name enabled] }
      { site with log := site.log ++ [⟨.statusUnchanged name enabled, site.queueFile⟩] } where
  accounts := simulates.accounts
  writes := simulates.writes
  frame := by
    conv_lhs => rw [simulates.frame]
    simp

theorem passwordSet (simulates : Simulates origin m site) (dn text : String) :
    Simulates origin { m with writes := m.writes ++ [.modifyPassword (.text dn) text] }
      { site with peer := site.peer.served (.modifyPassword (.text dn) text) } where
  accounts := by
    obtain ⟨directory, serves, kept⟩ := simulates.accounts
    exact ⟨directory, serves.served_modifyPassword _ text, kept⟩
  writes := by
    rw [operations_served, List.filter_append, simulates.writes]
    rfl
  frame := by
    conv_lhs => rw [simulates.frame]

theorem flagsSet (simulates : Simulates origin m site) {name dn : String} {former flags : Int}
    (present : m.book name = some ⟨dn, former⟩) (bounded : Bounded flags) :
    Simulates origin
      { m with
        book := m.book.put name ⟨dn, flags⟩
        writes := m.writes ++ [.modify (.text dn) [toString flags]] }
      { site with peer := site.peer.served (.modify (.text dn) [toString flags]) } where
  accounts := by
    obtain ⟨directory, serves, sound, book⟩ := simulates.accounts
    refine ⟨rewritten dn flags directory, serves.served_modify _ _, sound.rewritten bounded dn, ?_⟩
    rw [← book, bookOf] at present
    obtain ⟨account, found, entry⟩ := Option.bind_eq_some_iff.mp present
    have same : account.dn = dn := by
      unfold Account.entry? at entry
      split at entry
      · cases entry
        rfl
      · cases entry
    rw [← same, sound.bookOf_rewritten found bounded, book]
  writes := by
    rw [operations_served, List.filter_append, simulates.writes]
    rfl
  frame := by
    conv_lhs => rw [simulates.frame]

end Simulates

theorem run_withUser_unmapped {config : Config} {principal : Principal}
    {proceed : String → Value → Int → Act Connection Answer}
    (unmapped : config.account? principal = none) (site : Site Connection) :
    (config.withUser principal proceed).run site = (.ok (config.unmapped principal), site) := by
  rw [Config.withUser, unmapped]
  rfl

section Mapped

variable {config : Config} {principal : Principal}
  {proceed : String → Value → Int → Act Connection Answer} {site : Site Connection} {name : String}
  {directory : List (String × Account)}

theorem run_withUser_absent (mapped : config.account? principal = some name)
    (serves : Serves directory site.peer) (sound : Sound directory)
    (absent : directory.lookup name = none) :
    (config.withUser principal proceed).run site =
      (.ok (config.refuse noSuchObject ("no AD account " ++ name ++ " under " ++ config.baseDn)),
        { site with peer := site.peer.served (.search config.baseDn (userFilter name)) }) := by
  rw [Config.withUser, mapped]
  dsimp only
  rw [Act.run_bind, run_findUser config serves sound.names name, absent]
  rfl

theorem run_withUser_present (mapped : config.account? principal = some name)
    (serves : Serves directory site.peer) (sound : Sound directory) {account : Account}
    (present : directory.lookup name = some account) {flags : Int}
    (read : readFlags account.control = .ok flags) :
    (config.withUser principal proceed).run site =
      (proceed name (.text account.dn) flags).run
        { site with peer := site.peer.served (.search config.baseDn (userFilter name)) } := by
  rw [Config.withUser, mapped]
  dsimp only
  rw [Act.run_bind, run_findUser config serves sound.names name, present]
  dsimp only
  rw [run_readable_bind (readEntry_entry read)]
  rfl

end Mapped

/-- The change itself, once the account is found. -/
theorem Simulates.proceed (config : Config) {origin site : Site Connection} {m : Machine}
    (simulates : Simulates origin m site) {name : String} {entry : Entry}
    (present : m.book name = some entry) (bounded : Bounded entry.flags) (ask : Ask) :
    ∃ after, (config.proceed ask name (.text entry.dn) entry.flags).run site = (.ok ⟨0, ""⟩, after) ∧
      Simulates origin (m.change name entry ask) after := by
  obtain ⟨directory, serves, _⟩ := simulates.accounts
  cases ask with
  | password principal text =>
    exact ⟨_, run_apply config serves.modifyPassword rfl, simulates.passwordSet entry.dn text⟩
  | status principal enabled =>
    rw [proceed_status, Machine.change_status]
    by_cases same : toggled enabled entry.flags = entry.flags
    · rw [if_pos same, if_pos same]
      exact ⟨_, rfl, simulates.unchanged name enabled⟩
    · rw [if_neg same, if_neg same]
      have writable := bounded.toggled enabled
      rw [run_readable_bind writable.writeInteger]
      exact ⟨_, run_apply config serves.modify rfl, simulates.flagsSet present writable⟩

theorem Simulates.step (config : Config) {origin site : Site Connection} {m : Machine}
    (simulates : Simulates origin m site) (ask : Ask) :
    ∃ after, (config.answer ask).run site = (.ok (m.step config ask).1, after) ∧
      Simulates origin (m.step config ask).2 after := by
  obtain ⟨directory, serves, sound, book⟩ := simulates.accounts
  rw [answer_eq, Machine.step, ← account?_eq]
  cases mapped : config.account? ask.principal with
  | none => exact ⟨site, run_withUser_unmapped mapped site, simulates⟩
  | some name =>
    have searched := simulates.searched config.baseDn (userFilter name)
    cases found : directory.lookup name with
    | none =>
      have absent : m.book name = none := by rw [← book, bookOf, found, Option.bind_none]
      dsimp only
      rw [absent]
      exact ⟨_, run_withUser_absent mapped serves sound found, searched⟩
    | some account =>
      obtain ⟨flags, read, bounded, entry⟩ := sound.readFlags_of_lookup found
      rw [book] at entry
      dsimp only
      rw [entry, run_withUser_present mapped serves sound found read]
      exact searched.proceed config entry bounded ask

/-! ### Every sequence of answers -/

theorem Simulates.run (config : Config) {origin : Site Connection} (asks : List Ask) :
    ∀ {m : Machine} {site : Site Connection}, Simulates origin m site →
      ∃ after, (asks.mapM config.answer).run site = (.ok (m.run config asks).1, after) ∧
        Simulates origin (m.run config asks).2 after := by
  induction asks with
  | nil =>
    intro m site simulates
    exact ⟨site, rfl, simulates⟩
  | cons ask rest ih =>
    intro m site simulates
    obtain ⟨next, answered, kept⟩ := simulates.step config ask
    obtain ⟨last, others, held⟩ := ih kept
    refine ⟨last, ?_, held⟩
    rw [List.mapM_cons, Act.run_bind, answered]
    dsimp only
    rw [Act.run_bind, others]
    rfl

/-- Whatever is asked, the backend answers as the machine does, leaves in the directory the accounts
that the machine is left with, writes the same changes and logs the same events. -/
theorem answers_refine (config : Config) (directory : List (String × Account))
    (site : Site Connection) (serves : Serves directory site.peer)
    (names : (directory.map fun named => named.1).Nodup)
    (dns : (directory.map fun named => named.2.dn).Nodup)
    (readable : ∀ named ∈ directory, ∃ flags, readFlags named.2.control = .ok flags ∧
      (Nat.toDigits 10 flags.natAbs).length < Text.maxDigits)
    (asks : List Ask) :
    let writes := site.peer.operations.filter Operation.isWrite
    let (answers, last) := Machine.run config ⟨bookOf directory, writes, []⟩ asks
    ∃ kept peer, Serves kept peer ∧ Sound kept ∧ bookOf kept = last.book ∧
      peer.operations.filter Operation.isWrite = last.writes ∧
      (asks.mapM config.answer).run site =
        (.ok answers, { site with
          peer := peer
          log := site.log ++ last.notices.map fun event => ⟨event, site.queueFile⟩ }) := by
  have sound : Sound directory := by
    refine ⟨names, dns, fun named member => ?_⟩
    obtain ⟨flags, read, short⟩ := readable named member
    exact ⟨flags, read, Bounded.of_digits short⟩
  have start : Simulates site ⟨bookOf directory, site.peer.operations.filter Operation.isWrite, []⟩
      site :=
    ⟨⟨directory, serves, sound, rfl⟩, rfl, by simp⟩
  obtain ⟨after, answered, simulates⟩ := start.run config asks
  obtain ⟨kept, keeps, holds, book⟩ := simulates.accounts
  refine ⟨kept, after.peer, keeps, holds, book, simulates.writes, ?_⟩
  rw [answered, simulates.frame]

/-- A directory with a name that is escaped, and with flags below zero. -/
def starred : List (String × Account) :=
  [("a*b", ⟨"CN=starred", .list [.text "-1"]⟩), ("plain", ⟨"CN=plain", .integer 514⟩)]

theorem answers_refine_starred :
    let config : Config := ⟨"DC=example", some "admin", 64⟩
    let site := Site.start (.empty [])
      (Connection.start (starred.map fun named => (escape named.1, named.2)))
    let asks : List Ask :=
      [.status ⟨["a*b"], "R"⟩ true, .status ⟨["plain", "admin"], "R"⟩ false,
        .password ⟨["nobody"], "R"⟩ "new", .password ⟨["a*b", "admin", "x"], "R"⟩ "new"]
    Serves starred site.peer ∧
      (starred.map fun named => named.1).Nodup ∧ (starred.map fun named => named.2.dn).Nodup ∧
      (∀ named ∈ starred, ∃ flags, readFlags named.2.control = .ok flags ∧
        (Nat.toDigits 10 flags.natAbs).length < Text.maxDigits) ∧
      ∃ kept peer, Serves kept peer ∧ Sound kept ∧
        bookOf kept "a*b" = some ⟨"CN=starred", -3⟩ ∧ bookOf kept "plain" = some ⟨"CN=plain", 514⟩ ∧
        peer.operations.filter Operation.isWrite = [.modify (.text "CN=starred") ["-3"]] ∧
        (asks.mapM config.answer).run site =
          (.ok [⟨0, ""⟩, ⟨0, ""⟩, ⟨32, "no AD account nobody under DC=example"⟩,
            ⟨53, "principal a*b/admin/x@R does not map to an AD account"⟩],
            { site with
              peer := peer
              log := [⟨.statusUnchanged "plain" false, none⟩] }) := by
  have negative : readFlags (.list [.text "-1"]) = .ok (-1) := rfl
  have readable : ∀ named ∈ starred, ∃ flags, readFlags named.2.control = .ok flags ∧
      (Nat.toDigits 10 flags.natAbs).length < Text.maxDigits := by
    intro named member
    obtain rfl | rfl : named = ("a*b", ⟨"CN=starred", .list [.text "-1"]⟩) ∨
        named = ("plain", ⟨"CN=plain", .integer 514⟩) := by
      simpa [starred] using member
    · exact ⟨-1, negative, by decide⟩
    · exact ⟨514, rfl, by decide⟩
  refine ⟨⟨rfl, rfl, rfl, rfl⟩, by decide, by decide, readable, ?_⟩
  obtain ⟨kept, peer, serves, sound, book, writes, answered⟩ :=
    answers_refine ⟨"DC=example", some "admin", 64⟩ starred
      (Site.start (.empty []) (Connection.start (starred.map fun named => (escape named.1, named.2))))
      ⟨rfl, rfl, rfl, rfl⟩ (by decide) (by decide) readable
      [.status ⟨["a*b"], "R"⟩ true, .status ⟨["plain", "admin"], "R"⟩ false,
        .password ⟨["nobody"], "R"⟩ "new", .password ⟨["a*b", "admin", "x"], "R"⟩ "new"]
  refine ⟨kept, peer, serves, sound, ?_, ?_, writes.trans ?_, answered.trans ?_⟩
  · rw [book]
    cbv
  · rw [book]
    cbv
  · cbv
  · cbv

end AccountSync.Directory
