import AccountSync.Proofs.Directory.Machine
import AccountSync.Proofs.Directory.Orderly

/-!
# What passes between the backend and the directory

For an account the backend searches once and then writes at most once. What it asks and what it
answers follow from the reply to the search and the reply to the write alone (`exchange_exact`).
-/

namespace AccountSync.Directory

/-! ### Replies and what they mean -/

def isEntryItem : Value → Bool
  | .map members =>
    match members.lookup "type" with
    | some (.text kind) => kind = "searchResEntry"
    | _ => false
  | _ => false

def firstEntry? : Value → Option Value
  | .list items => items.find? isEntryItem
  | _ => none

/-- An item under a `dn`, with control flags that read as an integer. The flags may be missing, and
so may all attributes. -/
def Names (item dn : Value) (flags : Int) : Prop :=
  ∃ members attributes, item = .map members ∧ members.lookup "dn" = some dn ∧
    (members.lookup "attributes").getD (.map []) = .map attributes ∧
    readFlags ((attributes.lookup "userAccountControl").getD .null) = .ok flags

/-- An item of a response: a mapping, with a name and flags that can be read if it is an entry. -/
structure IsSent (item : Value) : Prop where
  mapping : ∃ members, item = .map members
  entry : isEntryItem item → ∃ dn flags, Names item dn flags ∧
    (Nat.toDigits 10 flags.natAbs).length < Text.maxDigits

/-! ### Operations and how they end -/

/-- An operation that broke off with nothing but an error of the directory, and that left a result
with a code if it returned. -/
structure Reported (performed : Outcome × Connection) : Prop where
  whole : ∀ text, performed.1 ≠ .raised text
  result : ∀ value, performed.1 = .returned value → IsResult performed.2.result

/-- A search that left no response or a list of items. -/
structure Responded (searched : Outcome × Connection) : Prop extends Reported searched where
  response : ∀ value, searched.1 = .returned value →
    searched.2.response = .null ∨
      ∃ items, searched.2.response = .list items ∧ ∀ item ∈ items, IsSent item

def Accepted (performed : Outcome × Connection) : Prop :=
  ∃ value members, performed.1 = .returned value ∧ performed.2.result = .map members ∧
    codeOf members = .ok 0

/-- The status of an operation, and the text that goes with it. -/
inductive Ends (performed : Outcome × Connection) : Int → String → Prop
  | failed {text : String} (raised : performed.1 = .ldapError text) : Ends performed (-1) text
  | refused {value : Value} {members : List (String × Value)} {code : Int}
      (returned : performed.1 = .returned value) (result : performed.2.result = .map members)
      (reads : codeOf members = .ok code) (nonzero : code ≠ 0) :
      Ends performed code (explanation members)
  | accepted (accepted : Accepted performed) : Ends performed 0 ""

/-- A search that was accepted, and the name and the flags of the first entry that it found. -/
structure Finds (searched : Outcome × Connection) (dn : Value) (flags : Int) : Prop where
  accepted : Accepted searched
  first : ∃ entry, firstEntry? searched.2.response = some entry ∧ Names entry dn flags

/-! ### The exchange -/

/-- A password is always written, a status only if the flag is not yet as it should be. -/
def Ask.Needs : Ask → Int → Prop
  | .password _ _, _ => True
  | .status _ enabled, flags => flags.testBit 1 ≠ !enabled

instance (ask : Ask) (flags : Int) : Decidable (ask.Needs flags) :=
  match ask with
  | .password _ _ => inferInstanceAs (Decidable True)
  | .status _ enabled => inferInstanceAs (Decidable (flags.testBit 1 ≠ !enabled))

def Ask.write : Ask → Value → Int → Operation
  | .password _ text, dn, _ => .modifyPassword dn text
  | .status _ enabled, dn, flags => .modify dn [toString (toggled enabled flags)]

/-- What is written after a search, what is logged, and the status with its text. -/
inductive Exchange (config : Config) (ask : Ask) (name : String) (searched : Outcome × Connection) :
    List Operation → List Log.Event → Int → String → Prop
  | unsearched {status : Int} {text : String} (fails : ¬ Accepted searched)
      (ends : Ends searched status text) : Exchange config ask name searched [] [] status text
  | absent (accepted : Accepted searched) (none : firstEntry? searched.2.response = none) :
      Exchange config ask name searched [] [] 32
        ("no AD account " ++ name ++ " under " ++ config.baseDn)
  | settled {principal : Principal} {enabled : Bool} {dn : Value} {flags : Int}
      (status : ask = .status principal enabled) (finds : Finds searched dn flags)
      (already : ¬ ask.Needs flags) :
      Exchange config ask name searched [] [.statusUnchanged name enabled] 0 ""
  | written {dn : Value} {flags status : Int} {text : String} (finds : Finds searched dn flags)
      (needed : ask.Needs flags) (ends : Ends (searched.2.perform (ask.write dn flags)) status text) :
      Exchange config ask name searched [ask.write dn flags] [] status text

/-- A connection after operations, in the order in which they were asked. -/
def Connection.after (c : Connection) (operations : List Operation) : Connection :=
  operations.foldl (fun former op => (former.perform op).2) c

/-! ### Reading replies -/

theorem isEntry_map_eq (members : List (String × Value)) :
    isEntry (.map members) = .ok (isEntryItem (.map members)) := by
  unfold isEntry isEntryItem
  simp only [Value.member?, bind, Except.bind]
  split <;> simp_all [pure, Except.pure]

theorem entriesOf_eq {items : List Value}
    (mappings : ∀ item ∈ items, ∃ members, item = .map members) :
    entriesOf items = .ok (items.filter isEntryItem) := by
  induction items with
  | nil => rfl
  | cons item rest ih =>
    obtain ⟨first, others⟩ := List.forall_mem_cons.mp mappings
    obtain ⟨members, rfl⟩ := first
    rw [entriesOf, isEntry_map_eq, ih others, List.filter_cons]
    cases isEntryItem (.map members) <;> rfl

/-- The entries of a response that is a list of mappings, the first one at the head. -/
theorem responseEntries_list {items : List Value}
    (mappings : ∀ item ∈ items, ∃ members, item = .map members) :
    responseEntries (.list items) = .ok (items.filter isEntryItem) ∧
      (items.filter isEntryItem).head? = firstEntry? (.list items) := by
  refine ⟨?_, List.head?_filter ..⟩
  cases items with
  | nil => rfl
  | cons item rest => exact entriesOf_eq mappings

theorem Names.readEntry {item dn : Value} {flags : Int} (names : Names item dn flags) :
    readEntry item = .ok (dn, flags) := by
  obtain ⟨members, attributes, rfl, named, carried, reads⟩ := names
  simp only [Directory.readEntry, Value.member?, named, carried, bind, Except.bind, reads]
  rfl

theorem Names.unique {item dn other : Value} {flags also : Int} (names : Names item dn flags)
    (second : Names item other also) : dn = other ∧ flags = also :=
  Prod.mk.inj (Except.ok.inj (names.readEntry.symm.trans second.readEntry))

theorem Finds.unique {searched : Outcome × Connection} {dn other : Value} {flags also : Int}
    (finds : Finds searched dn flags) (second : Finds searched other also) :
    dn = other ∧ flags = also := by
  obtain ⟨entry, first, names⟩ := finds.first
  obtain ⟨_, same, others⟩ := second.first
  cases first.symm.trans same
  exact names.unique others

/-! ### Flags -/

theorem isDisabled_eq (flags : Int) : isDisabled flags = flags.testBit 1 := by
  obtain ⟨first, second, rest, rfl⟩ := exists_bits flags
  rw [Int.testBit_bit_succ, Int.testBit_bit_zero]
  cases first <;> cases second <;> simp [isDisabled, Int.bit_val] <;> omega

theorem toggled_eq_iff (enabled : Bool) (flags : Int) :
    toggled enabled flags = flags ↔ flags.testBit 1 = !enabled := by
  rw [← setDisabled_eq, ← isDisabled_eq, setDisabled]
  split
  · next already => exact iff_of_true rfl already
  · next other =>
    refine iff_of_false ?_ other
    split <;> omega

/-! ### One operation -/

theorem refuse_nothing (config : Config) : config.refuse 0 "" = .success := by
  rw [Config.refuse, Answer.clip, String.toList_empty, List.take_nil]
  rfl

theorem Reported.ends {performed : Outcome × Connection} (reported : Reported performed) :
    ∃ status text, Ends performed status text := by
  obtain ⟨outcome, c⟩ := performed
  cases outcome with
  | raised text => exact (reported.whole text rfl).elim
  | ldapError text => exact ⟨-1, text, .failed rfl⟩
  | returned value =>
    obtain ⟨members, result, total⟩ := reported.result value rfl
    obtain ⟨code, reads⟩ := codeOf_total total
    by_cases zero : code = 0
    · exact ⟨0, "", .accepted ⟨value, members, rfl, result, zero ▸ reads⟩⟩
    · exact ⟨code, explanation members, .refused rfl result reads zero⟩

theorem run_apply_ends (config : Config) {op : Operation} {site : Site Connection} {status : Int}
    {text : String} (ends : Ends (site.peer.perform op) status text) :
    (config.apply op).run site =
      (.ok (config.refuse status text), { site with peer := (site.peer.perform op).2 }) := by
  unfold Config.apply
  rw [Act.run_bind, run_call]
  generalize site.peer.perform op = performed at ends
  cases ends with
  | failed raised =>
    rw [raised]
    rfl
  | refused returned result reads nonzero =>
    rw [returned]
    dsimp only [Outcome.result, Config.lastAnswer]
    rw [run_get_bind, result, run_readable_bind ((resultCode_map _).trans reads), if_neg nonzero,
      run_readable_bind (describe_map _)]
    rfl
  | accepted accepted =>
    obtain ⟨value, members, returned, result, reads⟩ := accepted
    rw [returned, refuse_nothing]
    dsimp only [Outcome.result, Config.lastAnswer]
    rw [run_get_bind, result, run_readable_bind ((resultCode_map _).trans reads)]
    rfl

/-! ### The search -/

section

variable {config : Config} {name : String} {site : Site Connection} {searched : Outcome × Connection}
  {status : Int} {text : String} {dn : Value} {flags : Int}

theorem run_findUser_fails
    (asks : site.peer.perform (.search config.baseDn (userFilter name)) = searched)
    (fails : ¬ Accepted searched) (ends : Ends searched status text) :
    (config.findUser name).run site =
      (.ok (.error (config.refuse status text)), { site with peer := searched.2 }) := by
  unfold Config.findUser
  rw [Act.run_bind, run_call, asks]
  cases ends with
  | failed raised =>
    rw [raised]
    rfl
  | refused returned result reads nonzero =>
    rw [returned]
    dsimp only [Outcome.result]
    rw [run_get_bind, result, run_readable_bind ((resultCode_map _).trans reads), if_pos nonzero,
      run_readable_bind (describe_map _)]
    rfl
  | accepted accepted => exact (fails accepted).elim

/-- What an accepted search leads to: the entries of its response are all that it depends on. -/
theorem run_findUser_accepted
    (asks : site.peer.perform (.search config.baseDn (userFilter name)) = searched)
    (accepted : Accepted searched) {entries : List Value}
    (response : responseEntries searched.2.response = .ok entries) :
    (config.findUser name).run site =
      Act.run (match entries with
        | [] => return .error (config.refuse noSuchObject
            ("no AD account " ++ name ++ " under " ++ config.baseDn))
        | entry :: _ => return .ok (← readable (readEntry entry)))
        { site with peer := searched.2 } := by
  obtain ⟨value, members, returned, result, reads⟩ := accepted
  unfold Config.findUser
  rw [Act.run_bind, run_call, asks, returned]
  dsimp only [Outcome.result]
  rw [run_get_bind, result, run_readable_bind ((resultCode_map _).trans reads), if_neg (by decide)]
  exact run_readable_bind response _ _

theorem Responded.entries (responded : Responded searched) (accepted : Accepted searched) :
    ∃ entries, responseEntries searched.2.response = .ok entries ∧
      entries.head? = firstEntry? searched.2.response := by
  obtain ⟨value, _, returned, _⟩ := accepted
  rcases responded.response value returned with null | ⟨items, listed, sent⟩
  · rw [null]
    exact ⟨[], rfl, rfl⟩
  · rw [listed]
    exact ⟨_, responseEntries_list fun item member => (sent item member).mapping⟩

theorem Responded.names (responded : Responded searched) (accepted : Accepted searched)
    {entry : Value} (first : firstEntry? searched.2.response = some entry) :
    ∃ dn flags, Names entry dn flags ∧ Bounded flags := by
  obtain ⟨value, _, returned, _⟩ := accepted
  rcases responded.response value returned with null | ⟨items, listed, sent⟩
  · rw [null] at first
    cases first
  · rw [listed] at first
    obtain ⟨dn, flags, names, short⟩ :=
      (sent entry (List.mem_of_find?_eq_some first)).entry (List.find?_some first)
    exact ⟨dn, flags, names, .of_digits short⟩

/-- A search fails, or finds no entry, or finds one with flags that can be written back. -/
theorem Responded.findUser (responded : Responded searched)
    (asks : site.peer.perform (.search config.baseDn (userFilter name)) = searched) :
    (∃ status text, ¬ Accepted searched ∧ Ends searched status text ∧
      (config.findUser name).run site =
        (.ok (.error (config.refuse status text)), { site with peer := searched.2 })) ∨
    (Accepted searched ∧ firstEntry? searched.2.response = none ∧
      (config.findUser name).run site =
        (.ok (.error (config.refuse 32 ("no AD account " ++ name ++ " under " ++ config.baseDn))),
          { site with peer := searched.2 })) ∨
    ∃ dn flags, Finds searched dn flags ∧ Bounded flags ∧
      (config.findUser name).run site = (.ok (.ok (dn, flags)), { site with peer := searched.2 }) := by
  by_cases accepted : Accepted searched
  · right
    obtain ⟨entries, response, head⟩ := responded.entries accepted
    rw [run_findUser_accepted asks accepted response]
    cases entries with
    | nil => exact .inl ⟨accepted, head.symm, rfl⟩
    | cons entry rest =>
      right
      obtain ⟨dn, flags, names, bounded⟩ := responded.names accepted head.symm
      refine ⟨dn, flags, ⟨accepted, entry, head.symm, names⟩, bounded, ?_⟩
      exact run_readable_bind names.readEntry _ _
  · obtain ⟨status, text, ends⟩ := responded.ends
    exact .inl ⟨status, text, accepted, ends, run_findUser_fails asks accepted ends⟩

end

/-! ### The whole exchange -/

theorem Exchange.ends {config : Config} {ask : Ask} {name : String} {searched : Outcome × Connection}
    {op : Operation} {notices : List Log.Event} {status : Int} {text : String}
    (exchange : Exchange config ask name searched [op] notices status text) :
    Ends (searched.2.perform op) status text := by
  cases exchange with
  | written finds needed ends => exact ends

/-- The part after the search, for an account that was found. -/
theorem Finds.proceed (config : Config) {ask : Ask} {name : String} {site : Site Connection}
    {searched : Outcome × Connection} {dn : Value} {flags : Int} (finds : Finds searched dn flags)
    (bounded : Bounded flags) (reported : Reported (searched.2.perform (ask.write dn flags))) :
    ∃ writes notices status text, Exchange config ask name searched writes notices status text ∧
      (config.proceed ask name dn flags).run { site with peer := searched.2 } =
        (.ok (config.refuse status text), { site with
          peer := searched.2.after writes
          log := site.log ++ notices.map fun event => ⟨event, site.queueFile⟩ }) := by
  obtain ⟨status, text, ends⟩ := reported.ends
  cases ask with
  | password principal secret =>
    refine ⟨_, _, status, text, .written finds trivial ends, ?_⟩
    rw [List.map_nil, List.append_nil]
    exact run_apply_ends config ends
  | status principal enabled =>
    rw [proceed_status]
    by_cases already : flags.testBit 1 = !enabled
    · refine ⟨_, _, 0, "", .settled rfl finds fun needed => needed already, ?_⟩
      rw [if_pos ((toggled_eq_iff enabled flags).mpr already), refuse_nothing]
      rfl
    · refine ⟨_, _, status, text, .written finds already ends, ?_⟩
      have writable := bounded.toggled enabled
      rw [if_neg (mt (toggled_eq_iff enabled flags).mp already),
        run_readable_bind writable.writeInteger, List.map_nil, List.append_nil]
      exact run_apply_ends config ends

end AccountSync.Directory
