import AccountSync.Proofs.Directory.Exchange

/-!
# One bit of the flags

A change of status sets or clears bit 1 of the flags and no other one (`testBit_toggled`). It is
written if that bit is not as it should be, and the opposite change then writes the flags that were
there before (`change_of_one_bit`).
-/

namespace AccountSync.Directory

/-! ### Bits -/

theorem testBit_two (i : Nat) : Int.testBit 2 i = decide (i = 1) := by
  have bits : (2 : Int) = Int.bit false (Int.bit true 0) := rfl
  rw [bits]
  match i with
  | 0 => exact Int.testBit_bit_zero _ _
  | 1 =>
    rw [Int.testBit_bit_succ]
    exact Int.testBit_bit_zero _ _
  | i + 2 =>
    rw [Int.testBit_bit_succ, Int.testBit_bit_succ]
    exact Nat.zero_testBit i

theorem testBit_toggled (enabled : Bool) (flags : Int) (i : Nat) :
    (toggled enabled flags).testBit i = if i = 1 then !enabled else flags.testBit i := by
  cases enabled with
  | false =>
    change (flags.lor 2).testBit i = _
    rw [Int.testBit_lor, testBit_two]
    by_cases second : i = 1 <;> simp [second]
  | true =>
    change (flags.land (Int.lnot 2)).testBit i = _
    rw [Int.testBit_land, Int.testBit_lnot, testBit_two]
    by_cases second : i = 1 <;> simp [second]

theorem testBit_far (a k : Nat) : a.testBit (a + k) = false := by
  apply Nat.testBit_lt_two_pow
  have below : a < 2 ^ a := Nat.lt_two_pow_self
  have above : 2 ^ a ≤ 2 ^ (a + k) := Nat.pow_le_pow_right (by decide) (Nat.le_add_right a k)
  omega

theorem eq_of_testBit {m n : Int} (same : ∀ i, m.testBit i = n.testBit i) : m = n := by
  -- far to the left an integer below zero has ones and any other has zeros
  have mixed (a b : Nat) : ¬ ∀ i, (Int.ofNat a).testBit i = (Int.negSucc b).testBit i := by
    intro all
    have high : a.testBit (a + b) = !b.testBit (a + b) := all (a + b)
    rw [testBit_far a b, Nat.add_comm a b, testBit_far b a] at high
    exact Bool.false_ne_true high
  cases m with
  | ofNat a =>
    cases n with
    | ofNat b => exact congrArg Int.ofNat (Nat.eq_of_testBit_eq same)
    | negSucc b => exact (mixed a b same).elim
  | negSucc a =>
    cases n with
    | ofNat b => exact (mixed b a fun i => (same i).symm).elim
    | negSucc b =>
      refine congrArg Int.negSucc (Nat.eq_of_testBit_eq fun i => ?_)
      have negated : (!a.testBit i) = !b.testBit i := same i
      simpa using negated

/-- A change that does something is undone by the opposite one. -/
theorem toggled_back {enabled : Bool} {flags : Int} (changes : flags.testBit 1 = enabled) :
    toggled (!enabled) (toggled enabled flags) = flags := by
  apply eq_of_testBit
  intro i
  rw [testBit_toggled, testBit_toggled]
  by_cases second : i = 1
  · rw [if_pos second, second, changes, Bool.not_not]
  · rw [if_neg second, if_neg second]

/-! ### Flags as a server sends them -/

/-- A number or its numeral. No value and an empty text count as zero. -/
inductive Item : Value → Int → Prop where
  | number (n : Int) : Item (.integer n) n
  | numeral (n : Int) : Item (.text (toString n)) n
  | null : Item .null 0
  | blank : Item (.text "") 0

/-- The attribute of an entry: missing, an item on its own, or a list, of which the first item
counts. -/
inductive Sends : Option Value → Int → Prop where
  | missing : Sends none 0
  | single {item n} (counts : Item item n) : Sends (some item) n
  | nothing : Sends (some (.list [])) 0
  | first {item n} (counts : Item item n) (others : List Value) :
    Sends (some (.list (item :: others))) n

section

variable {flags : Int}

theorem Item.readFlags {value item : Value} (counts : Item item flags)
    (short : flags.natAbs < Nat.pow 10 Text.maxDigits) (head : firstItem value = item) :
    readFlags value = .ok flags := by
  cases counts with
  | numeral => exact readFlags_numeral short head
  | number =>
    rw [Directory.readFlags, head]
    rfl
  | null => rw [Directory.readFlags, head]
  | blank =>
    rw [Directory.readFlags, head]
    rfl

theorem Sends.readFlags {control : Option Value} (sends : Sends control flags)
    (short : flags.natAbs < Nat.pow 10 Text.maxDigits) :
    readFlags (control.getD .null) = .ok flags := by
  cases sends with
  | missing => rfl
  | nothing => rfl
  | single counts =>
    refine counts.readFlags short ?_
    cases counts <;> rfl
  | first counts others => exact counts.readFlags short rfl

end

/-! ### What a change of status asks for -/

/-- A search that was accepted and led to a list of mappings, with the `dn` and the control attribute
of the first entry among them. -/
structure Shows (searched : Outcome × Connection) (dn : Value) (control : Option Value) : Prop where
  accepted : Accepted searched
  mappings : ∃ items, searched.2.response = .list items ∧
    ∀ item ∈ items, ∃ members, item = .map members
  entry : ∃ members attributes, firstEntry? searched.2.response = some (.map members) ∧
    members.lookup "dn" = some dn ∧
    (members.lookup "attributes").getD (.map []) = .map attributes ∧
    attributes.lookup "userAccountControl" = control

section

variable {config : Config} {principal : Principal} {name : String} {site : Site Connection}
  {dn : Value} {control : Option Value} {flags : Int}

theorem Shows.run_findUser
    (shows : Shows (site.peer.perform (.search config.baseDn (userFilter name))) dn control)
    (reads : readFlags (control.getD .null) = .ok flags) :
    (config.findUser name).run site = (.ok (.ok (dn, flags)),
      { site with peer := (site.peer.perform (.search config.baseDn (userFilter name))).2 }) := by
  obtain ⟨accepted, ⟨items, listed, mappings⟩, members, attributes, first, named, carried, known⟩ := shows
  obtain ⟨entries, head⟩ := responseEntries_list mappings
  rw [listed] at first
  rw [first] at head
  rw [← listed] at entries
  obtain ⟨others, cut⟩ := List.head?_eq_some_iff.mp head
  rw [cut] at entries
  have names : Names (.map members) dn flags :=
    ⟨members, attributes, rfl, named, carried, by rw [known]; exact reads⟩
  rw [run_findUser_accepted rfl accepted entries]
  exact run_readable_bind names.readEntry _ _

/-- Whatever the write is answered with, this is all that is asked for. -/
theorem Shows.operations (enabled : Bool)
    (mapped : accountName? config.baseInstance principal = some name)
    (shows : Shows (site.peer.perform (.search config.baseDn (userFilter name))) dn control)
    (reads : readFlags (control.getD .null) = .ok flags) (bounded : Bounded flags) :
    ((config.changeStatus principal enabled).run site).2.peer.operations =
      site.peer.operations ++ .search config.baseDn (userFilter name) ::
        if flags.testBit 1 = enabled then [.modify dn [toString (toggled enabled flags)]] else [] := by
  have searched := site.peer.operations_perform (.search config.baseDn (userFilter name))
  have answers : config.changeStatus principal enabled =
      config.withUser principal (config.proceed (.status principal enabled)) :=
    answer_eq config (.status principal enabled)
  rw [← account?_eq] at mapped
  rw [answers, Config.withUser, mapped]
  dsimp only
  rw [Act.run_bind, shows.run_findUser reads]
  dsimp only
  rw [proceed_status]
  by_cases same : toggled enabled flags = flags
  · have settled : flags.testBit 1 ≠ enabled := by
      rw [(toggled_eq_iff enabled flags).mp same]
      exact Bool.not_ne_self enabled
    rw [if_pos same, if_neg settled]
    exact searched
  · have changes : flags.testBit 1 = enabled := by
      have other := mt (toggled_eq_iff enabled flags).mpr same
      simpa using other
    rw [if_neg same, if_pos changes, run_readable_bind (bounded.toggled enabled).writeInteger,
      operations_apply, searched, List.append_assoc]
    rfl

end

/-- A change of status writes if and only if bit 1 of the flags is set and the account is to be on, or
clear and it is to be off. What it writes is the numeral of an integer that differs from the flags in
this bit alone, and reads back. Where a server then sends that integer, the same change writes
nothing and the opposite one writes the former flags. -/
theorem change_of_one_bit (config : Config) (enabled : Bool) {principal : Principal} {name : String}
    (mapped : accountName? config.baseInstance principal = some name) {site : Site Connection}
    {dn : Value} {control : Option Value} {flags : Int}
    (shows : Shows (site.peer.perform (.search config.baseDn (userFilter name))) dn control)
    (sends : Sends control flags)
    (short : (Nat.toDigits 10 flags.natAbs).length < Text.maxDigits) :
    let search := Operation.search config.baseDn (userFilter name)
    let asked (enabled : Bool) (now : Site Connection) :=
      ((config.changeStatus principal enabled).run now).2.peer.operations
    ∃ changed : Int, changed.testBit 1 = !enabled ∧
      (∀ i, i ≠ 1 → changed.testBit i = flags.testBit i) ∧
      readFlags (.text (toString changed)) = .ok changed ∧
      asked enabled site = site.peer.operations ++ search ::
        (if flags.testBit 1 = enabled then [.modify dn [toString changed]] else []) ∧
      (flags.testBit 1 = enabled → ∀ (next : Site Connection) dn' control',
        Shows (next.peer.perform search) dn' control' → Sends control' changed →
        asked enabled next = next.peer.operations ++ [search] ∧
          asked (!enabled) next =
            next.peer.operations ++ [search, .modify dn' [toString flags]]) := by
  intro search asked
  have bounded := Bounded.of_digits short
  have within := bounded.toggled enabled
  have now := testBit_toggled enabled flags 1
  rw [if_pos rfl] at now
  refine ⟨toggled enabled flags, now, ?_, ?_, ?_, ?_⟩
  · intro i other
    rw [testBit_toggled, if_neg other]
  · exact readFlags_numeral within.short rfl
  · exact shows.operations enabled mapped (sends.readFlags bounded.short) bounded
  · intro changes next dn' control' again resends
    have reads := resends.readFlags within.short
    have settled : (toggled enabled flags).testBit 1 ≠ enabled := by
      rw [now]
      exact Bool.not_ne_self enabled
    constructor
    · have same := again.operations enabled mapped reads within
      rw [if_neg settled] at same
      exact same
    · have opposite := again.operations (!enabled) mapped reads within
      rw [if_pos now, toggled_back changes] at opposite
      exact opposite

/-- A connection that finds one account, with this text for its flags, and breaks off a write. -/
def listing (text : String) : Connection :=
  { Connection.start [] with
    search := [.answered (some Connection.success) (some (.list [
      .map [("type", .text "searchResEntry"), ("dn", .text "CN=u"),
        ("attributes", .map [("userAccountControl", .list [.text text])])]])) (.flag true)]
    modify := [.raised "closed"] }

theorem shows_listing (config : Config) (name text : String) :
    Shows ((Site.start (.empty []) (listing text)).peer.perform
      (.search config.baseDn (userFilter name))) (.text "CN=u") (some (.list [.text text])) where
  accepted := ⟨_, _, rfl, rfl, rfl⟩
  mappings := by
    refine ⟨_, rfl, fun item member => ?_⟩
    rw [List.mem_singleton.mp member]
    exact ⟨_, rfl⟩
  entry := ⟨_, _, rfl, rfl, rfl, rfl⟩

/-- All bits of the flags are ones, and the write breaks off. -/
theorem change_of_one_bit_negative :
    let config : Config := ⟨"DC=example", some "admin", 64⟩
    let principal : Principal := ⟨["u", "admin"], "R"⟩
    let asked (enabled : Bool) (text : String) := ((config.changeStatus principal enabled).run
      (Site.start (.empty []) (listing text))).2.peer.operations
    let search := Operation.search "DC=example" (userFilter "u")
    accountName? config.baseInstance principal = some "u" ∧
      Sends (some (.list [.text "-1"])) (-1) ∧
      (Nat.toDigits 10 (-1 : Int).natAbs).length < Text.maxDigits ∧
      asked true "-1" = [search, .modify (.text "CN=u") ["-3"]] ∧
      asked true "-3" = [search] ∧ asked false "-3" = [search, .modify (.text "CN=u") ["-1"]] := by
  intro config principal asked search
  have mapped : accountName? config.baseInstance principal = some "u" := by decide
  have one : toString (-1 : Int) = "-1" := by decide
  have three : toString (-3 : Int) = "-3" := by decide
  have sends : Sends (some (.list [.text "-1"])) (-1) := one ▸ .first (.numeral (-1)) []
  have resends : Sends (some (.list [.text "-3"])) (-3) := three ▸ .first (.numeral (-3)) []
  have short : (Nat.toDigits 10 (-1 : Int).natAbs).length < Text.maxDigits := by decide
  obtain ⟨changed, bit, others, -, wrote, again⟩ :=
    change_of_one_bit config true mapped (shows_listing config "u" "-1") sends short
  have value : changed = -3 := by
    apply eq_of_testBit
    intro i
    by_cases second : i = 1
    · rw [second, bit]
      rfl
    · have toggles := testBit_toggled true (-1) i
      rw [if_neg second] at toggles
      rw [others i second, ← toggles]
      rfl
  subst value
  have changes : (-1 : Int).testBit 1 = true := rfl
  rw [if_pos changes, three] at wrote
  obtain ⟨same, opposite⟩ := again changes _ _ _ (shows_listing config "u" "-3") resends
  rw [one, Bool.not_true] at opposite
  exact ⟨mapped, sends, short, wrote, same, opposite⟩

end AccountSync.Directory
