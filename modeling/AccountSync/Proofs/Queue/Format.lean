import Mathlib
import AccountSync.Proofs.Text.Utf8
import AccountSync.Queue.Record

/-!
# The queue format

A record is read from bytes exactly when they start with its written form and each of its lines fits
the limit (`read_ok_iff`). `readWithin_layout` says the same line by line.
-/

namespace AccountSync.Queue

/-! ### Lines -/

/-- A line that one read returns whole: it has no line feed, and leaves room for one. -/
def Fits (limit : Nat) (line : List UInt8) : Prop := lineFeed ∉ line ∧ line.length < limit

theorem fits_cons {limit : Nat} {b : UInt8} {line : List UInt8} :
    Fits (limit + 1) (b :: line) ↔ b ≠ lineFeed ∧ Fits limit line := by
  simp only [Fits, List.mem_cons, not_or, List.length_cons, Nat.add_lt_add_iff_right, and_assoc]
  rw [ne_comm]

theorem takeLine_fitting {limit : Nat} {line : List UInt8} (fits : Fits limit line)
    (rest : List UInt8) : takeLine limit (line ++ lineFeed :: rest) = (⟨.complete, line⟩, rest) := by
  induction line generalizing limit with
  | nil =>
    obtain ⟨limit, rfl⟩ := Nat.exists_eq_add_one.mpr fits.2
    rfl
  | cons b line ih =>
    obtain ⟨limit, rfl⟩ := Nat.exists_eq_add_one.mpr (Nat.lt_of_le_of_lt (Nat.zero_le _) fits.2)
    obtain ⟨other, fits⟩ := fits_cons.mp fits
    rw [List.cons_append, takeLine, if_neg other, ih fits]
    rfl

theorem fits_of_takeLine {limit : Nat} {data line rest : List UInt8}
    (taken : takeLine limit data = (⟨.complete, line⟩, rest)) :
    data = line ++ lineFeed :: rest ∧ Fits limit line := by
  fun_induction takeLine limit data generalizing line with
  | case1 data => cases taken
  | case2 limit => cases taken
  | case3 limit data =>
    cases taken
    exact ⟨rfl, List.not_mem_nil, Nat.succ_pos _⟩
  | case4 limit b data other ih =>
    cases inner : takeLine limit data with
    | mk line' rest' =>
      obtain ⟨status, tail⟩ := line'
      rw [inner] at taken
      cases taken
      obtain ⟨rfl, fits⟩ := ih inner
      exact ⟨rfl, fits_cons.mpr ⟨other, fits⟩⟩

/-- A read stops if the limit is too large, and then if the source fails. -/
theorem run_readLine (limit : LineLimit) (source : Source) :
    (Source.readLine limit).run source =
      if limitBound ≤ limit.value then (.error .limitTooLarge, source)
      else match source.fault? with
        | some e => (.error (.failed e), source)
        | none => (.ok (takeLine limit.value source.data).1,
            source.advance (takeLine limit.value source.data).2) := by
  simp only [Source.readLine, ExceptT.run, bind, ExceptT.bind, ExceptT.mk, StateT.bind,
    ExceptT.bindCont, get, getThe, MonadStateOf.get, liftM, monadLift, MonadLift.monadLift,
    ExceptT.lift, StateT.get, pure, Functor.map, StateT.map]
  by_cases large : limitBound ≤ limit.value
  · simp only [large, if_true]
    rfl
  · simp only [large, if_false]
    cases source.fault? <;> rfl

theorem lineFeed_notMem_encode {text : String} (plain : '\n' ∉ text.toList) :
    lineFeed ∉ Utf8.encode text := by
  intro member
  obtain ⟨c, among, byte⟩ := List.mem_flatMap.mp member
  have value : c.toNat = lineFeed.toNat := Utf8.toNat_of_mem_encodeChar byte (by decide)
  have same : c = '\n' := Char.toNat_inj.mp value
  exact plain (same ▸ among)

namespace Record

variable {α β : Type}

/-! ### Readers -/

def outcome (x : Reader α) (source : Source) : Except Fault α × Source := x.run source

theorem outcome_bind (x : Reader α) (f : α → Reader β) (source : Source) :
    outcome (x >>= f) source =
      match outcome x source with
      | (.ok a, after) => outcome (f a) after
      | (.error e, after) => (.error e, after) := by
  simp only [outcome, ExceptT.run, bind, ExceptT.bind, ExceptT.mk, StateT.bind, ExceptT.bindCont]
  cases h : x source with
  | mk r after => cases r <;> rfl

theorem outcome_bind_ok {x : Reader α} {f : α → Reader β} {source after : Source} {b : β} :
    outcome (x >>= f) source = (.ok b, after) ↔
      ∃ a between, outcome x source = (.ok a, between) ∧ outcome (f a) between = (.ok b, after) := by
  rw [outcome_bind]
  obtain ⟨result, between⟩ := outcome x source
  cases result with
  | error fault => simp
  | ok a =>
    refine ⟨fun rest => ⟨a, between, rfl, rest⟩, ?_⟩
    rintro ⟨_, _, same, rest⟩
    cases same
    exact rest

theorem outcome_line (limit : LineLimit) (file : String) (source : Source) :
    outcome ((Source.readLine limit).adapt (interrupted file)) source =
      if limitBound ≤ limit.value then (.error (interrupted file .limitTooLarge), source)
      else match source.fault? with
        | some e => (.error (interrupted file (.failed e)), source)
        | none => (.ok (takeLine limit.value source.data).1,
            source.advance (takeLine limit.value source.data).2) := by
  change (((Source.readLine limit).run source).1.mapError (interrupted file),
    ((Source.readLine limit).run source).2) = _
  rw [run_readLine]
  split
  · rfl
  · cases source.fault? <;> rfl

/-- Reading a line of a source that does not fail, under a limit that reads accept. -/
theorem outcome_readLine {limit : LineLimit} (bounded : limit.value < limitBound) (file : String)
    (data : List UInt8) :
    outcome ((Source.readLine limit).adapt (interrupted file)) (.ofBytes data) =
      (.ok (takeLine limit.value data).1, .ofBytes (takeLine limit.value data).2) :=
  (outcome_line limit file (.ofBytes data)).trans (if_neg (Nat.not_le.mpr bounded))

theorem readText_ok_iff {limit : LineLimit} (bounded : limit.value < limitBound) {file : String}
    {number : Nat} {data : List UInt8} {text : String} {after : Source} :
    outcome (readText limit file number) (.ofBytes data) = (.ok text, after) ↔
      Fits limit.value (Utf8.encode text) ∧
        ∃ rest, data = Utf8.encode text ++ lineFeed :: rest ∧ after = .ofBytes rest := by
  unfold readText
  rw [outcome_bind, outcome_readLine bounded]
  constructor
  · intro read
    cases taken : takeLine limit.value data with
    | mk line rest =>
      obtain ⟨status, bytes⟩ := line
      simp only [taken] at read
      cases status with
      | tooLong => cases read
      | ended => cases read
      | complete =>
        obtain ⟨rfl, fits⟩ := fits_of_takeLine taken
        cases decoded : Utf8.decode bytes with
        | error why =>
          simp only [decoded] at read
          cases read
        | ok text' =>
          simp only [decoded] at read
          cases read
          rw [Utf8.decode_eq_ok_iff.mp decoded]
          exact ⟨fits, rest, rfl, rfl⟩
  · rintro ⟨fits, rest, rfl, rfl⟩
    rw [takeLine_fitting fits]
    simp only [Utf8.decode_encode]
    rfl

/-! ### The parts of a record -/

theorem readTarget_ok_iff {limit : LineLimit} (bounded : limit.value < limitBound) {file : String}
    {data : List UInt8} {target : TargetSystem} {after : Source} :
    outcome (readTarget limit file) (.ofBytes data) = (.ok target, after) ↔
      Fits limit.value (Utf8.encode target.token) ∧
        ∃ rest, data = Utf8.encode target.token ++ lineFeed :: rest ∧ after = .ofBytes rest := by
  unfold readTarget
  rw [outcome_bind_ok]
  constructor
  · rintro ⟨token, between, read, found⟩
    cases known : TargetSystem.ofToken? token with
    | none =>
      simp only [known] at found
      cases found
    | some target' =>
      simp only [known] at found
      cases found
      have same : token = target.token := by
        unfold TargetSystem.ofToken? at known
        split at known
        · next same =>
          cases known
          exact same
        · cases known
      rw [← same]
      exact (readText_ok_iff bounded).mp read
  · intro written
    refine ⟨target.token, after, (readText_ok_iff bounded).mpr written, ?_⟩
    cases target
    rfl

theorem readPassword_ok_iff {limit : LineLimit} (bounded : limit.value < limitBound) {file : String}
    {data : List UInt8} {secret : Password} {after : Source} :
    outcome (readPassword limit file) (.ofBytes data) = (.ok secret, after) ↔
      Fits limit.value (Utf8.encode secret.text) ∧
        ∃ rest, data = Utf8.encode secret.text ++ lineFeed :: rest ∧ after = .ofBytes rest := by
  unfold readPassword
  rw [outcome_bind_ok]
  constructor
  · rintro ⟨text, between, read, found⟩
    by_cases empty : text = ""
    · rw [Password.ofText?, dif_pos empty] at found
      cases found
    · rw [Password.ofText?, dif_neg empty] at found
      cases found
      exact (readText_ok_iff bounded).mp read
  · intro written
    refine ⟨secret.text, after, (readText_ok_iff bounded).mpr written, ?_⟩
    simp only [Password.ofText?, secret.nonempty]
    rfl

def actionLines (action : Action) : List String :=
  action.token :: match action with
    | .password secret => [secret.text]
    | _ => []

theorem lines_eq (r : Record) :
    r.lines = r.principalName :: r.target.token :: actionLines r.action := by
  obtain ⟨principal, target, action⟩ := r
  cases action <;> rfl

def written (lines : List String) : List UInt8 :=
  lines.flatMap fun line => Utf8.encode line ++ [lineFeed]

theorem readAction_ok_iff {limit : LineLimit} (bounded : limit.value < limitBound) {file : String}
    {data : List UInt8} {action : Action} {after : Source} :
    outcome (readAction limit file) (.ofBytes data) = (.ok action, after) ↔
      (∀ line ∈ actionLines action, Fits limit.value (Utf8.encode line)) ∧
        ∃ rest, data = written (actionLines action) ++ rest ∧ after = .ofBytes rest := by
  unfold readAction
  rw [outcome_bind_ok]
  constructor
  · rintro ⟨token, between, read, found⟩
    obtain ⟨fits, rest, rfl, rfl⟩ := (readText_ok_iff bounded).mp read
    split at found
    · cases found
      exact ⟨by simpa [actionLines, Action.token] using fits, rest,
        by simp [written, actionLines, Action.token], rfl⟩
    · cases found
      exact ⟨by simpa [actionLines, Action.token] using fits, rest,
        by simp [written, actionLines, Action.token], rfl⟩
    · rw [outcome_bind_ok] at found
      obtain ⟨secret, between, readSecret, done⟩ := found
      cases done
      obtain ⟨fitsSecret, rest', rfl, rfl⟩ := (readPassword_ok_iff bounded).mp readSecret
      exact ⟨by simpa [actionLines, Action.token] using ⟨fits, fitsSecret⟩, rest',
        by simp [written, actionLines, Action.token], rfl⟩
    · cases found
  · rintro ⟨fits, rest, rfl, rfl⟩
    have first := fits action.token List.mem_cons_self
    refine ⟨action.token, .ofBytes (written (actionLines action).tail ++ rest), ?_, ?_⟩
    · exact (readText_ok_iff bounded).mpr ⟨first, _, by simp [written, actionLines], rfl⟩
    · cases action with
      | enable => rfl
      | disable => rfl
      | password secret =>
        change outcome (readPassword limit file >>= fun s => pure (Action.password s)) _ = _
        refine outcome_bind_ok.mpr ⟨secret, .ofBytes rest, ?_, rfl⟩
        exact (readPassword_ok_iff bounded).mpr
          ⟨fits secret.text (by simp [actionLines]), rest, by simp [written, actionLines], rfl⟩

/-- A record is read from what starts with its written form, if its lines fit, and from nothing
else; what follows stays unread. -/
theorem read_ok_iff {limit : LineLimit} (bounded : limit.value < limitBound) {file : String}
    {data : List UInt8} {record : Record} {after : Source} :
    outcome (read limit file) (.ofBytes data) = (.ok record, after) ↔
      (∀ line ∈ record.lines, Fits limit.value (Utf8.encode line)) ∧
        ∃ rest, data = record.encode ++ rest ∧ after = .ofBytes rest := by
  unfold read
  simp only [outcome_bind_ok, lines_eq, List.forall_mem_cons]
  constructor
  · rintro ⟨principal, s₁, readPrincipal, target, s₂, readTarget, action, s₃, readAction, done⟩
    cases done
    obtain ⟨fitsPrincipal, r₁, rfl, rfl⟩ := (readText_ok_iff bounded).mp readPrincipal
    obtain ⟨fitsTarget, r₂, rfl, rfl⟩ := (readTarget_ok_iff bounded).mp readTarget
    obtain ⟨fitsAction, rest, rfl, rfl⟩ := (readAction_ok_iff bounded).mp readAction
    exact ⟨⟨fitsPrincipal, fitsTarget, fitsAction⟩, rest, by simp [encode, lines_eq, written], rfl⟩
  · rintro ⟨⟨fitsPrincipal, fitsTarget, fitsAction⟩, rest, rfl, rfl⟩
    refine ⟨record.principalName, _, (readText_ok_iff bounded).mpr ⟨fitsPrincipal, _, ?_, rfl⟩,
      record.target, _, (readTarget_ok_iff bounded).mpr ⟨fitsTarget, _, rfl, rfl⟩,
      record.action, _, (readAction_ok_iff bounded).mpr ⟨fitsAction, rest, rfl, rfl⟩, rfl⟩
    simp [encode, lines_eq, written]

end Record

/-! ### Line by line -/

def utf8 (text : String) : List UInt8 := text.toUTF8.data.toList

theorem encode_eq_utf8 (text : String) : Utf8.encode text = utf8 text := Utf8.encode_eq_toUTF8 text

/-- A queue file cut into the lines of its record and what follows them. -/
structure Layout where
  principal : List UInt8
  target : List UInt8
  action : List UInt8
  password : Option (List UInt8)
  rest : List UInt8

namespace Layout

def lines (l : Layout) : List (List UInt8) := [l.principal, l.target, l.action] ++ l.password.toList

def bytes (l : Layout) : List UInt8 := l.lines.flatMap (· ++ [lineFeed]) ++ l.rest

/-- The format of a queue file. A line of `limit - 1` bytes is the longest. -/
structure Accepted (limit : Nat) (l : Layout) : Prop where
  framed : ∀ line ∈ l.lines, lineFeed ∉ line ∧ line.length ≤ limit - 1
  principal : ∃ name, l.principal = utf8 name
  target : l.target = utf8 "ad"
  action : (l.action = utf8 "enable" ∨ l.action = utf8 "disable") ∧ l.password = none ∨
    l.action = utf8 "password" ∧ ∃ secret, l.password = some (utf8 secret) ∧ utf8 secret ≠ []

structure Spells (l : Layout) (r : Record) : Prop where
  principal : l.principal = utf8 r.principalName
  target : r.target = .activeDirectory
  action : match r.action with
    | .enable => l.action = utf8 "enable"
    | .disable => l.action = utf8 "disable"
    | .password secret => l.password = some (utf8 secret.text)

theorem eq_of_lines {l m : Layout} (lines : l.lines = m.lines) (rest : l.rest = m.rest) : l = m := by
  obtain ⟨principal, target, action, password, _⟩ := l
  obtain ⟨principal', target', action', password', _⟩ := m
  simp only [Layout.lines, List.cons_append, List.nil_append, List.cons.injEq] at lines rest
  obtain ⟨rfl, rfl, rfl, secrets⟩ := lines
  obtain rfl : password = password' := by
    cases password <;> cases password' <;> simp_all
  rw [rest]

theorem Accepted.spells {limit : Nat} {l : Layout} (accepted : l.Accepted limit) :
    ∃ r : Record, l.Spells r ∧ l.lines = r.lines.map utf8 := by
  obtain ⟨principal, target, action, password, rest⟩ := l
  obtain ⟨_, ⟨name, rfl⟩, rfl, status | ⟨rfl, secret, rfl, nonempty⟩⟩ := accepted
  · obtain ⟨rfl | rfl, rfl⟩ := status
    · exact ⟨⟨name, .activeDirectory, .enable⟩, ⟨rfl, rfl, rfl⟩, rfl⟩
    · exact ⟨⟨name, .activeDirectory, .disable⟩, ⟨rfl, rfl, rfl⟩, rfl⟩
  · have filled : secret ≠ "" := by
      rintro rfl
      exact nonempty rfl
    exact ⟨⟨name, .activeDirectory, .password ⟨secret, filled⟩⟩, ⟨rfl, rfl, rfl⟩, rfl⟩

end Layout

def Record.layout (r : Record) (rest : List UInt8) : Layout where
  principal := utf8 r.principalName
  target := utf8 r.target.token
  action := utf8 r.action.token
  password := match r.action with
    | .password secret => some (utf8 secret.text)
    | _ => none
  rest := rest

namespace Record

theorem lines_layout (r : Record) (rest : List UInt8) : (r.layout rest).lines = r.lines.map utf8 := by
  obtain ⟨principal, target, action⟩ := r
  cases action <;> rfl

theorem bytes_of_lines {r : Record} {l : Layout} (lines : l.lines = r.lines.map utf8) :
    l.bytes = r.encode ++ l.rest := by
  simp [Layout.bytes, lines, encode, List.flatMap_map, encode_eq_utf8]

theorem fits_iff {limit : Nat} (positive : 0 < limit) {r : Record} {l : Layout}
    (lines : l.lines = r.lines.map utf8) :
    (∀ line ∈ r.lines, Fits limit (Utf8.encode line)) ↔
      ∀ line ∈ l.lines, lineFeed ∉ line ∧ line.length ≤ limit - 1 := by
  simp only [lines, List.forall_mem_map, Fits, encode_eq_utf8, Nat.le_sub_one_iff_lt positive]

theorem accepted_layout {limit : Nat} (positive : 0 < limit) {r : Record}
    (fits : ∀ line ∈ r.lines, Fits limit (Utf8.encode line)) (rest : List UInt8) :
    (r.layout rest).Accepted limit := by
  refine ⟨(fits_iff positive (lines_layout r rest)).mp fits, ⟨r.principalName, rfl⟩, ?_, ?_⟩
  · cases r.target
    simp [layout, TargetSystem.token]
  · cases action : r.action with
    | enable => exact .inl ⟨.inl (by simp [layout, action, Action.token]), by simp [layout, action]⟩
    | disable => exact .inl ⟨.inr (by simp [layout, action, Action.token]), by simp [layout, action]⟩
    | password secret =>
      refine .inr ⟨by simp [layout, action, Action.token], secret.text, by simp [layout, action], ?_⟩
      intro blank
      exact secret.nonempty (Utf8.encode_inj.mp ((encode_eq_utf8 _).trans blank))

theorem readWithin_eq_read {limit : Nat} (low : 2 ≤ limit) (file : String) :
    readWithin limit file = read ⟨limit, low⟩ file := by
  have accepted : LineLimit.ofInt? limit = some ⟨limit, low⟩ := dif_pos low
  rw [readWithin, accepted]

/-- A written record is read back if its lines are admitted. -/
theorem read_admitted {limit : Int} (low : 1 < limit) (bounded : limit < 2 ^ 63) (file : String)
    {record : Record}
    (admitted : ∀ line ∈ record.lines, '\n' ∉ line.toList ∧ Utf8.size line + 1 ≤ limit)
    (rest : List UInt8) :
    ((readWithin limit file).run (.ofBytes (record.encode ++ rest))).1 = .ok record := by
  lift limit to Nat using by omega
  have two : 2 ≤ limit := by omega
  rw [readWithin_eq_read two]
  have small : (⟨limit, two⟩ : LineLimit).value < limitBound := by
    change limit < 2 ^ 63
    omega
  have fits : ∀ line ∈ record.lines, Fits limit (Utf8.encode line) := by
    intro line member
    obtain ⟨plain, short⟩ := admitted line member
    refine ⟨lineFeed_notMem_encode plain, ?_⟩
    unfold Utf8.size at short
    omega
  have read : outcome (read ⟨limit, two⟩ file) (.ofBytes (record.encode ++ rest)) =
      (.ok record, .ofBytes rest) :=
    (read_ok_iff small).mpr ⟨fits, rest, rfl, rfl⟩
  exact congrArg Prod.fst read

theorem read_layout {limit : LineLimit} (bounded : limit.value < limitBound) (file : String)
    {l : Layout} (accepted : l.Accepted limit.value) :
    ∃ r : Record, outcome (read limit file) (.ofBytes l.bytes) = (.ok r, .ofBytes l.rest) ∧
      l.Spells r ∧ l.lines = r.lines.map utf8 := by
  obtain ⟨r, spells, lines⟩ := accepted.spells
  have positive : 0 < limit.value := Nat.lt_of_lt_of_le Nat.two_pos limit.two_le_value
  exact ⟨r, (read_ok_iff bounded).mpr
    ⟨(fits_iff positive lines).mpr accepted.framed, l.rest, bytes_of_lines lines, rfl⟩, spells, lines⟩

/-- Reading succeeds exactly on the bytes of an accepted layout. There is only one for the bytes; it
spells the record and its rest is what is left to read. -/
theorem readWithin_layout (limit : Nat) (low : 2 ≤ limit) (high : limit < 2 ^ 63) (file : String)
    (data : List UInt8) :
    ((∃ r, (outcome (readWithin limit file) (.ofBytes data)).1 = .ok r) ↔
      ∃ l : Layout, l.Accepted limit ∧ l.bytes = data) ∧
    ∀ l : Layout, l.Accepted limit → l.bytes = data →
      (∀ other : Layout, other.Accepted limit → other.bytes = data → other = l) ∧
      ∃ r, outcome (readWithin limit file) (.ofBytes data) = (.ok r, .ofBytes l.rest) ∧
        l.Spells r ∧ r.encode ++ l.rest = data := by
  rw [readWithin_eq_read low]
  have bounded : (⟨limit, low⟩ : LineLimit).value < limitBound := high
  have positive : 0 < limit := Nat.lt_of_lt_of_le Nat.two_pos low
  refine ⟨⟨?_, ?_⟩, ?_⟩
  · rintro ⟨r, done⟩
    have read := Prod.ext (y := (_, _)) done rfl
    obtain ⟨fits, rest, rfl, _⟩ := (read_ok_iff bounded).mp read
    exact ⟨r.layout rest, accepted_layout positive fits rest, bytes_of_lines (lines_layout r rest)⟩
  · rintro ⟨l, accepted, rfl⟩
    obtain ⟨r, read, _⟩ := read_layout bounded file accepted
    exact ⟨r, congrArg Prod.fst read⟩
  · rintro l accepted rfl
    obtain ⟨r, read, spells, lines⟩ := read_layout bounded file accepted
    refine ⟨?_, r, read, spells, (bytes_of_lines lines).symm⟩
    intro other otherAccepted same
    -- one run of the reader cannot return two records, and a record fixes its lines
    obtain ⟨r', read', _, lines'⟩ := read_layout bounded file otherAccepted
    rw [same] at read'
    obtain ⟨rfl, rest⟩ : r' = r ∧ other.rest = l.rest := by
      have agree := read'.symm.trans read
      simp only [Prod.mk.injEq, Except.ok.injEq, Source.ofBytes, Source.mk.injEq, and_true] at agree
      exact agree
    exact Layout.eq_of_lines (lines'.trans lines.symm) rest

/-- Seven bytes are enough for `enable` and its line feed; a carriage return is part of a name. -/
theorem readWithin_layout_enable :
    ∃ r, outcome (readWithin (7 : Nat) "q") (.ofBytes (utf8 "é\r\nad\nenable\nmore")) =
        (.ok r, .ofBytes (utf8 "more")) ∧
      utf8 "é\r" = utf8 r.principalName := by
  let l : Layout := ⟨utf8 "é\r", utf8 "ad", utf8 "enable", none, utf8 "more"⟩
  have accepted : l.Accepted 7 := ⟨by decide, ⟨"é\r", rfl⟩, rfl, .inl ⟨.inl rfl, rfl⟩⟩
  have bytes : l.bytes = utf8 "é\r\nad\nenable\nmore" := by decide
  obtain ⟨-, r, read, spells, -⟩ :=
    (readWithin_layout 7 (by decide) (by decide) "q" _).2 l accepted bytes
  exact ⟨r, read, spells.principal⟩

end Record

end AccountSync.Queue
