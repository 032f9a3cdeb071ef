import AccountSync.Proofs.Queue.Lines
import AccountSync.Proofs.Queue.Reading

/-!
# The first fault of a queue file

Reading stops at the first line that cannot be read or is refused, says so, and reads no further: not
more than the limit for each line up to there (`readWithin_first_fault`).
-/

namespace AccountSync.Queue

/-- Why no text is read from the start of these bytes: what is reported, and which bytes are left. -/
inductive Unreadable (limit : Nat) (file : String) (number : Nat) :
    List UInt8 → Failure → List UInt8 → Prop where
  | tooLong {start} (long : limit ≤ start.length) (unended : lineFeed ∉ start.take limit) :
    Unreadable limit file number start (.lineTooLong file limit) (start.drop limit)
  | cutOff {start} (short : start.length < limit) (unended : lineFeed ∉ start) :
    Unreadable limit file number start (.fileEnded file number) []
  | encoding {line why rest} (fits : Fits limit line) (foreign : ∀ text, line ≠ utf8 text)
    (decoded : Utf8.decode line = .error why) :
    Unreadable limit file number (line ++ lineFeed :: rest)
      (.invalidLine file number (.encoding why)) rest

/-- Why reading stops at the line that starts these bytes: it cannot be read, or holds a text that has
no place there. -/
inductive LineFault (limit : Nat) (file : String) :
    Nat → List UInt8 → Failure → List UInt8 → Prop where
  | unreadable {number start f rest} (stops : Unreadable limit file number start f rest) :
    LineFault limit file number start f rest
  | target {token rest} (fits : Fits limit (utf8 token)) (other : token ≠ "ad") :
    LineFault limit file 2 (utf8 token ++ lineFeed :: rest) (.unknownTarget file token) rest
  | action {token rest} (fits : Fits limit (utf8 token))
    (other : token ≠ "enable" ∧ token ≠ "disable" ∧ token ≠ "password") :
    LineFault limit file 3 (utf8 token ++ lineFeed :: rest) (.unknownAction file token) rest
  | blank {rest} : LineFault limit file 4 (lineFeed :: rest) (.invalidLine file 4 .emptyPassword) rest

/-- What stands on a line of this number if it is accepted and another line is to follow: only a
password stands on a fourth line, and none on a fifth. -/
def Continues (number : Nat) (line : List UInt8) : Prop :=
  match number with
  | 1 => ∃ name, line = utf8 name
  | 2 => line = utf8 "ad"
  | 3 => line = utf8 "password"
  | _ => False

/-- Reading a record from its line of this number on: some lines are whole and accepted, and the one
after them is the first that is not. -/
inductive FirstFault (limit : Nat) (file : String) :
    Nat → List (List UInt8) → List UInt8 → Failure → List UInt8 → Prop where
  | here {number start f rest} (fault : LineFault limit file number start f rest) :
    FirstFault limit file number [] start f rest
  | later {number line earlier start f rest} (fits : Fits limit line)
    (continues : Continues number line)
    (first : FirstFault limit file (number + 1) earlier start f rest) :
    FirstFault limit file number (line :: earlier) (line ++ lineFeed :: start) f rest

/-! ### What is consumed -/

theorem Fits.consumed {limit : Nat} {line : List UInt8} (fits : Fits limit line) (rest : List UInt8) :
    ∃ taken, line ++ lineFeed :: rest = taken ++ rest ∧ taken.length ≤ limit := by
  refine ⟨line ++ [lineFeed], by simp, ?_⟩
  rw [List.length_append]
  exact fits.2

theorem LineFault.consumed {limit number : Nat} (positive : 0 < limit) {file : String}
    {start rest : List UInt8} {f : Failure} (fault : LineFault limit file number start f rest) :
    ∃ taken, start = taken ++ rest ∧ taken.length ≤ limit := by
  cases fault with
  | unreadable stops =>
    cases stops with
    | tooLong _ _ =>
      exact ⟨start.take limit, (List.take_append_drop limit start).symm,
        List.length_take_le limit start⟩
    | cutOff short _ => exact ⟨start, (List.append_nil start).symm, Nat.le_of_lt short⟩
    | encoding fits _ _ => exact fits.consumed rest
  | target fits _ => exact fits.consumed rest
  | action fits _ => exact fits.consumed rest
  | blank => exact ⟨[lineFeed], rfl, positive⟩

/-- By induction on the lines before the fault, each of which is within the limit. -/
theorem FirstFault.consumed {limit number : Nat} (positive : 0 < limit) {file : String}
    {start rest : List UInt8} {earlier : List (List UInt8)} {f : Failure}
    (first : FirstFault limit file number earlier start f rest) :
    ∃ last, start = earlier.flatMap (· ++ [lineFeed]) ++ last ++ rest ∧
      (earlier.flatMap (· ++ [lineFeed]) ++ last).length ≤ (earlier.length + 1) * limit := by
  induction first with
  | here fault =>
    obtain ⟨last, rfl, short⟩ := fault.consumed positive
    exact ⟨last, rfl, by simpa using short⟩
  | @later number line earlier start f rest fits _ _ ih =>
    obtain ⟨last, rfl, short⟩ := ih
    refine ⟨last, by simp, ?_⟩
    have room : line.length < limit := fits.2
    simp only [List.flatMap_cons, List.length_append, List.length_cons, List.length_nil,
      Nat.add_mul] at short ⊢
    omega

/-! ### Which line it is -/

theorem LineFault.rejects {limit number : Nat} {file : String} {line later rest : List UInt8}
    {f : Failure} (fault : LineFault limit file number (line ++ lineFeed :: later) f rest)
    (fits : Fits limit line) : ¬ Continues number line := by
  intro continues
  generalize same : line ++ lineFeed :: later = start at fault
  cases fault with
  | unreadable stops =>
    cases stops with
    | tooLong _ unended =>
      rw [← same] at unended
      exact unended (fits.mem_take later)
    | cutOff _ unended =>
      rw [← same] at unended
      exact unended (List.mem_append_right _ List.mem_cons_self)
    | encoding whole foreign _ =>
      obtain ⟨rfl, -⟩ := fits.cut_unique whole same
      match number, continues with
      | 1, ⟨name, text⟩ => exact foreign name text
      | 2, text => exact foreign "ad" text
      | 3, text => exact foreign "password" text
  | target whole other =>
    obtain ⟨text, -⟩ := fits.cut_unique whole same
    exact other (utf8_inj.mp (text.symm.trans continues))
  | action whole other =>
    obtain ⟨text, -⟩ := fits.cut_unique whole same
    exact other.2.2 (utf8_inj.mp (text.symm.trans continues))
  | blank => exact continues.elim

theorem FirstFault.unique {limit number : Nat} {file : String} {start rest rest' : List UInt8}
    {earlier earlier' : List (List UInt8)} {f f' : Failure}
    (first : FirstFault limit file number earlier start f rest)
    (other : FirstFault limit file number earlier' start f' rest') : earlier' = earlier := by
  induction first generalizing earlier' with
  | here fault =>
    cases other with
    | here _ => rfl
    | later fits continues _ => exact (fault.rejects fits continues).elim
  | @later number line earlier start f rest fits continues _ ih =>
    generalize same : line ++ lineFeed :: start = data at other
    cases other with
    | here fault =>
      rw [← same] at fault
      exact (fault.rejects fits continues).elim
    | later fits' _ first' =>
      obtain ⟨rfl, rfl⟩ := fits.cut_unique fits' same
      rw [ih first']

namespace Record

variable {α β : Type}

/-! ### Readers that stop -/

/-- When `x` fails, with which failure, and which bytes it leaves then. -/
def Stops (x : Reader α) (spec : List UInt8 → Failure → List UInt8 → Prop) : Prop :=
  ∀ data fault after, outcome x (.ofBytes data) = (.error fault, after) ↔
    ∃ f rest, fault = .failure f ∧ after = .ofBytes rest ∧ spec data f rest

theorem stops_pure (a : α) : Stops (pure a : Reader α) fun _ _ _ => False := by
  intro data fault after
  constructor
  · intro failed
    cases failed
  · rintro ⟨_, _, _, _, never⟩
    exact never.elim

theorem stops_throw (f : Failure) :
    Stops (throw (.failure f) : Reader α) fun data g rest => g = f ∧ rest = data := by
  intro data fault after
  constructor
  · intro failed
    cases failed
    exact ⟨f, data, rfl, rfl, rfl, rfl⟩
  · rintro ⟨_, _, rfl, rfl, rfl, rfl⟩
    rfl

theorem Stops.congr {x : Reader α} {spec other : List UInt8 → Failure → List UInt8 → Prop}
    (stops : Stops x spec) (same : ∀ data f rest, spec data f rest ↔ other data f rest) :
    Stops x other := by
  intro data fault after
  simp only [stops data fault after, same]

/-- A composed reader stops where its first part stops, or where the second one does on what the first
one left. -/
theorem stops_bind {x : Reader α} {g : α → Reader β} {lines : α → Nat}
    {spec : List UInt8 → Failure → List UInt8 → Prop}
    {later : α → List UInt8 → Failure → List UInt8 → Prop} (counts : Counts x lines)
    (first : Stops x spec) (next : ∀ a, Stops (g a) (later a)) :
    Stops (x >>= g) fun data f rest => spec data f rest ∨
      ∃ a between, outcome x (.ofBytes data) = (.ok a, .ofBytes between) ∧ later a between f rest := by
  intro data fault after
  beta_reduce
  rw [outcome_bind]
  cases read : outcome x (.ofBytes data) with
  | mk result middle =>
    cases result with
    | error early =>
      constructor
      · intro failed
        cases failed
        obtain ⟨f, rest, same, left, stopped⟩ := (first data _ _).mp read
        exact ⟨f, rest, same, left, .inl stopped⟩
      · rintro ⟨f, rest, same, left, stopped | ⟨_, _, returned, _⟩⟩
        · have failed := (first data fault after).mpr ⟨f, rest, same, left, stopped⟩
          rw [read] at failed
          cases failed
          rfl
        · cases returned
    | ok a =>
      obtain ⟨_, between, _, rfl⟩ := (counts _ _ _).mp read
      dsimp only
      have onward := next a between fault after
      constructor
      · intro failed
        obtain ⟨f, rest, same, left, stopped⟩ := onward.mp failed
        exact ⟨f, rest, same, left, .inr ⟨a, between, rfl, stopped⟩⟩
      · rintro ⟨f, rest, same, left, stopped | ⟨_, _, returned, stopped⟩⟩
        · have failed := (first data fault after).mpr ⟨f, rest, same, left, stopped⟩
          rw [read] at failed
          cases failed
        · cases returned
          exact onward.mpr ⟨f, rest, same, left, stopped⟩

/-! ### The parts of a record -/

theorem ofToken?_eq_none_iff {token : String} : TargetSystem.ofToken? token = none ↔ token ≠ "ad" := by
  rw [TargetSystem.ofToken?, ite_eq_right_iff]
  simp [TargetSystem.token]

theorem ofText?_eq_none_iff {text : String} : Password.ofText? text = none ↔ text = "" := by
  simp [Password.ofText?]

section

variable {limit : LineLimit} (bounded : limit.value < limitBound) (file : String)

include bounded

theorem stops_readText (number : Nat) :
    Stops (readText limit file number) (Unreadable limit.value file number) := by
  intro data fault after
  unfold readText
  rw [outcome_bind, outcome_readLine bounded]
  constructor
  · intro failed
    have taken := taken_takeLine limit.value data
    generalize takeLine limit.value data = result at taken failed
    obtain ⟨line, rest⟩ := result
    cases taken with
    | tooLong long unended =>
      cases failed
      exact ⟨_, _, rfl, rfl, .tooLong long unended⟩
    | ended fits =>
      cases failed
      exact ⟨_, _, rfl, rfl, .cutOff fits.2 fits.1⟩
    | @complete bytes _ fits =>
      cases decoded : Utf8.decode bytes with
      | ok text =>
        simp only [decoded] at failed
        cases failed
      | error why =>
        simp only [decoded] at failed
        cases failed
        refine ⟨_, _, rfl, rfl, .encoding fits ?_ decoded⟩
        rintro text rfl
        rw [← encode_eq_utf8, Utf8.decode_encode] at decoded
        cases decoded
  · rintro ⟨f, rest, rfl, rfl, stops⟩
    cases stops with
    | tooLong long unended =>
      rw [takeLine_cut long unended]
      rfl
    | cutOff short unended =>
      rw [takeLine_last ⟨unended, short⟩]
      rfl
    | encoding fits _ decoded =>
      rw [takeLine_fitting fits]
      simp only [decoded]
      rfl

/-- What reading a text leaves. -/
theorem read_text_iff {number : Nat} {data rest : List UInt8} {text : String} :
    outcome (readText limit file number) (.ofBytes data) = (.ok text, .ofBytes rest) ↔
      Fits limit.value (utf8 text) ∧ data = utf8 text ++ lineFeed :: rest := by
  rw [readText_ok_iff bounded, encode_eq_utf8]
  simp [Source.ofBytes]

theorem stops_readTarget : Stops (readTarget limit file) (LineFault limit.value file 2) := by
  unfold readTarget
  refine (stops_bind (counts_readText limit file 2) (stops_readText bounded file 2) fun token =>
    (?_ : Stops _ fun data f rest => TargetSystem.ofToken? token = none ∧
      f = .unknownTarget file token ∧ rest = data)).congr ?_
  · cases TargetSystem.ofToken? token with
    | some target => exact (stops_pure _).congr fun data f rest => by simp
    | none => exact (stops_throw _).congr fun data f rest => by simp
  intro data f rest
  simp only [read_text_iff bounded, ofToken?_eq_none_iff]
  constructor
  · rintro (stops | ⟨token, _, ⟨fits, rfl⟩, other, rfl, rfl⟩)
    · exact .unreadable stops
    · exact .target fits other
  · intro fault
    cases fault with
    | unreadable stops => exact .inl stops
    | target fits other => exact .inr ⟨_, _, ⟨fits, rfl⟩, other, rfl, rfl⟩

theorem stops_readPassword : Stops (readPassword limit file) (LineFault limit.value file 4) := by
  unfold readPassword
  refine (stops_bind (counts_readText limit file 4) (stops_readText bounded file 4) fun text =>
    (?_ : Stops _ fun data f rest => Password.ofText? text = none ∧
      f = .invalidLine file 4 .emptyPassword ∧ rest = data)).congr ?_
  · cases Password.ofText? text with
    | some secret => exact (stops_pure _).congr fun data f rest => by simp
    | none => exact (stops_throw _).congr fun data f rest => by simp
  intro data f rest
  simp only [read_text_iff bounded, ofText?_eq_none_iff]
  constructor
  · rintro (stops | ⟨_, _, ⟨_, rfl⟩, rfl, rfl, rfl⟩)
    · exact .unreadable stops
    · exact .blank
  · intro fault
    cases fault with
    | unreadable stops => exact .inl stops
    | blank =>
      have positive : 0 < limit.value := Nat.lt_of_lt_of_le Nat.two_pos limit.two_le_value
      exact .inr ⟨"", _, ⟨⟨List.not_mem_nil, positive⟩, rfl⟩, rfl, rfl, rfl⟩

theorem stops_readAction :
    Stops (readAction limit file) fun data f rest =>
      ∃ earlier, FirstFault limit.value file 3 earlier data f rest := by
  unfold readAction
  refine (stops_bind (counts_readText limit file 3) (stops_readText bounded file 3) fun token =>
    (?_ : Stops _ fun data f rest => token = "password" ∧ LineFault limit.value file 4 data f rest ∨
      (token ≠ "enable" ∧ token ≠ "disable" ∧ token ≠ "password") ∧
        f = .unknownAction file token ∧ rest = data)).congr ?_
  · split
    · exact (stops_pure _).congr fun data f rest => by simp
    · exact (stops_pure _).congr fun data f rest => by simp
    · have secret := stops_bind (counts_readPassword limit file) (stops_readPassword bounded file)
        fun text => stops_pure (Action.password text)
      exact secret.congr fun data f rest => by simp
    · next enable disable password =>
      refine (stops_throw _).congr fun data f rest => ?_
      constructor
      · exact fun both => .inr ⟨⟨enable, disable, password⟩, both⟩
      · rintro (⟨same, _⟩ | ⟨_, both⟩)
        · exact (password same).elim
        · exact both
  intro data f rest
  simp only [read_text_iff bounded]
  constructor
  · rintro (stops | ⟨token, between, ⟨fits, rfl⟩, ⟨rfl, fault⟩ | ⟨other, rfl, rfl⟩⟩)
    · exact ⟨[], .here (.unreadable stops)⟩
    · exact ⟨[_], .later fits rfl (.here fault)⟩
    · exact ⟨[], .here (.action fits other)⟩
  · rintro ⟨earlier, first⟩
    cases first with
    | here fault =>
      cases fault with
      | unreadable stops => exact .inl stops
      | action fits other => exact .inr ⟨_, _, ⟨fits, rfl⟩, .inr ⟨other, rfl, rfl⟩⟩
    | later fits continues first =>
      cases continues
      cases first with
      | here fault => exact .inr ⟨_, _, ⟨fits, rfl⟩, .inl ⟨rfl, fault⟩⟩
      | later _ never _ => exact never.elim

theorem read_target_iff {data rest : List UInt8} {target : TargetSystem} :
    outcome (readTarget limit file) (.ofBytes data) = (.ok target, .ofBytes rest) ↔
      Fits limit.value (utf8 "ad") ∧ data = utf8 "ad" ++ lineFeed :: rest := by
  rw [readTarget_ok_iff bounded, encode_eq_utf8]
  cases target
  simp [Source.ofBytes, TargetSystem.token]

theorem stops_read :
    Stops (read limit file) fun data f rest =>
      ∃ earlier, FirstFault limit.value file 1 earlier data f rest := by
  have last (name : String) (target : TargetSystem) :=
    stops_bind (counts_readAction limit file) (stops_readAction bounded file)
      fun action => stops_pure (Record.mk name target action)
  have middle (name : String) :=
    stops_bind (counts_readTarget limit file) (stops_readTarget bounded file) (last name)
  refine (stops_bind (counts_readText limit file 1) (stops_readText bounded file 1) middle).congr ?_
  intro data f rest
  simp only [read_text_iff bounded, read_target_iff bounded]
  constructor
  · rintro (stops | ⟨name, second, ⟨fits, rfl⟩, rest⟩)
    · exact ⟨[], .here (.unreadable stops)⟩
    rcases rest with fault | ⟨target, third, ⟨aimed, rfl⟩, rest⟩
    · exact ⟨[_], .later fits ⟨name, rfl⟩ (.here fault)⟩
    rcases rest with ⟨earlier, first⟩ | ⟨_, _, _, never⟩
    · exact ⟨_ :: _ :: earlier, .later fits ⟨name, rfl⟩ (.later aimed rfl first)⟩
    · exact never.elim
  · rintro ⟨earlier, first⟩
    cases first with
    | here fault =>
      cases fault with
      | unreadable stops => exact .inl stops
    | later fits continues first =>
      obtain ⟨name, rfl⟩ := continues
      refine .inr ⟨name, _, ⟨fits, rfl⟩, ?_⟩
      cases first with
      | here fault => exact .inl fault
      | later aimed continues first =>
        cases continues
        exact .inr ⟨.activeDirectory, _, ⟨aimed, rfl⟩, .inl ⟨_, first⟩⟩

end

/-- Reading fails exactly where there is a first fault, which there is at one line only, and with that
fault. It has then consumed the lines before it and what a read takes of the line with the fault, and
so never more than the limit for each of them. -/
theorem readWithin_first_fault {limit : Nat} (low : 2 ≤ limit) (high : limit < 2 ^ 63)
    (file : String) (data : List UInt8) :
    (∀ fault after, outcome (readWithin limit file) (.ofBytes data) = (.error fault, after) ↔
      ∃ f rest, fault = .failure f ∧ after = .ofBytes rest ∧
        ∃ earlier, FirstFault limit file 1 earlier data f rest) ∧
    ∀ f rest earlier, FirstFault limit file 1 earlier data f rest →
      (∃ last, data = earlier.flatMap (· ++ [lineFeed]) ++ last ++ rest ∧
        (earlier.flatMap (· ++ [lineFeed]) ++ last).length ≤ (earlier.length + 1) * limit) ∧
      ∀ f' rest' earlier', FirstFault limit file 1 earlier' data f' rest' → earlier' = earlier := by
  have bounded : (⟨limit, low⟩ : LineLimit).value < limitBound := high
  have positive : 0 < limit := Nat.lt_of_lt_of_le Nat.two_pos low
  rw [readWithin_eq_read low]
  refine ⟨stops_read bounded file data, fun f rest earlier first => ?_⟩
  exact ⟨first.consumed positive, fun _ _ _ other => first.unique other⟩

/-- The third line is a byte too long. That the file ends in it, and that no password follows, is not
looked at. -/
theorem readWithin_first_fault_cut :
    let data := utf8 "é\nad\npassword"
    let earlier := [utf8 "é", utf8 "ad"]
    2 ≤ 7 ∧ 7 < 2 ^ 63 ∧ FirstFault 7 "q" 1 earlier data (.lineTooLong "q" 7) (utf8 "d") ∧
      outcome (readWithin (7 : Nat) "q") (.ofBytes data) =
        (.error (.failure (.lineTooLong "q" 7)), .ofBytes (utf8 "d")) ∧
      ∃ last, data = earlier.flatMap (· ++ [lineFeed]) ++ last ++ utf8 "d" := by
  intro data earlier
  have low : 2 ≤ 7 := by decide
  have high : 7 < 2 ^ 63 := by decide
  have third : LineFault 7 "q" 3 (utf8 "password") (.lineTooLong "q" 7) (utf8 "d") :=
    .unreadable (.tooLong (by decide) (by decide))
  have first : FirstFault 7 "q" 1 earlier data (.lineTooLong "q" 7) (utf8 "d") :=
    .later ⟨by decide, by decide⟩ ⟨"é", rfl⟩
      (.later ⟨by decide, by decide⟩ rfl (.here third))
  obtain ⟨fails, consumes⟩ := readWithin_first_fault low high "q" data
  obtain ⟨⟨last, taken, _⟩, _⟩ := consumes _ _ _ first
  exact ⟨low, high, first, (fails _ _).mpr ⟨_, _, rfl, rfl, earlier, first⟩, last, taken⟩

end Record

end AccountSync.Queue
