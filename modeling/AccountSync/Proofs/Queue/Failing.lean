import AccountSync.Proofs.Queue.Successive

/-!
# Sources that fail

A reader sees no more of its source than the lines that it asks for. So an error of the source is met
if and only if it comes before the last of these lines, and stops the reader there
(`readWithin_failing`).
-/

namespace AccountSync.Queue

/-- The words that the system has for an error; a plain error has none. -/
def ReadError.words? : ReadError → Option String
  | .plain _ => none
  | .numbered _ text _ => some text

theorem ReadError.reason_eq (e : ReadError) :
    e.reason = (e.words?.filter (· ≠ "")).getD e.message := by
  cases e with
  | plain text => rfl
  | numbered number text paths =>
    by_cases blank : text = ""
    · simp [reason, words?, message, Option.filter, blank]
    · simp [reason, words?, Option.filter, blank]

/-- A series of whole lines cuts the data at their line feeds. -/
theorem Series.whole {limit : Nat} {data rest : List UInt8} {lines : List Line}
    (series : Series limit data lines rest) (whole : ∀ line ∈ lines, line.status = .complete) :
    (∀ line ∈ lines.map Line.data, Fits limit line) ∧
      data = (lines.map Line.data).flatMap (· ++ [lineFeed]) ++ rest := by
  induction series with
  | none => exact ⟨fun _ member => (List.not_mem_nil member).elim, rfl⟩
  | next first _ ih =>
    obtain ⟨here, later⟩ := List.forall_mem_cons.mp whole
    obtain ⟨fits, cut⟩ := ih later
    cases first with
    | tooLong _ _ => cases here
    | ended _ => cases here
    | complete own =>
      rw [List.map_cons, List.forall_mem_cons, List.flatMap_cons]
      refine ⟨⟨own, fits⟩, ?_⟩
      rw [cut]
      simp

namespace Record

variable {α β : Type}

/-- A reader told line by line: how it ends, or what it does with the next line. -/
inductive Plan (α : Type) where
  | finish (result : Except Fault α)
  | ask (next : Line → Plan α)

namespace Plan

def bind (plan : Plan α) (f : α → Plan β) : Plan β :=
  match plan with
  | finish (.ok a) => f a
  | finish (.error fault) => finish (.error fault)
  | ask next => ask fun line => (next line).bind f

def reader (limit : LineLimit) (file : String) : Plan α → Reader α
  | finish (.ok a) => pure a
  | finish (.error fault) => throw fault
  | ask next => do
    let line ← (Source.readLine limit).adapt (interrupted file)
    (next line).reader limit file

/-- How many lines are asked for when these bytes are read and the source does not fail. -/
def asked (limit : Nat) : Plan α → List UInt8 → Nat
  | finish _, _ => 0
  | ask next, data => (next (takeLine limit data).1).asked limit (takeLine limit data).2 + 1

/-- Only a whole line is ever followed by another one. -/
inductive Strict : Plan α → Prop where
  | finish (result) : Strict (finish result)
  | ask {next} (whole : ∀ line, line.status = .complete → Strict (next line))
    (broken : ∀ line, line.status ≠ .complete → ∃ fault, next line = finish (.error fault)) :
    Strict (ask next)

theorem reader_bind (limit : LineLimit) (file : String) (plan : Plan α) (f : α → Plan β) :
    (plan.bind f).reader limit file =
      (plan.reader limit file >>= fun a => (f a).reader limit file) := by
  induction plan with
  | finish result =>
    cases result with
    | ok a => exact (pure_bind a fun a => (f a).reader limit file).symm
    | error fault => rfl
  | ask next ih => simp only [bind, reader, ih, bind_assoc]

theorem Strict.bind {plan : Plan α} {f : α → Plan β} (first : plan.Strict)
    (next : ∀ a, (f a).Strict) : (plan.bind f).Strict := by
  induction first with
  | finish result =>
    cases result with
    | ok a => exact next a
    | error fault => exact .finish _
  | ask _ broken ih =>
    refine .ask ih fun line cut => ?_
    obtain ⟨fault, same⟩ := broken line cut
    exact ⟨fault, by rw [same, Plan.bind]⟩

/-! ### Reading by a plan -/

section

variable {limit : LineLimit} (bounded : limit.value < limitBound) (file : String)

include bounded

theorem outcome_failed (next : Line → Plan α) (data : List UInt8) (e : ReadError) :
    outcome ((ask next).reader limit file) ⟨data, some (0, e)⟩ =
      (.error (.failure (.cannotRead file e)), ⟨data, some (0, e)⟩) := by
  rw [reader, outcome_bind, outcome_line, if_neg (Nat.not_le.mpr bounded)]
  rfl

theorem outcome_asked (next : Line → Plan α) (source : Source) (serves : source.fault? = none) :
    outcome ((ask next).reader limit file) source =
      outcome ((next (takeLine limit.value source.data).1).reader limit file)
        (source.advance (takeLine limit.value source.data).2) := by
  rw [reader, outcome_bind, outcome_line, if_neg (Nat.not_le.mpr bounded), serves]

/-- By induction on the plan: a source that fails gives the lines that it gives without, until it
fails. -/
theorem outcome_failing (plan : Plan α) (data : List UInt8) (n : Nat) (e : ReadError) :
    let free := outcome (plan.reader limit file) (.ofBytes data)
    let met := outcome (plan.reader limit file) ⟨data, some (n, e)⟩
    let count := plan.asked limit.value data
    (count ≤ n → met = (free.1, ⟨free.2.data, some (n - count, e)⟩)) ∧
    (n < count → ∃ lines rest, met = (.error (.failure (.cannotRead file e)), ⟨rest, some (0, e)⟩) ∧
      lines.length = n ∧ Series limit.value data lines rest ∧
      (plan.Strict → ∀ line ∈ lines, line.status = .complete)) := by
  induction plan generalizing data n with
  | finish result =>
    refine ⟨fun _ => ?_, fun early => (Nat.not_lt_zero n early).elim⟩
    cases result <;> rfl
  | ask next ih =>
    dsimp only
    have free := outcome_asked bounded file next (.ofBytes data) rfl
    cases n with
    | zero =>
      refine ⟨fun enough => (Nat.not_succ_le_zero _ enough).elim, fun _ => ⟨[], data, ?_⟩⟩
      exact ⟨outcome_failed bounded file next data e, rfl, .none, fun _ _ member => nomatch member⟩
    | succ n =>
      have met := outcome_asked bounded file next ⟨data, some (n + 1, e)⟩ rfl
      have first := taken_takeLine limit.value data
      obtain ⟨enough, early⟩ :=
        ih (takeLine limit.value data).1 (takeLine limit.value data).2 n
      rw [free, met, asked]
      constructor
      · intro within
        refine (enough (Nat.le_of_succ_le_succ within)).trans ?_
        rw [Nat.add_sub_add_right]
        rfl
      · intro before
        obtain ⟨lines, rest, stopped, length, series, whole⟩ := early (Nat.lt_of_succ_lt_succ before)
        refine ⟨_ :: lines, rest, stopped, congrArg (· + 1) length, .next first series, ?_⟩
        rintro ⟨⟩
        next strict broken =>
        -- a line that is not whole is the last one, but another one is asked for
        have here : (takeLine limit.value data).1.status = .complete := by
          by_contra cut
          obtain ⟨fault, same⟩ := broken _ cut
          rw [same] at before
          exact Nat.not_lt_zero n (Nat.lt_of_succ_lt_succ before)
        exact List.forall_mem_cons.mpr ⟨here, whole (strict _ here)⟩

end

/-! ### The plan of a record -/

section

variable (limit : Nat) (file : String)

def text (number : Nat) : Plan String := .ask fun line =>
  match line.status with
  | .tooLong => .finish (.error (.failure (.lineTooLong file limit)))
  | .ended => .finish (.error (.failure (.fileEnded file number)))
  | .complete =>
    match Utf8.decode line.data with
    | .ok text => .finish (.ok text)
    | .error fault => .finish (.error (.failure (.invalidLine file number (.encoding fault))))

def target : Plan TargetSystem := (text limit file 2).bind fun token =>
  match TargetSystem.ofToken? token with
  | some target => .finish (.ok target)
  | none => .finish (.error (.failure (.unknownTarget file token)))

def password : Plan Password := (text limit file 4).bind fun text =>
  match Password.ofText? text with
  | some secret => .finish (.ok secret)
  | none => .finish (.error (.failure (.invalidLine file 4 .emptyPassword)))

def action : Plan Action := (text limit file 3).bind fun token =>
  if token = "enable" then .finish (.ok .enable)
  else if token = "disable" then .finish (.ok .disable)
  else if token = "password" then
    (password limit file).bind fun secret => .finish (.ok (.password secret))
  else .finish (.error (.failure (.unknownAction file token)))

def record : Plan Record :=
  (text limit file 1).bind fun principalName =>
  (target limit file).bind fun target =>
  (action limit file).bind fun action =>
  .finish (.ok { principalName, target, action })

theorem strict_text (number : Nat) : (text limit file number).Strict := by
  refine .ask (fun line whole => ?_) fun line cut => ?_
  · rw [whole]
    dsimp only
    split
    · exact .finish _
    · exact .finish _
  · cases status : line.status with
    | tooLong => exact ⟨_, rfl⟩
    | ended => exact ⟨_, rfl⟩
    | complete => exact (cut status).elim

theorem strict_target : (target limit file).Strict := by
  refine (strict_text limit file 2).bind fun token => ?_
  split
  · exact .finish _
  · exact .finish _

theorem strict_password : (password limit file).Strict := by
  refine (strict_text limit file 4).bind fun text => ?_
  split
  · exact .finish _
  · exact .finish _

theorem strict_action : (action limit file).Strict := by
  refine (strict_text limit file 3).bind fun token => ?_
  split
  · exact .finish _
  split
  · exact .finish _
  split
  · exact (strict_password limit file).bind fun _ => .finish _
  · exact .finish _

theorem strict_record : (record limit file).Strict := by
  refine (strict_text limit file 1).bind fun principalName => ?_
  refine (strict_target limit file).bind fun target => ?_
  exact (strict_action limit file).bind fun action => .finish _

end

section

variable (limit : LineLimit) (file : String)

theorem reader_text (number : Nat) :
    (text limit.value file number).reader limit file = readText limit file number := by
  unfold text readText
  rw [reader]
  refine bind_congr fun line => ?_
  cases line.status with
  | tooLong => rfl
  | ended => rfl
  | complete =>
    dsimp only
    cases Utf8.decode line.data <;> rfl

theorem reader_target : (target limit.value file).reader limit file = readTarget limit file := by
  unfold target readTarget
  rw [reader_bind, reader_text]
  refine bind_congr fun token => ?_
  cases TargetSystem.ofToken? token <;> rfl

theorem reader_password :
    (password limit.value file).reader limit file = readPassword limit file := by
  unfold password readPassword
  rw [reader_bind, reader_text]
  refine bind_congr fun text => ?_
  cases Password.ofText? text <;> rfl

theorem reader_action : (action limit.value file).reader limit file = readAction limit file := by
  unfold action readAction
  rw [reader_bind, reader_text]
  refine bind_congr fun token => ?_
  by_cases enable : token = "enable"
  · subst enable
    rfl
  rw [if_neg enable]
  by_cases disable : token = "disable"
  · subst disable
    rfl
  rw [if_neg disable]
  by_cases password : token = "password"
  · subst password
    rw [if_pos rfl, reader_bind, reader_password]
    rfl
  rw [if_neg password]
  split
  · exact (enable rfl).elim
  · exact (disable rfl).elim
  · exact (password rfl).elim
  · rfl

theorem reader_record : (record limit.value file).reader limit file = read limit file := by
  unfold record read
  rw [reader_bind, reader_text]
  refine bind_congr fun principalName => ?_
  rw [reader_bind, reader_target]
  refine bind_congr fun target => ?_
  rw [reader_bind, reader_action]
  rfl

end

end Plan

/-! ### A record -/

/-- The lines asked for by a fault-free reading of a record are counted by its plan. An error that comes
after as many lines changes nothing: the result is the same, and so are the bytes that are left.
One that comes earlier is reported, in the words of the system if it has any; the lines before it were
all whole, and they are what is consumed. -/
theorem readWithin_failing {limit : Nat} (low : 2 ≤ limit) (high : limit < 2 ^ 63) (file : String)
    (data : List UInt8) (n : Nat) (e : ReadError) :
    let plan := Plan.record limit file
    let count := plan.asked limit data
    let free := outcome (readWithin limit file) (.ofBytes data)
    let met := outcome (readWithin limit file) ⟨data, some (n, e)⟩
    plan.reader ⟨limit, low⟩ file = readWithin limit file ∧
    (count ≤ n → met = (free.1, ⟨free.2.data, some (n - count, e)⟩)) ∧
    (n < count → ∃ (lines : List (List UInt8)) (rest : List UInt8),
      met = (.error (.failure (.cannotRead file e)), ⟨rest, some (0, e)⟩) ∧
      lines.length = n ∧ (∀ line ∈ lines, Fits limit line) ∧
      data = lines.flatMap (· ++ [lineFeed]) ++ rest) ∧
    (Failure.cannotRead file e).message =
      "cannot read from queue file " ++ file ++ ": " ++ (e.words?.filter (· ≠ "")).getD e.message := by
  intro plan count free met
  have bounded : (⟨limit, low⟩ : LineLimit).value < limitBound := high
  have same : plan.reader ⟨limit, low⟩ file = readWithin limit file := by
    rw [readWithin_eq_read low]
    exact Plan.reader_record ⟨limit, low⟩ file
  obtain ⟨enough, early⟩ := plan.outcome_failing bounded file data n e
  rw [same] at enough early
  have words := congrArg ("cannot read from queue file " ++ file ++ ": " ++ ·) e.reason_eq
  refine ⟨same, enough, fun before => ?_, words⟩
  obtain ⟨lines, rest, stopped, length, series, whole⟩ := early before
  obtain ⟨fits, cut⟩ := series.whole (whole (Plan.strict_record limit file))
  exact ⟨lines.map Line.data, rest, stopped, by rw [List.length_map, length], fits, cut⟩

/-- The fourth line is asked for and holds a blank password. A source that fails after it is not found
out, and one that fails before it is; an error without words is then told by its number. -/
theorem readWithin_failing_blank :
    let data := utf8 "u\nad\npassword\n\nrest"
    let e : ReadError := .numbered 5 "" []
    2 ≤ 9 ∧ 9 < 2 ^ 63 ∧ (Plan.record 9 "q").asked 9 data = 4 ∧
      outcome (readWithin (9 : Nat) "q") ⟨data, some (4, e)⟩ =
        (.error (.failure (.invalidLine "q" 4 .emptyPassword)), ⟨utf8 "rest", some (0, e)⟩) ∧
      (∃ rest, outcome (readWithin (9 : Nat) "q") ⟨data, some (3, e)⟩ =
          (.error (.failure (.cannotRead "q" e)), ⟨rest, some (0, e)⟩)) ∧
      (Failure.cannotRead "q" e).message = "cannot read from queue file q: [Errno 5] " := by
  intro data e
  have low : 2 ≤ 9 := by decide
  have high : 9 < 2 ^ 63 := by decide
  have count : (Plan.record 9 "q").asked 9 data = 4 := by decide
  obtain ⟨-, enough, -, words⟩ := readWithin_failing low high "q" data 4 e
  obtain ⟨-, -, early, -⟩ := readWithin_failing low high "q" data 3 e
  have before : 3 < (Plan.record 9 "q").asked 9 data := by decide
  obtain ⟨lines, rest, stopped, -⟩ := early before
  have free : outcome (readWithin (9 : Nat) "q") (.ofBytes data) =
      (.error (.failure (.invalidLine "q" 4 .emptyPassword)), .ofBytes (utf8 "rest")) := rfl
  have met := enough (Nat.le_of_eq count)
  rw [count, free] at met
  exact ⟨low, high, count, met, ⟨rest, stopped⟩, words⟩

end Record

end AccountSync.Queue
