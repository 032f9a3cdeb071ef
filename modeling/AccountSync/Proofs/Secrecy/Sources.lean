import AccountSync.Proofs.Queue.Lines
import AccountSync.Proofs.Run.Parallel

/-!
# Sources that differ in a secret

Two queue files that differ in their fourth line only are read alike: the records differ in the
password at most, and the faults do not differ (`readWithin_alike`).
-/

namespace AccountSync

/-- Actions that differ in the password at most. -/
inductive Action.Alike : Action → Action → Prop where
  | same (action : Action) : Alike action action
  | secret (secret secret' : Password) : Alike (.password secret) (.password secret')

namespace Queue

/-- A secret that can stand as a line of a queue file. -/
structure Secret (limit : Nat) (text : String) : Prop where
  nonempty : text ≠ ""
  fits : Fits limit (Utf8.encode text)

/-- Data that differ in one line, which holds a secret and follows so many lines. -/
inductive Differ (limit : Nat) : Nat → List UInt8 → List UInt8 → Prop where
  | here {text text' : String} {rest : List UInt8} (secret : Secret limit text)
    (secret' : Secret limit text') (ended : rest = [] ∨ rest.head? = some lineFeed) :
    Differ limit 0 (Utf8.encode text ++ rest) (Utf8.encode text' ++ rest)
  | after {lines : Nat} {line data data' : List UInt8} (framed : lineFeed ∉ line)
    (later : Differ limit lines data data') :
    Differ limit (lines + 1) (line ++ lineFeed :: data) (line ++ lineFeed :: data')

/-! ### One line -/

theorem takeLine_long {limit : Nat} {line : List UInt8} (framed : lineFeed ∉ line)
    (long : limit ≤ line.length) (rest : List UInt8) :
    (takeLine limit (line ++ rest)).1 = ⟨.tooLong, line.take limit⟩ := by
  have start : (line ++ rest).take limit = line.take limit := List.take_append_of_le_length long
  have unended : lineFeed ∉ (line ++ rest).take limit := by
    rw [start]
    exact fun inside => framed (List.mem_of_mem_take inside)
  have room : limit ≤ (line ++ rest).length := by
    rw [List.length_append]
    omega
  rw [takeLine_cut room unended, start]

theorem Differ.takeLine_after {limit lines : Nat} {data data' : List UInt8}
    (differ : Differ limit (lines + 1) data data') :
    (takeLine limit data).1 = (takeLine limit data').1 ∧
      ((takeLine limit data).1.status = .complete →
        Differ limit lines (takeLine limit data).2 (takeLine limit data').2) := by
  cases differ with
  | @after _ line data data' framed later =>
    by_cases short : line.length < limit
    · rw [takeLine_fitting ⟨framed, short⟩, takeLine_fitting ⟨framed, short⟩]
      exact ⟨rfl, fun _ => later⟩
    · have long := Nat.le_of_not_lt short
      rw [takeLine_long framed long, takeLine_long framed long]
      exact ⟨rfl, fun complete => nomatch complete⟩

namespace Record

/-! ### One record -/

/-- Sources whose data differ in a secret, so many lines ahead. -/
structure Apart (limit lines : Nat) (s t : Source) : Prop where
  failing : s.failing = t.failing
  data : Differ limit lines s.data t.data

/-- Two readers that end alike. What a failed one leaves is not read on. -/
abbrev Alike {α : Type} (before after : Source → Source → Prop) (like : α → α → Prop)
    (x y : Reader α) : Prop :=
  Parallel before (fun _ _ => True) after like x y

/-- Sources that fail alike fail alike at the next line; if they do not, all hangs on their lines. -/
theorem ends_readLine {α : Type} {limit : LineLimit} {file : String} {f : Line → Reader α}
    {after : Source → Source → Prop} {like : α → α → Prop} {s t : Source}
    (failing : s.failing = t.failing)
    (next : Ends (fun _ _ => True) after like
      (outcome (f (takeLine limit.value s.data).1) (s.advance (takeLine limit.value s.data).2))
      (outcome (f (takeLine limit.value t.data).1) (t.advance (takeLine limit.value t.data).2))) :
    Ends (fun _ _ => True) after like
      (outcome ((Source.readLine limit).adapt (interrupted file) >>= f) s)
      (outcome ((Source.readLine limit).adapt (interrupted file) >>= f) t) := by
  have fault : s.fault? = t.fault? := by rw [Source.fault?, Source.fault?, failing]
  rw [outcome_bind, outcome_bind, outcome_line, outcome_line, fault]
  by_cases large : limitBound ≤ limit.value
  · rw [if_pos large, if_pos large]
    exact .failed _ trivial
  · rw [if_neg large, if_neg large]
    cases t.fault? with
    | some e => exact .failed _ trivial
    | none => exact next

theorem readText_after (limit : LineLimit) (file : String) (number lines : Nat) :
    Alike (Apart limit.value (lines + 1)) (Apart limit.value lines) Eq
      (readText limit file number) (readText limit file number) := by
  intro s t apart
  refine ends_readLine apart.failing ?_
  obtain ⟨line, later⟩ := apart.data.takeLine_after
  rw [line] at later ⊢
  cases status : (takeLine limit.value t.data).1.status with
  | tooLong => exact .failed _ trivial
  | ended => exact .failed _ trivial
  | complete =>
    dsimp only
    cases Utf8.decode (takeLine limit.value t.data).1.data with
    | error why => exact .failed _ trivial
    | ok text =>
      refine .done rfl ⟨?_, later status⟩
      rw [Source.advance, Source.advance, apart.failing]

/-- How a line of a secret is read: it is complete or ends with the data. -/
theorem takeLine_secret {limit : Nat} {text : String} {rest : List UInt8} (secret : Secret limit text)
    (ended : rest = [] ∨ rest.head? = some lineFeed) :
    (takeLine limit (Utf8.encode text ++ rest)).1 =
      ⟨if rest = [] then .ended else .complete, Utf8.encode text⟩ := by
  obtain rfl | starts := ended
  · rw [List.append_nil, takeLine_last secret.fits, if_pos rfl]
  · obtain ⟨others, rfl⟩ := List.head?_eq_some_iff.mp starts
    rw [takeLine_fitting secret.fits, if_neg (List.cons_ne_nil _ _)]

theorem readText_secret (limit : LineLimit) (file : String) (number : Nat) :
    Alike (Apart limit.value 0) (fun _ _ => True) (fun text text' => text ≠ "" ∧ text' ≠ "")
      (readText limit file number) (readText limit file number) := by
  intro s t apart
  refine ends_readLine apart.failing ?_
  obtain ⟨_, differ⟩ := apart
  generalize s.data = data at differ
  generalize t.data = data' at differ
  cases differ with
  | @here text text' rest secret secret' ended =>
    rw [takeLine_secret secret ended, takeLine_secret secret' ended]
    by_cases last : rest = []
    · rw [if_pos last]
      exact .failed _ trivial
    · rw [if_neg last]
      dsimp only
      rw [Utf8.decode_encode, Utf8.decode_encode]
      exact .done ⟨secret.nonempty, secret'.nonempty⟩ trivial

theorem readTarget_alike (limit : LineLimit) (file : String) (lines : Nat) :
    Alike (Apart limit.value (lines + 1)) (Apart limit.value lines) Eq
      (readTarget limit file) (readTarget limit file) := by
  refine Parallel.bind (readText_after limit file 2 lines) ?_
  rintro token _ rfl
  split
  · exact Parallel.pure rfl
  · exact fun s t _ => .failed _ trivial

theorem readPassword_alike (limit : LineLimit) (file : String) :
    Alike (Apart limit.value 0) (fun _ _ => True) (fun _ _ => True)
      (readPassword limit file) (readPassword limit file) := by
  refine Parallel.bind (readText_secret limit file 4) ?_
  rintro text text' ⟨nonempty, nonempty'⟩
  rw [Password.ofText?, Password.ofText?, dif_neg nonempty, dif_neg nonempty']
  exact Parallel.pure trivial

theorem readAction_alike (limit : LineLimit) (file : String) :
    Alike (Apart limit.value 1) (fun _ _ => True) Action.Alike
      (readAction limit file) (readAction limit file) := by
  refine Parallel.bind (readText_after limit file 3 0) ?_
  rintro token _ rfl
  split
  · exact fun s t _ => .done (.same _) trivial
  · exact fun s t _ => .done (.same _) trivial
  · refine Parallel.bind (readPassword_alike limit file) ?_
    exact fun _ => Parallel.pure (.secret _ _)
  · exact fun s t _ => .failed _ trivial

/-- Records that differ in the password at most. -/
structure Like (r s : Record) : Prop where
  principalName : r.principalName = s.principalName
  target : r.target = s.target
  action : Action.Alike r.action s.action

theorem Like.refl (r : Record) : Like r r := ⟨rfl, rfl, .same _⟩

theorem read_alike (limit : LineLimit) (file : String) :
    Alike (Apart limit.value 3) (fun _ _ => True) Like (read limit file) (read limit file) := by
  refine Parallel.bind (readText_after limit file 1 2) ?_
  rintro name _ rfl
  refine Parallel.bind (readTarget_alike limit file 1) ?_
  rintro target _ rfl
  refine Parallel.bind (readAction_alike limit file) fun action => ?_
  exact Parallel.pure ⟨rfl, rfl, action⟩

end Record

/-- Sources that differ in their fourth line at most. -/
def Source.Alike (limit : Nat) (s t : Source) : Prop := s = t ∨ Record.Apart limit 3 s t

namespace Record

theorem readWithin_alike (limit : Int) (file : String) :
    Alike (Source.Alike limit.toNat) (fun _ _ => True) Like
      (readWithin limit file) (readWithin limit file) := by
  rintro s t (rfl | apart)
  · obtain ⟨result, left⟩ := (readWithin limit file).run s
    cases result with
    | ok record => exact .done (.refl record) trivial
    | error fault => exact .failed fault trivial
  · unfold readWithin
    split
    · next accepted found =>
      have value : accepted.value = limit.toNat := by
        unfold LineLimit.ofInt? at found
        split at found
        · cases found
          rfl
        · cases found
      rw [← value] at apart
      exact read_alike accepted file s t apart
    · exact .failed _ trivial

/-- The files of two records that differ in the password. -/
theorem encode_alike {limit : Nat} {name : String} (framed : lineFeed ∉ Utf8.encode name)
    (target : TargetSystem) {secret secret' : Password} (fits : Secret limit secret.text)
    (fits' : Secret limit secret'.text) :
    Source.Alike limit (.ofBytes (encode ⟨name, target, .password secret⟩))
      (.ofBytes (encode ⟨name, target, .password secret'⟩)) := by
  have shape : ∀ secret : Password, encode ⟨name, target, .password secret⟩ =
      Utf8.encode name ++ lineFeed :: (Utf8.encode target.token ++ lineFeed ::
        (Utf8.encode "password" ++ lineFeed :: (Utf8.encode secret.text ++ [lineFeed]))) := by
    intro secret
    simp [encode, lines, Action.token]
  have plain : lineFeed ∉ Utf8.encode target.token := by
    cases target
    decide
  refine .inr ⟨rfl, ?_⟩
  rw [shape, shape]
  exact .after framed (.after plain (.after (by decide) (.here fits fits' (.inr rfl))))

end Record

end Queue

end AccountSync
