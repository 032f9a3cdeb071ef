import AccountSync.CommandLine

/-!
# Options with values

The value of an option stands in the word of its cluster or in the next one, and is read wherever it
stands (`readWords_valuedWords`). A line that is made for an action, or for a queue file, means just
that (`parse_words`, `parse_file`).
-/

namespace AccountSync

namespace CommandLine

/-- Where the value of an option stands: in the word of its cluster or in the next one. -/
inductive Spelling where
  | attached
  | separate

/-- A cluster that ends with an option, and the value of that option. -/
def valuedWords (letters : List Char) (option : Valued) (value : String) : Spelling → List String
  | .attached => [.ofList ('-' :: (letters ++ option.letter :: value.toList))]
  | .separate => [.ofList ('-' :: (letters ++ [option.letter])), value]

/-- A cluster that ends with `p`, and its value. -/
def passwordWords (letters : List Char) (value : String) : Spelling → List String
  | .attached => [.ofList ('-' :: (letters ++ 'p' :: value.toList))]
  | .separate => [.ofList ('-' :: (letters ++ ['p'])), value]

theorem passwordWords_eq (letters : List Char) (value : String) (spelling : Spelling) :
    passwordWords letters value spelling = valuedWords letters .password value spelling := by
  cases spelling with
  | attached => rfl
  | separate => rfl

/-- What the letters `d` and `e` mean. -/
def statusFlags (letters : List Char) : List Flag :=
  letters.map fun letter => if letter = 'd' then .disable else .enable

theorem readCluster_plain {letters : List Char}
    (plain : ∀ letter ∈ letters, letter = 'd' ∨ letter = 'e') (rest : List Char) :
    readCluster (letters ++ rest) =
      (readCluster rest).map fun c => { c with flags := statusFlags letters ++ c.flags } := by
  induction letters with
  | nil =>
    rw [List.nil_append]
    cases readCluster rest with
    | error fault => rfl
    | ok c => rfl
  | cons letter letters ih =>
    have others := ih fun other member => plain other (List.mem_cons_of_mem _ member)
    obtain rfl | rfl := plain letter List.mem_cons_self
    · rw [List.cons_append, readCluster, others]
      cases readCluster rest with
      | error fault => rfl
      | ok c => rfl
    · rw [List.cons_append, readCluster, others]
      cases readCluster rest with
      | error fault => rfl
      | ok c => rfl

theorem readCluster_letter (option : Valued) (rest : List Char) :
    readCluster (option.letter :: rest) = .ok (valuedCluster option rest) := by
  cases option with
  | file => rfl
  | password => rfl

theorem of_cluster {letter : Char} (other : letter ≠ '-') (letters : List Char) :
    Word.of (.ofList ('-' :: letter :: letters)) = .cluster (letter :: letters) := by
  unfold Word.of
  rw [String.toList_ofList]
  split
  · next same =>
    cases same
    exact (other rfl).elim
  · next same =>
    cases same
    exact (other rfl).elim
  · next same => cases same
  · next same =>
    cases same
    rfl
  · next none =>
    exact (none _ rfl).elim

/-- No cluster of an option with a value is taken for a name. -/
theorem of_cluster_letter {letters : List Char}
    (plain : ∀ letter ∈ letters, letter = 'd' ∨ letter = 'e') (option : Valued) (rest : List Char) :
    Word.of (.ofList ('-' :: (letters ++ option.letter :: rest))) =
      .cluster (letters ++ option.letter :: rest) := by
  cases letters with
  | nil => exact of_cluster (by cases option <;> decide) rest
  | cons letter letters =>
    refine of_cluster ?_ _
    rintro rfl
    simpa using plain '-' List.mem_cons_self

theorem readWords_valued {optionsFirst : Bool} {word argument : String} {letters : List Char}
    {flags : List Flag} {option : Valued} {words : List String}
    (is : Word.of word = .cluster letters) (read : readCluster letters = .ok ⟨flags, some option⟩) :
    readWords optionsFirst (word :: argument :: words) =
      (readWords optionsFirst words).map (.addFlags (flags ++ [.valued option argument])) := by
  rw [readWords, is]
  simp only [read]

/-- A value is read wherever it stands. -/
theorem readWords_valuedWords (optionsFirst : Bool) {letters : List Char} (option : Valued)
    {value : String} (plain : ∀ letter ∈ letters, letter = 'd' ∨ letter = 'e') (spelling : Spelling)
    (filled : spelling = .attached → value ≠ "") (words : List String) :
    readWords optionsFirst (valuedWords letters option value spelling ++ words) =
      (readWords optionsFirst words).map
        (.addFlags (statusFlags letters ++ [.valued option value])) := by
  cases spelling with
  | attached =>
    have some : value.toList ≠ [] := by simpa using filled rfl
    have read : readCluster (letters ++ option.letter :: value.toList) =
        .ok ⟨statusFlags letters ++ [.valued option value], none⟩ := by
      rw [readCluster_plain plain, readCluster_letter, valuedCluster, if_neg some,
        String.ofList_toList]
      rfl
    rw [valuedWords, List.singleton_append, readWords, of_cluster_letter plain]
    simp only [read]
  | separate =>
    have read : readCluster (letters ++ [option.letter]) =
        .ok ⟨statusFlags letters, some option⟩ := by
      rw [readCluster_plain plain, readCluster_letter, valuedCluster, if_pos rfl]
      simp [Except.map]
    exact readWords_valued (of_cluster_letter plain option []) read

theorem readWords_password (optionsFirst : Bool) {letters : List Char} {value : String}
    (plain : ∀ letter ∈ letters, letter = 'd' ∨ letter = 'e') (nonempty : value ≠ "")
    (spelling : Spelling) (words : List String) :
    readWords optionsFirst (passwordWords letters value spelling ++ words) =
      (readWords optionsFirst words).map
        (.addFlags (statusFlags letters ++ [.valued .password value])) := by
  rw [passwordWords_eq]
  exact readWords_valuedWords optionsFirst .password plain spelling (fun _ => nonempty) words

/-! ### Lines for one command -/

theorem parse_file (optionsFirst : Bool) (file : String) :
    parse optionsFirst ["-f", file] = .ok (.drain file) := by
  have is : Word.of "-f" = .cluster ['f'] := rfl
  have read : readWords optionsFirst ["-f", file] = .ok ⟨[.valued .file file], []⟩ := by
    rw [readWords_valued is rfl]
    rfl
  rw [parse, read]
  rfl

end CommandLine

/-- The words that ask for an action. -/
def Action.words (spelling : CommandLine.Spelling) : Action → List String
  | .password secret => CommandLine.passwordWords [] secret.text spelling
  | .enable => ["-e"]
  | .disable => ["-d"]

namespace CommandLine

theorem readWords_user (optionsFirst : Bool) (user : String) :
    readWords optionsFirst ["--", user] = .ok ⟨[], [user]⟩ := by
  have is : Word.of "--" = .separator := rfl
  rw [readWords, is]

theorem readWords_flag {optionsFirst : Bool} {word : String} {letters : List Char} {flag : Flag}
    (is : Word.of word = .cluster letters) (read : readCluster letters = .ok ⟨[flag], none⟩)
    (user : String) :
    readWords optionsFirst [word, "--", user] = .ok ⟨[flag], [user]⟩ := by
  rw [readWords, is]
  simp only [read]
  rw [readWords_user]
  rfl

theorem parse_words (optionsFirst : Bool) (spelling : Spelling) (action : Action) (user : String) :
    parse optionsFirst (action.words spelling ++ ["--", user]) = .ok (.immediate user [action]) := by
  cases action with
  | password secret =>
    have read : readWords optionsFirst ((Action.password secret).words spelling ++ ["--", user]) =
        .ok ⟨[.valued .password secret.text], [user]⟩ := by
      rw [Action.words, readWords_password optionsFirst (fun _ member => absurd member List.not_mem_nil)
        secret.nonempty, readWords_user]
      rfl
    rw [parse, read]
    change immediateCommand user (some secret.text) false false = _
    rw [immediateCommand, passwordActions, Password.ofText?, dif_neg secret.nonempty]
    rfl
  | enable =>
    have is : Word.of "-e" = .cluster ['e'] := rfl
    rw [parse, Action.words, List.singleton_append, readWords_flag is rfl]
    rfl
  | disable =>
    have is : Word.of "-d" = .cluster ['d'] := rfl
    rw [parse, Action.words, List.singleton_append, readWords_flag is rfl]
    rfl

end CommandLine

end AccountSync
