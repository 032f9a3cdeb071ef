import AccountSync.Proofs.CommandLine.Options

/-!
# The grammar of command lines

A command line is a row of items, each of them a user or some options, and an ending. Every line has
a reading (`exists_reads`) and no other than the one that `readWords` finds (`readWords_eq_iff`).
-/

namespace AccountSync.CommandLine

/-! ### Reading words -/

/-- Letters that take no value. -/
def Plain (letters : List Char) : Prop := ∀ letter ∈ letters, letter = 'd' ∨ letter = 'e'

/-- A word with no dash in front, or nothing but a dash. -/
def IsUser (word : String) : Prop := word = "-" ∨ word.toList.head? ≠ some '-'

def Reading.append (r s : Reading) : Reading := ⟨r.flags ++ s.flags, r.users ++ s.users⟩

/-- Words that belong together, and what they add to a reading. -/
inductive Item (optionsFirst : Bool) : List String → Reading → Prop where
  | user {word} (mixed : optionsFirst = false) (isUser : IsUser word) :
    Item optionsFirst [word] ⟨[], [word]⟩
  | plain {letters} (some : letters ≠ []) (plain : Plain letters) :
    Item optionsFirst [.ofList ('-' :: letters)] ⟨statusFlags letters, []⟩
  /-- An empty value is a word of its own. -/
  | valued {letters value} (plain : Plain letters) (option : Valued) (spelling : Spelling)
    (filled : spelling = .attached → value ≠ "") :
    Item optionsFirst (valuedWords letters option value spelling)
      ⟨statusFlags letters ++ [.valued option value], []⟩

/-- The end of a line: nothing more, users only, or a word that cannot be read. -/
inductive Ending (optionsFirst : Bool) : List String → Except Fault (List String) → Prop where
  | nothing : Ending optionsFirst [] (.ok [])
  | separator (users : List String) : Ending optionsFirst ("--" :: users) (.ok users)
  | users {word} (ends : optionsFirst = true) (isUser : IsUser word) (others : List String) :
    Ending optionsFirst (word :: others) (.ok (word :: others))
  | unknownName {text : List Char} (longer : text ≠ []) (rest : List String) :
    Ending optionsFirst (.ofList ('-' :: '-' :: text) :: rest)
      (.error (.unknownName (.ofList (text.takeWhile (· ≠ '=')))))
  | unknownLetter {letters letter} (plain : Plain letters) (unknown : letter ∉ ['d', 'e', 'f', 'p'])
    (cluster : letters = [] → letter ≠ '-') (after : List Char) (rest : List String) :
    Ending optionsFirst (.ofList ('-' :: (letters ++ letter :: after)) :: rest)
      (.error (.unknownLetter letter))
  | missingArgument {letters} (plain : Plain letters) (option : Valued) :
    Ending optionsFirst [.ofList ('-' :: (letters ++ [option.letter]))]
      (.error (.missingArgument option))

/-- What a line says, or why it cannot be read. -/
inductive Reads (optionsFirst : Bool) : List String → Except Fault Reading → Prop where
  | ending {words users} (ends : Ending optionsFirst words users) :
    Reads optionsFirst words (users.map fun users => ⟨[], users⟩)
  | item {front rest added reading} (first : Item optionsFirst front added)
    (others : Reads optionsFirst rest reading) :
    Reads optionsFirst (front ++ rest) (reading.map added.append)

/-! ### Every line has a reading -/

theorem word_cases (word : String) :
    word = "--" ∨ (∃ text, text ≠ [] ∧ word = .ofList ('-' :: '-' :: text)) ∨ IsUser word ∨
      ∃ letter letters, letter ≠ '-' ∧ word = .ofList ('-' :: letter :: letters) := by
  rcases chars : word.toList with _ | ⟨first, rest⟩
  · refine .inr (.inr (.inl (.inr ?_)))
    simp [chars]
  have spelled : word = .ofList (first :: rest) := by rw [← chars, String.ofList_toList]
  by_cases dashed : first = '-'
  · subst dashed
    rcases rest with _ | ⟨letter, letters⟩
    · exact .inr (.inr (.inl (.inl spelled)))
    by_cases again : letter = '-'
    · subst again
      rcases letters with _ | ⟨c, text⟩
      · exact .inl spelled
      · exact .inr (.inl ⟨c :: text, List.cons_ne_nil c text, spelled⟩)
    · exact .inr (.inr (.inr ⟨letter, letters, again, spelled⟩))
  · refine .inr (.inr (.inl (.inr ?_)))
    simp [chars, dashed]

theorem letters_cases (letters : List Char) :
    Plain letters ∨ ∃ front letter after, letters = front ++ letter :: after ∧ Plain front ∧
      letter ≠ 'd' ∧ letter ≠ 'e' := by
  induction letters with
  | nil => exact .inl (List.forall_mem_nil _)
  | cons letter rest ih =>
    by_cases known : letter = 'd' ∨ letter = 'e'
    · rcases ih with plain | ⟨front, other, after, rfl, plain, unknown⟩
      · exact .inl (List.forall_mem_cons.mpr ⟨known, plain⟩)
      · exact .inr ⟨letter :: front, other, after, rfl, List.forall_mem_cons.mpr ⟨known, plain⟩, unknown⟩
    · exact .inr ⟨[], letter, rest, rfl, List.forall_mem_nil _, not_or.mp known⟩

theorem letter_cases {letter : Char} (disable : letter ≠ 'd') (enable : letter ≠ 'e') :
    (∃ option : Valued, option.letter = letter) ∨ letter ∉ ['d', 'e', 'f', 'p'] := by
  by_cases file : letter = 'f'
  · exact .inl ⟨.file, file.symm⟩
  by_cases password : letter = 'p'
  · exact .inl ⟨.password, password.symm⟩
  · exact .inr (by simp [disable, enable, file, password])

section

variable {optionsFirst : Bool}

theorem exists_reads (optionsFirst : Bool) (words : List String) : ∃ reading, Reads optionsFirst words reading := by
  -- by the number of words, as an option may take two of them
  induction size : words.length using Nat.strongRecOn generalizing words with
  | _ n ih =>
    subst size
    have shorter : ∀ rest : List String, rest.length < words.length →
        ∃ reading, Reads optionsFirst rest reading := fun rest less => ih _ less rest rfl
    clear ih
    rcases words with _ | ⟨word, rest⟩
    · exact ⟨_, .ending .nothing⟩
    have next : ∃ reading, Reads optionsFirst rest reading := shorter rest (by simp)
    obtain ⟨reading, others⟩ := next
    rcases word_cases word with rfl | ⟨text, longer, rfl⟩ | isUser | ⟨first, letters, other, rfl⟩
    · exact ⟨_, .ending (.separator rest)⟩
    · exact ⟨_, .ending (.unknownName longer rest)⟩
    · cases order : optionsFirst with
      | true => exact ⟨_, .ending (.users rfl isUser rest)⟩
      | false =>
        subst order
        exact ⟨_, .item (.user rfl isUser) others⟩
    rcases letters_cases (first :: letters) with plain | ⟨front, letter, after, split, plain, unknown⟩
    · exact ⟨_, .item (.plain (List.cons_ne_nil _ _) plain) others⟩
    rw [split]
    rcases letter_cases unknown.1 unknown.2 with ⟨option, rfl⟩ | stranger
    · cases after with
      | cons c after =>
        have attached : Item optionsFirst (valuedWords front option (.ofList (c :: after)) .attached) _ :=
          .valued plain option .attached fun _ => by simp
        rw [valuedWords, String.toList_ofList] at attached
        exact ⟨_, .item attached others⟩
      | nil =>
        rcases rest with _ | ⟨value, rest⟩
        · exact ⟨_, .ending (.missingArgument plain option)⟩
        · obtain ⟨reading, others⟩ := shorter rest (Nat.lt_succ_of_lt (Nat.lt_succ_self _))
          have separate : Item optionsFirst (valuedWords front option value .separate) _ :=
            .valued plain option .separate fun same => by cases same
          exact ⟨_, .item separate others⟩
    · refine ⟨_, .ending (.unknownLetter plain stranger ?_ after rest)⟩
      rintro rfl
      cases split
      exact other

/-! ### The reading that is found -/

theorem of_user {word : String} (isUser : IsUser word) : Word.of word = .positional := by
  rcases isUser with rfl | bare
  · rfl
  unfold Word.of
  split <;> simp_all

theorem of_name {text : List Char} (longer : text ≠ []) :
    Word.of (.ofList ('-' :: '-' :: text)) = .name (.ofList (text.takeWhile (· ≠ '='))) := by
  unfold Word.of
  rw [String.toList_ofList]
  cases text with
  | nil => exact (longer rfl).elim
  | cons c text => rfl

theorem readCluster_unknown {letter : Char} (unknown : letter ∉ ['d', 'e', 'f', 'p'])
    (after : List Char) : readCluster (letter :: after) = .error (.unknownLetter letter) := by
  simp only [List.mem_cons, List.not_mem_nil, or_false, not_or] at unknown
  rw [readCluster]
  all_goals simp_all

theorem Item.readWords {front : List String} {added : Reading} (item : Item optionsFirst front added)
    (rest : List String) :
    readWords optionsFirst (front ++ rest) = (readWords optionsFirst rest).map added.append := by
  cases item with
  | user mixed isUser =>
    rw [List.singleton_append, CommandLine.readWords, of_user isUser]
    subst mixed
    rfl
  | @plain letters some plain =>
    obtain ⟨letter, others, rfl⟩ := List.exists_cons_of_ne_nil some
    have cluster : letter ≠ '-' := by
      rintro rfl
      simpa using plain '-' List.mem_cons_self
    have read : readCluster (letter :: others) = .ok ⟨statusFlags (letter :: others), none⟩ := by
      rw [← List.append_nil (letter :: others), readCluster_plain plain]
      simp [readCluster, Except.map]
    rw [List.singleton_append, CommandLine.readWords, of_cluster cluster]
    simp only [read]
    rfl
  | valued plain option spelling filled =>
    rw [readWords_valuedWords optionsFirst option plain spelling filled]
    rfl

theorem Ending.readWords {words : List String} {users : Except Fault (List String)}
    (ending : Ending optionsFirst words users) :
    readWords optionsFirst words = users.map fun users => ⟨[], users⟩ := by
  cases ending with
  | nothing => rfl
  | separator users =>
    have is : Word.of "--" = .separator := rfl
    rw [CommandLine.readWords, is]
    rfl
  | users ends isUser others =>
    rw [CommandLine.readWords, of_user isUser]
    subst ends
    rfl
  | unknownName longer rest =>
    rw [CommandLine.readWords, of_name longer]
    rfl
  | @unknownLetter letters letter plain unknown cluster after rest =>
    have is : Word.of (.ofList ('-' :: (letters ++ letter :: after))) =
        .cluster (letters ++ letter :: after) := by
      cases letters with
      | nil => exact of_cluster (cluster rfl) after
      | cons first others =>
        refine of_cluster ?_ _
        rintro rfl
        simpa using plain '-' List.mem_cons_self
    have read : readCluster (letters ++ letter :: after) = .error (.unknownLetter letter) := by
      rw [readCluster_plain plain, readCluster_unknown unknown]
      rfl
    rw [CommandLine.readWords, is]
    simp only [read]
    rfl
  | @missingArgument letters plain option =>
    have read : readCluster (letters ++ [option.letter]) = .ok ⟨statusFlags letters, some option⟩ := by
      rw [readCluster_plain plain, readCluster_letter, valuedCluster, if_pos rfl]
      simp [Except.map]
    rw [CommandLine.readWords, of_cluster_letter plain]
    simp only [read]
    rfl

theorem Reads.readWords {words : List String} {reading : Except Fault Reading}
    (reads : Reads optionsFirst words reading) : readWords optionsFirst words = reading := by
  induction reads with
  | ending ends => exact ends.readWords
  | item first _ ih => rw [first.readWords, ih]

theorem readWords_eq_iff {words : List String} {reading : Except Fault Reading} :
    readWords optionsFirst words = reading ↔ Reads optionsFirst words reading := by
  constructor
  · rintro rfl
    obtain ⟨reading, reads⟩ := exists_reads optionsFirst words
    rw [reads.readWords]
    exact reads
  · exact Reads.readWords

end

end AccountSync.CommandLine
