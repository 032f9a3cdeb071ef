import AccountSync.Text.Utf8

/-!
# The written form of filters

A filter compares an attribute with a value, or puts other filters together, and stands in
parentheses. In a value a backslash and two hexadecimal digits are an octet, and parentheses,
asterisks, backslashes and NUL stand for themselves only so. A row of filters that begins with the
form of an equality match begins with that match (`formAll_equal_iff`).
-/

namespace AccountSync.Directory

inductive Sign where
  | equal
  | approximate
  | atLeast
  | atMost
  deriving DecidableEq, Repr

def Sign.form : Sign → List Char
  | .equal => ['=']
  | .approximate => ['~', '=']
  | .atLeast => ['>', '=']
  | .atMost => ['<', '=']

/-- Attributes have names, and values are octets. -/
inductive Filter where
  | all (parts : List Filter)
  | any (parts : List Filter)
  | negation (part : Filter)
  | compare (sign : Sign) (name : String) (value : List UInt8)
  | present (name : String)
  /-- The value has these pieces, one after the other. -/
  | pieces (name : String) (values : List (List UInt8))
  /-- A comparison by a rule that is named along with the attribute. -/
  | extended (rule : String) (value : List UInt8)

/-! ### Values -/

def hexDigit? (c : Char) : Option Nat :=
  if '0' ≤ c ∧ c ≤ '9' then some (c.toNat - 48)
  else if 'a' ≤ c ∧ c ≤ 'f' then some (c.toNat - 87)
  else if 'A' ≤ c ∧ c ≤ 'F' then some (c.toNat - 55)
  else none

def octet? (high low : Char) : Option UInt8 :=
  match hexDigit? high, hexDigit? low with
  | some first, some second => some (.ofNat (16 * first + second))
  | _, _ => none

def reserved : List Char := ['*', '(', ')', '\x00', '\\']

/-- The octets of a value as it is written. -/
def octets? : List Char → Option (List UInt8)
  | [] => some []
  | '\\' :: high :: low :: rest =>
    match octet? high low with
    | some octet => (octets? rest).map (octet :: ·)
    | none => none
  | c :: rest => if c ∈ reserved then none else (octets? rest).map (Utf8.encodeChar c ++ ·)

/-! ### Forms -/

def isNameChar (c : Char) : Bool := c.isAlphanum || ['-', ';', '.'].contains c

def IsName (name : String) : Prop := name.toList ≠ [] ∧ ∀ c ∈ name.toList, isNameChar c

instance (name : String) : Decidable (IsName name) :=
  decidable_of_iff (name.toList ≠ [] ∧ name.toList.all isNameChar) (by simp [IsName])

def enclosed (text : List Char) : List Char := '(' :: (text ++ [')'])

/-- Pieces with an asterisk between any two. -/
def joined : List (List Char) → List Char
  | [] => []
  | [piece] => piece
  | piece :: rest => piece ++ '*' :: joined rest

mutual

/-- How a filter is written. -/
inductive Form : Filter → List Char → Prop where
  | all {parts text} (each : FormAll parts text) : Form (.all parts) (enclosed ('&' :: text))
  | any {parts text} (each : FormAll parts text) : Form (.any parts) (enclosed ('|' :: text))
  | negation {part text} (inner : Form part text) : Form (.negation part) (enclosed ('!' :: text))
  | compare {name value text} (isName : IsName name) (sign : Sign)
    (octets : octets? text = some value) :
    Form (.compare sign name value) (enclosed (name.toList ++ (sign.form ++ text)))
  | present {name} (isName : IsName name) :
    Form (.present name) (enclosed (name.toList ++ ['=', '*']))
  | pieces {name values texts} (isName : IsName name) (several : 2 ≤ texts.length)
    (filled : ∃ text ∈ texts, text ≠ []) (octets : texts.mapM octets? = some values) :
    Form (.pieces name values) (enclosed (name.toList ++ '=' :: joined texts))
  | extended {rule value text} (names : ∀ c ∈ rule.toList, isNameChar c ∨ c = ':')
    (octets : octets? text = some value) :
    Form (.extended rule value) (enclosed (rule.toList ++ ':' :: '=' :: text))

/-- How filters are written one after the other. -/
inductive FormAll : List Filter → List Char → Prop where
  | nil : FormAll [] []
  | cons {part rest text more} (first : Form part text) (others : FormAll rest more) :
    FormAll (part :: rest) (text ++ more)

end

/-! ### Where a part of a form ends -/

/-- Two texts that are cut at the first character without a property are cut alike. -/
theorem cut_unique {p : Char → Prop} {front front' back back' : List Char} {c c' : Char}
    (has : ∀ d ∈ front, p d) (has' : ∀ d ∈ front', p d) (lacks : ¬ p c) (lacks' : ¬ p c')
    (same : front ++ c :: back = front' ++ c' :: back') :
    front = front' ∧ c = c' ∧ back = back' := by
  induction front generalizing front' with
  | nil =>
    cases front' with
    | nil =>
      obtain ⟨rfl, rfl⟩ := List.cons.inj same
      exact ⟨rfl, rfl, rfl⟩
    | cons d rest =>
      obtain ⟨rfl, _⟩ := List.cons.inj same
      exact (lacks (has' c List.mem_cons_self)).elim
  | cons d rest ih =>
    cases front' with
    | nil =>
      obtain ⟨rfl, _⟩ := List.cons.inj same
      exact (lacks' (has d List.mem_cons_self)).elim
    | cons d' rest' =>
      obtain ⟨rfl, tails⟩ := List.cons.inj same
      obtain ⟨rfl, ends⟩ := ih (fun e member => has e (List.mem_cons_of_mem _ member))
        (fun e member => has' e (List.mem_cons_of_mem _ member)) tails
      exact ⟨rfl, ends⟩

theorem cons_ne_append {p : Char → Prop} {front back more : List Char} {c d : Char}
    (has : ∀ e ∈ front, p e) (lacks : ¬ p c) (differ : c ≠ d) : c :: more ≠ front ++ d :: back := by
  intro same
  cases front with
  | nil => exact differ (List.cons.inj same).1
  | cons e rest =>
    obtain ⟨rfl, _⟩ := List.cons.inj same
    exact lacks (has c List.mem_cons_self)

theorem hexDigit?_reserved {c : Char} (among : c ∈ reserved) : hexDigit? c = none := by
  simp only [reserved, List.mem_cons, List.not_mem_nil, or_false] at among
  rcases among with rfl | rfl | rfl | rfl | rfl <;> rfl

theorem not_reserved_of_octet {high low : Char} {octet : UInt8}
    (known : octet? high low = some octet) : high ∉ reserved ∧ low ∉ reserved := by
  constructor
  · intro among
    rw [octet?, hexDigit?_reserved among] at known
    cases known
  · intro among
    rw [octet?, hexDigit?_reserved among] at known
    split at known
    · rename_i missing
      cases missing
    · cases known

/-- What is written for a value has no reserved character but the backslash. -/
theorem not_reserved_of_octets {text : List Char} {value : List UInt8}
    (octets : octets? text = some value) : ∀ c ∈ text, c ∈ reserved → c = '\\' := by
  fun_induction octets? text generalizing value with
  | case1 => exact fun c member => (List.not_mem_nil member).elim
  | case2 high low rest octet known ih =>
    obtain ⟨inner, read, _⟩ := Option.map_eq_some_iff.mp octets
    obtain ⟨first, second⟩ := not_reserved_of_octet known
    intro c member among
    simp only [List.mem_cons] at member
    rcases member with rfl | rfl | rfl | member
    · rfl
    · exact (first among).elim
    · exact (second among).elim
    · exact ih read c member among
  | case3 => cases octets
  | case4 => cases octets
  | case5 c rest _ plain ih =>
    obtain ⟨inner, read, _⟩ := Option.map_eq_some_iff.mp octets
    intro d member among
    rcases List.mem_cons.mp member with rfl | member
    · exact (plain among).elim
    · exact ih read d member among

section

variable {name : String} {text more : List Char} {value : List UInt8}

theorem IsName.notMem (isName : IsName name) {c : Char} (other : ¬ isNameChar c) :
    c ∉ name.toList :=
  fun member => other (isName.2 c member)

/-- A name with an equals sign after it is no longer and no shorter. -/
theorem IsName.cut {name' : String} {back back' : List Char} (c : Char) (isName : IsName name)
    (isName' : IsName name') (ends : ¬ isNameChar c)
    (same : name.toList ++ c :: back = name'.toList ++ '=' :: back') :
    name = name' ∧ c = '=' ∧ back = back' := by
  obtain ⟨names, rest⟩ := cut_unique isName.2 isName'.2 ends (by decide) same
  exact ⟨String.toList_inj.mp names, rest⟩

/-- A written value ends at the first character that it cannot have. -/
theorem octets_cut {text' after : List Char} {value' : List UInt8} {c c' : Char}
    (octets : octets? text = some value) (octets' : octets? text' = some value')
    (stops : c ∈ reserved ∧ c ≠ '\\') (stops' : c' ∈ reserved ∧ c' ≠ '\\')
    (same : text ++ c :: after = text' ++ c' :: more) : text = text' ∧ c = c' ∧ after = more :=
  cut_unique (p := fun d => d ∈ reserved → d = '\\') (not_reserved_of_octets octets)
    (not_reserved_of_octets octets') (fun allowed => stops.2 (allowed stops.1))
    (fun allowed => stops'.2 (allowed stops'.1)) same

/-- Pieces of a value begin with a written value and an asterisk. -/
theorem joined_eq {texts : List (List Char)} {values : List (List UInt8)}
    (several : 2 ≤ texts.length) (each : texts.mapM octets? = some values) :
    ∃ first rest value, joined texts = first ++ '*' :: rest ∧ octets? first = some value := by
  obtain _ | ⟨first, _ | ⟨second, rest⟩⟩ := texts
  · simp at several
  · simp at several
  · rw [List.mapM_cons, Option.bind_eq_bind, Option.bind_eq_some_iff] at each
    obtain ⟨value, octets, _⟩ := each
    exact ⟨first, joined (second :: rest), value, rfl, octets⟩

/-- A form that starts as an equality match does is one, and ends where the match does. -/
theorem Form.eq_equal {part : Filter} {form after : List Char} (written : Form part form)
    (isName : IsName name) (octets : octets? text = some value)
    (same : form ++ after = enclosed (name.toList ++ '=' :: text) ++ more) :
    part = .compare .equal name value ∧ after = more := by
  have inner : ∀ {text' : List Char}, form = enclosed text' →
      text' ++ ')' :: after = name.toList ++ '=' :: (text ++ ')' :: more) := by
    rintro text' rfl
    simpa [enclosed] using same
  have closes : ')' ∈ reserved ∧ ')' ≠ '\\' := by decide
  have parts : '*' ∈ reserved ∧ '*' ≠ '\\' := by decide
  -- what comes after the name tells the kinds of forms apart
  cases written with
  | all | any | negation =>
    exact (cons_ne_append isName.2 (by decide) (by decide) (inner rfl)).elim
  | @compare name' value' text' isName' sign octets' =>
    have whole := inner rfl
    cases sign with
    | equal =>
      obtain ⟨rfl, _, rest⟩ := isName'.cut '=' isName (by decide) (by simpa [Sign.form] using whole)
      obtain ⟨rfl, _, rfl⟩ := octets_cut octets' octets closes closes rest
      rw [octets] at octets'
      cases octets'
      exact ⟨rfl, rfl⟩
    | approximate =>
      obtain ⟨_, clash, _⟩ := isName'.cut '~' isName (by decide) (by simpa [Sign.form] using whole)
      cases clash
    | atLeast =>
      obtain ⟨_, clash, _⟩ := isName'.cut '>' isName (by decide) (by simpa [Sign.form] using whole)
      cases clash
    | atMost =>
      obtain ⟨_, clash, _⟩ := isName'.cut '<' isName (by decide) (by simpa [Sign.form] using whole)
      cases clash
  | present isName' =>
    obtain ⟨_, _, rest⟩ := isName'.cut '=' isName (by decide) (by simpa using inner rfl)
    have empty : octets? [] = some [] := rfl
    obtain ⟨_, clash, _⟩ := octets_cut empty octets parts closes rest
    cases clash
  | pieces isName' several filled octets' =>
    obtain ⟨first, others, _, joined, begins⟩ := joined_eq several octets'
    obtain ⟨_, _, rest⟩ := isName'.cut '=' isName (by decide) (by simpa [joined] using inner rfl)
    obtain ⟨_, clash, _⟩ := octets_cut begins octets parts closes (by simpa using rest)
    cases clash
  | @extended rule value' text' names octets' =>
    have whole : (rule.toList ++ [':']) ++ '=' :: (text' ++ ')' :: after) =
        name.toList ++ '=' :: (text ++ ')' :: more) := by
      simpa using inner rfl
    obtain ⟨clash, _⟩ := cut_unique (p := fun c => isNameChar c ∨ c = ':')
      (by simpa [or_imp, forall_and] using names) (fun c member => .inl (isName.2 c member))
      (by decide) (by decide) whole
    exact (isName.notMem (by decide) (clash ▸ by simp : ':' ∈ name.toList)).elim

end

/-! ### The match of a user -/

/-- A row of filters that begins with the form of an equality match begins with that match. -/
theorem formAll_equal_iff {name : String} {text more : List Char} {value : List UInt8}
    {filters : List Filter} (isName : IsName name) (octets : octets? text = some value) :
    FormAll filters (enclosed (name.toList ++ '=' :: text) ++ more) ↔
      ∃ others, filters = .compare .equal name value :: others ∧ FormAll others more := by
  constructor
  · intro written
    generalize whole : enclosed (name.toList ++ '=' :: text) ++ more = form at written
    cases written with
    | nil => simp [enclosed] at whole
    | cons first others =>
      obtain ⟨rfl, rfl⟩ := first.eq_equal isName octets whole.symm
      exact ⟨_, rfl, others⟩
  · rintro ⟨others, rfl, written⟩
    exact .cons (.compare isName .equal octets) written

theorem formAll_nil_iff {filters : List Filter} : FormAll filters [] ↔ filters = [] := by
  constructor
  · intro written
    generalize whole : [] = form at written
    cases written with
    | nil => rfl
    | cons first others =>
      cases first <;> simp [enclosed] at whole
  · rintro rfl
    exact .nil

/-- A form that starts as a conjunction does is one. -/
theorem form_all_iff {filter : Filter} {text : List Char} :
    Form filter (enclosed ('&' :: text)) ↔ ∃ parts, filter = .all parts ∧ FormAll parts text := by
  constructor
  · intro written
    generalize same : enclosed ('&' :: text) = form at written
    have inner : ∀ {text' : List Char}, form = enclosed text' → '&' :: text = text' := by
      rintro text' rfl
      exact List.append_cancel_right (List.cons.inj same).2
    cases written with
    | all each =>
      obtain ⟨_, rfl⟩ := List.cons.inj (inner rfl)
      exact ⟨_, rfl, each⟩
    | any | negation => cases (List.cons.inj (inner rfl)).1
    | compare isName sign =>
      cases sign <;> exact (cons_ne_append isName.2 (by decide) (by decide) (inner rfl)).elim
    | present isName | pieces isName =>
      exact (cons_ne_append isName.2 (by decide) (by decide) (inner rfl)).elim
    | extended names =>
      exact (cons_ne_append (p := fun c => isNameChar c ∨ c = ':') names (by decide) (by decide)
        (inner rfl)).elim
  · rintro ⟨parts, rfl, each⟩
    exact .all each

end AccountSync.Directory
