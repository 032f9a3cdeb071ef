import AccountSync.Proofs.Files.Lookup

/-!
# Removing what a path opens

Opening a path follows its links to the end, and removing it takes the last name itself. A path that
opens can be removed unless the system refuses every removal (`unlink_opened`), and then there is
nothing at it, whatever links it crosses (`openSource_erased`).
-/

namespace AccountSync.Files

/-- What is behind a link, when so many may still be crossed. -/
def follow (files : Files) (aim : Aim) : Nat → Path → List String → List String → Except OsError Place
  | 0, _, _, _ => .error .linkLoop
  | links + 1, target, dir, rest =>
    files.walkLinks aim links (if target.absolute then [] else dir) (target.names ++ rest)

theorem walkLinks_eq (files : Files) (aim : Aim) (links : Nat) (dir names : List String) :
    files.walkLinks aim links dir names = files.walk aim (files.follow aim links) dir names := by
  cases links with
  | zero => rfl
  | succ links => rfl

/-! ### Past a file -/

/-- The result of a lookup is a file. -/
def Leads (result : Except OsError Place) : Prop :=
  ∃ names entry, result = .ok ⟨names, some entry⟩ ∧ entry.isFile

theorem not_leads_error (why : OsError) : ¬ Leads (.error why) := by
  rintro ⟨_, _, same, _⟩
  cases same

theorem not_leads_folder (dir : List String) : ¬ Leads (.ok ⟨dir, some .folder⟩) := by
  rintro ⟨_, _, same, isFile⟩
  cases same
  cases isFile

section

variable {files : Files} {aim : Aim} {more : List String}

theorem enter_past {jump jump' : Path → List String → List String → Except OsError Place}
    (jumps : ∀ target dir rest, Leads (jump target dir rest) →
      ∃ why, jump' target dir (rest ++ more) = .error why)
    (onward : more ≠ []) {dir rest : List String} {name : String}
    (within : Leads (files.walk .entry jump (dir ++ [name]) rest) →
      ∃ why, files.walk aim jump' (dir ++ [name]) (rest ++ more) = .error why)
    (leads : Leads (files.enter .entry jump dir name rest)) :
    ∃ why, files.enter aim jump' dir name (rest ++ more) = .error why := by
  have further : rest ++ more ≠ [] := by simp [onward]
  cases stored : files.get? (dir ++ [name]) with
  | none =>
    rw [enter_none stored, if_neg further]
    exact ⟨_, rfl⟩
  | some entry =>
    by_cases isFile : entry.isFile
    · rw [enter_file stored isFile, if_neg further]
      exact ⟨_, rfl⟩
    · unfold enter at leads ⊢
      rw [stored] at leads ⊢
      cases entry with
      | folder => exact within leads
      | link target =>
        simp only [further, false_and, if_false]
        simp only [reduceCtorEq, and_false, if_false] at leads
        exact jumps _ _ _ leads
      | file source => exact (isFile rfl).elim
      | barred why => exact (isFile rfl).elim

theorem walk_past {jump jump' : Path → List String → List String → Except OsError Place}
    (jumps : ∀ target dir rest, Leads (jump target dir rest) →
      ∃ why, jump' target dir (rest ++ more) = .error why)
    (onward : more ≠ []) {dir names : List String} (leads : Leads (files.walk .entry jump dir names)) :
    ∃ why, files.walk aim jump' dir (names ++ more) = .error why := by
  induction names generalizing dir with
  | nil => exact (not_leads_folder dir leads).elim
  | cons name rest ih =>
    rw [walk_cons] at leads
    rw [List.cons_append, walk_cons]
    by_cases skipped : name = "" ∨ name = "."
    · rw [if_pos skipped] at leads ⊢
      exact ih leads
    rw [if_neg skipped] at leads ⊢
    by_cases upward : name = ".."
    · rw [if_pos upward] at leads ⊢
      exact ih leads
    rw [if_neg upward] at leads ⊢
    rw [if_neg (by simp)] at leads
    split
    · exact ⟨_, rfl⟩
    by_cases long : longestName < Utf8.size name
    · rw [if_pos long]
      exact ⟨_, rfl⟩
    rw [if_neg long] at leads ⊢
    exact enter_past jumps onward ih leads

/-- Whatever leads to a file leads no further, with however many links. -/
theorem walkLinks_past {links others : Nat} {dir names : List String}
    (leads : Leads (files.walkLinks .entry links dir names)) (onward : more ≠ []) :
    ∃ why, files.walkLinks aim others dir (names ++ more) = .error why := by
  -- with fewer links the other lookup may stop sooner, but it does not get past the file either
  induction links generalizing others dir names with
  | zero =>
    rw [walkLinks_eq] at leads ⊢
    exact walk_past (fun _ _ _ looped => (not_leads_error _ looped).elim) onward leads
  | succ links ih =>
    rw [walkLinks_eq] at leads ⊢
    refine walk_past (fun target dir rest leads => ?_) onward leads
    cases others with
    | zero => exact ⟨_, rfl⟩
    | succ others =>
      rw [follow, ← List.append_assoc]
      exact ih leads

end

/-! ### The last name of a path -/

/-- A lookup that is not at its end does not get past these names. -/
def Stops (files : Files) (names : List String) : Prop :=
  ∀ links dir name rest, dir ++ [name] = names → rest ≠ [] →
    ∃ why, files.enter .name (files.follow .name links) dir name rest = .error why

section

variable {files : Files} {names : List String}

theorem stops_file {entry : Entry} (stored : files.get? names = some entry) (isFile : entry.isFile) :
    files.Stops names := by
  rintro links dir name rest rfl onward
  rw [enter_file stored isFile, if_neg onward]
  exact ⟨_, rfl⟩

/-- A lookup of a last name ends there, or goes on below a folder or behind a link. -/
theorem enter_ended {entry : Entry} {jump : Path → List String → List String → Except OsError Place}
    {dir rest : List String} {name : String}
    (ended : files.enter .name jump dir name rest = .ok ⟨names, some entry⟩) :
    (dir ++ [name] = names ∧ rest = [] ∧ files.get? names = some entry) ∨
      (files.get? (dir ++ [name]) = some .folder ∧
        files.walk .name jump (dir ++ [name]) rest = .ok ⟨names, some entry⟩) ∨
      ∃ target, files.get? (dir ++ [name]) = some (.link target) ∧ rest ≠ [] ∧
        jump (.ofLinkTarget target) dir rest = .ok ⟨names, some entry⟩ := by
  cases stored : files.get? (dir ++ [name]) with
  | none =>
    rw [enter_none stored] at ended
    split at ended
    · cases ended
    · cases ended
  | some found =>
    by_cases isFile : found.isFile
    · rw [enter_file stored isFile] at ended
      split at ended
      · next last =>
        cases ended
        exact .inl ⟨rfl, last, stored⟩
      · cases ended
    · unfold enter at ended
      rw [stored] at ended
      cases found with
      | folder => exact .inr (.inl ⟨rfl, ended⟩)
      | link target =>
        by_cases last : rest = []
        · simp only [last, true_and, if_true] at ended
          cases ended
          exact .inl ⟨rfl, last, stored⟩
        · simp only [last, false_and, if_false] at ended
          exact .inr (.inr ⟨target, rfl, last, ended⟩)
      | file source => exact (isFile rfl).elim
      | barred why => exact (isFile rfl).elim

/-- The link at these names leads to a file. -/
def LinkLeads (files : Files) (names : List String) (target : Path) : Prop :=
  ∃ links, Leads
    (files.walkLinks .entry links (if target.absolute then [] else names.dropLast) target.names)

theorem stops_link {target : String} (stored : files.get? names = some (.link target))
    (leads : files.LinkLeads names (.ofLinkTarget target)) : files.Stops names := by
  rintro links dir name rest rfl onward
  unfold enter
  rw [stored]
  simp only [onward, false_and, if_false]
  cases links with
  | zero => exact ⟨_, rfl⟩
  | succ links =>
    obtain ⟨enough, leads⟩ := leads
    rw [List.dropLast_concat] at leads
    exact walkLinks_past leads onward

theorem walk_linkLeads {target : String}
    {jump jump' : Path → List String → List String → Except OsError Place}
    (jumps : ∀ passed dir rest, jump passed dir rest = .ok ⟨names, some (.link target)⟩ →
      Leads (jump' passed dir rest) → files.LinkLeads names (.ofLinkTarget target))
    (followed : Leads (jump' (.ofLinkTarget target) names.dropLast []) →
      files.LinkLeads names (.ofLinkTarget target))
    (dir path : List String) (ended : files.walk .name jump dir path = .ok ⟨names, some (.link target)⟩)
    (leads : Leads (files.walk .entry jump' dir path)) :
    files.LinkLeads names (.ofLinkTarget target) := by
  refine walk_related
    (R := fun result result' => result = .ok ⟨names, some (.link target)⟩ → Leads result' →
      files.LinkLeads names (.ofLinkTarget target))
    (by simp) (fun _ same => by cases same) (fun _ _ leads => (not_leads_folder _ leads).elim) ?_
    dir path ended leads
  intro dir name rest within ended leads
  unfold enter at leads
  rcases enter_ended ended with ⟨rfl, rfl, stored⟩ | ⟨stored, ended⟩ | ⟨passed, stored, onward, ended⟩
  · rw [stored] at leads
    rw [List.dropLast_concat] at followed
    simp only [reduceCtorEq, and_false, if_false] at leads
    exact followed leads
  · rw [stored] at leads
    exact within _ ended leads
  · rw [stored] at leads
    simp only [onward, false_and, if_false] at leads
    exact jumps _ _ _ ended leads

theorem walkLinks_linkLeads {target : String} {links : Nat} {dir path : List String}
    (ended : files.walkLinks .name links dir path = .ok ⟨names, some (.link target)⟩)
    (leads : Leads (files.walkLinks .entry links dir path)) :
    files.LinkLeads names (.ofLinkTarget target) := by
  induction links generalizing dir path with
  | zero =>
    rw [walkLinks_eq] at ended leads
    refine walk_linkLeads ?_ (fun looped => (not_leads_error _ looped).elim) dir path ended leads
    intro _ _ _ _ looped
    exact (not_leads_error _ looped).elim
  | succ links ih =>
    rw [walkLinks_eq] at ended leads
    refine walk_linkLeads (fun _ _ _ ended leads => ih ended leads) ?_ dir path ended leads
    intro leads
    change Leads (files.walkLinks .entry links _ (_ ++ [])) at leads
    rw [List.append_nil] at leads
    exact ⟨links, leads⟩

/-! ### Once the last name is gone -/

theorem walk_erased {entry : Entry} (notFolder : entry ≠ .folder)
    {jump jump' : Path → List String → List String → Except OsError Place}
    (stops : ∀ dir name rest, dir ++ [name] = names → rest ≠ [] →
      ∃ why, files.enter .name jump dir name rest = .error why)
    (jumps : ∀ target dir rest, jump target dir rest = .ok ⟨names, some entry⟩ →
      jump' target dir rest = .ok ⟨names, none⟩)
    (dir path : List String) (ended : files.walk .name jump dir path = .ok ⟨names, some entry⟩) :
    (files.erase names).walk .entry jump' dir path = .ok ⟨names, none⟩ := by
  refine walk_related
    (R := fun result result' => result = .ok ⟨names, some entry⟩ → result' = .ok ⟨names, none⟩)
    (by simp) (fun _ same => by cases same) ?_ ?_ dir path ended
  · rintro dir ⟨⟩
    exact (notFolder rfl).elim
  intro dir name rest within ended
  by_cases here : dir ++ [name] = names
  · have erased : (files.erase names).get? (dir ++ [name]) = none := by
      rw [get?_erase, if_pos ⟨here, by simp⟩]
    by_cases last : rest = []
    · rw [enter_none erased, if_pos last, here]
    · obtain ⟨why, stopped⟩ := stops dir name rest here last
      rw [stopped] at ended
      cases ended
  · have kept : (files.erase names).get? (dir ++ [name]) = files.get? (dir ++ [name]) := by
      rw [get?_erase, if_neg fun same => here same.1]
    unfold enter
    rw [kept]
    rcases enter_ended ended with ⟨same, _⟩ | ⟨stored, ended⟩ | ⟨target, stored, onward, ended⟩
    · exact (here same).elim
    · rw [stored]
      exact within _ ended
    · rw [stored]
      simp only [onward, false_and, if_false]
      exact jumps _ _ _ ended

theorem walkLinks_erased {entry : Entry} (notFolder : entry ≠ .folder) (stops : files.Stops names)
    {links : Nat} {dir path : List String}
    (ended : files.walkLinks .name links dir path = .ok ⟨names, some entry⟩) :
    (files.erase names).walkLinks .entry links dir path = .ok ⟨names, none⟩ := by
  induction links generalizing dir path with
  | zero =>
    rw [walkLinks_eq] at ended ⊢
    exact walk_erased notFolder (stops 0) (fun _ _ _ looped => by cases looped) dir path ended
  | succ links ih =>
    rw [walkLinks_eq] at ended ⊢
    exact walk_erased notFolder (stops (links + 1)) (fun _ _ _ ended => ih ended) dir path ended

end

/-! ### A path that opens -/

/-- The last name of the path is that of an entry with these names. -/
def NamedAt (files : Files) (path : Path) (names : List String) : Prop :=
  ∃ entry, files.locate .name path = .ok ⟨names, some entry⟩

section

variable {files : Files} {path : Path} {source : Queue.Source}

theorem openSource_ok (opened : files.openSource path = .ok source) :
    ∃ names, files.locate .entry path = .ok ⟨names, some (.file source)⟩ := by
  cases located : files.locate .entry path with
  | error why =>
    rw [openSource, located] at opened
    cases opened
  | ok place =>
    obtain ⟨names, stored⟩ := place
    rw [openSource_at located] at opened
    split at opened
    · cases opened
    · next same =>
      cases opened
      cases same
      exact ⟨names, rfl⟩
    · cases opened
    · cases opened
    · cases opened

/-- No lookup gets past the last name of a path that opens: a file has it, or a link to a file. -/
theorem openSource_name (opened : files.openSource path = .ok source) :
    ∃ names entry, files.locate .name path = .ok ⟨names, some entry⟩ ∧ entry ≠ .folder ∧
      files.Stops names := by
  obtain ⟨reached, located⟩ := openSource_ok opened
  -- without a link at the end, opening and removing reach the same file
  rcases files.locate_sameButLink path with linked | same
  · cases named : files.locate .name path with
    | error why =>
      rw [named] at linked
      cases linked
    | ok place =>
      obtain ⟨names, stored⟩ := place
      rw [named] at linked
      unfold isLink at linked
      split at linked
      · next target ended =>
        cases ended
        have found := (locate_found named).resolve_left (by simp)
        refine ⟨names, .link target, rfl, by simp, stops_link found.symm ?_⟩
        unfold locate at named located
        split at named
        · cases named
        · next short =>
          rw [if_neg short] at located
          exact walkLinks_linkLeads named ⟨reached, _, located, rfl⟩
      · cases linked
  · rw [same] at located
    have found := (locate_found located).resolve_left (by simp)
    exact ⟨reached, .file source, located, by simp, stops_file found.symm rfl⟩

variable {names : List String}

/-- A path that opens can be removed, unless the system refuses all removals. -/
theorem unlink_opened (opened : files.openSource path = .ok source) (named : files.NamedAt path names) :
    files.unlink path = files.remove names := by
  obtain ⟨entry, located⟩ := named
  obtain ⟨_, _, same, notFolder, _⟩ := openSource_name opened
  cases located.symm.trans same
  rw [unlink_at located]
  cases entry with
  | folder => exact (notFolder rfl).elim
  | link target => rfl
  | file source => rfl
  | barred why => rfl

/-- What is stored at the last name of a path that opens; it is no name of the root. -/
theorem NamedAt.stored (opened : files.openSource path = .ok source)
    (named : files.NamedAt path names) : names ≠ [] ∧ ∃ entry, files.get? names = some entry := by
  obtain ⟨entry, located⟩ := named
  obtain ⟨_, _, same, notFolder, _⟩ := openSource_name opened
  cases located.symm.trans same
  have stored := (locate_found located).resolve_left (by simpa using notFolder)
  refine ⟨?_, entry, stored.symm⟩
  intro root
  subst root
  cases stored
  exact notFolder rfl

theorem get?_erased (opened : files.openSource path = .ok source) (named : files.NamedAt path names)
    (other : List String) :
    (files.erase names).get? other = if other = names then none else files.get? other := by
  obtain ⟨inner, _⟩ := named.stored opened
  rw [get?_erase]
  by_cases here : other = names
  · rw [if_pos here, if_pos ⟨here, here ▸ inner⟩]
  · rw [if_neg here, if_neg fun same => here same.1]

theorem openSource_erased (opened : files.openSource path = .ok source)
    (named : files.NamedAt path names) :
    (files.erase names).openSource path = .error .noEntry := by
  obtain ⟨entry, located⟩ := named
  obtain ⟨_, _, same, notFolder, stops⟩ := openSource_name opened
  cases located.symm.trans same
  have erased : (files.erase names).locate .entry path = .ok ⟨names, none⟩ := by
    unfold locate at located ⊢
    split at located
    · cases located
    · next short =>
      rw [if_neg short]
      exact walkLinks_erased notFolder stops located
  rw [openSource_at erased]

end

/-! ### Trees that differ in what is refused -/

section

variable (files : Files) (refusal : Option OsError)

theorem walk_refusal {aim : Aim} {jump jump' : Path → List String → List String → Except OsError Place}
    (jumps : ∀ target dir rest, jump target dir rest = jump' target dir rest) (dir names : List String) :
    ({ files with refusal } : Files).walk aim jump dir names = files.walk aim jump' dir names := by
  refine walk_related (R := Eq) Iff.rfl (fun _ => rfl) (fun _ => rfl) ?_ dir names
  intro dir name rest within
  have stored : ({ files with refusal } : Files).get? (dir ++ [name]) = files.get? (dir ++ [name]) := rfl
  simp only [enter, stored, within, jumps]

theorem locate_refusal (aim : Aim) (path : Path) :
    ({ files with refusal } : Files).locate aim path = files.locate aim path := by
  have walkLinks (links : Nat) (dir names : List String) :
      ({ files with refusal } : Files).walkLinks aim links dir names =
        files.walkLinks aim links dir names := by
    induction links generalizing dir names with
    | zero => exact files.walk_refusal refusal (fun _ _ _ => rfl) dir names
    | succ links ih => exact files.walk_refusal refusal (fun _ _ _ => ih _ _) dir names
  unfold locate
  split
  · rfl
  · exact walkLinks _ _ _

end

/-- The same entries, seen from the same folder. Removals may be refused otherwise. -/
def SameTree (files start : Files) : Prop := ∃ refusal, files = { start with refusal }

namespace SameTree

variable {files start : Files}

theorem refl (files : Files) : files.SameTree files := ⟨files.refusal, rfl⟩

theorem refuse (same : files.SameTree start) (refusal : Option OsError) :
    ({ files with refusal } : Files).SameTree start := by
  obtain ⟨_, rfl⟩ := same
  exact ⟨refusal, rfl⟩

theorem erase (same : files.SameTree start) (names : List String) :
    (files.erase names).SameTree (start.erase names) := by
  obtain ⟨refusal, rfl⟩ := same
  exact ⟨refusal, rfl⟩

theorem get? (same : files.SameTree start) (names : List String) :
    files.get? names = start.get? names := by
  obtain ⟨refusal, rfl⟩ := same
  rfl

theorem openSource (same : files.SameTree start) (path : Path) :
    files.openSource path = start.openSource path := by
  obtain ⟨refusal, rfl⟩ := same
  rw [Files.openSource, Files.openSource, locate_refusal]

theorem namedAt (same : files.SameTree start) {path : Path} {names : List String}
    (named : start.NamedAt path names) : files.NamedAt path names := by
  obtain ⟨refusal, rfl⟩ := same
  rw [NamedAt, locate_refusal]
  exact named

end SameTree

end AccountSync.Files
