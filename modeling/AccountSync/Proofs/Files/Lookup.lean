import AccountSync.Files.Tree

/-!
# Looking up files

What a lookup finds is what is stored (`locate_found`), and a successful `unlink` removes just that
(`unlink_ok`). Once files have gone, each path leads where it led, if that is still there
(`Remains.locate_agree`).
-/

namespace AccountSync

def Entry.isFile : Entry → Bool
  | .file _ => true
  | .barred _ => true
  | _ => false

namespace Files

/-! ### Entries -/

theorem lookup_erase (entries : List (List String × Entry)) (names other : List String) :
    (entries.filter (·.1 ≠ names)).lookup other =
      if other = names then none else entries.lookup other := by
  induction entries with
  | nil => simp
  | cons entry rest ih =>
    by_cases removed : entry.1 = names
    · rw [List.filter_cons_of_neg (by simpa using removed), ih]
      by_cases same : other = names
      · rw [if_pos same, if_pos same]
      · have different : (other == entry.1) = false := by simpa [removed] using same
        rw [if_neg same, if_neg same, List.lookup_cons, different]
    · rw [List.filter_cons_of_pos (by simpa using removed), List.lookup_cons, List.lookup_cons, ih]
      by_cases same : other = entry.1
      · have kept : other ≠ names := same ▸ removed
        simp [same, removed]
      · have different : (other == entry.1) = false := by simpa using same
        rw [different]

theorem get?_erase (files : Files) (names other : List String) :
    (files.erase names).get? other = if other = names ∧ other ≠ [] then none else files.get? other := by
  unfold get? erase
  by_cases root : other = []
  · simp [root]
  · simp only [root, if_false, lookup_erase, ne_eq, not_false_eq_true, and_true]

/-! ### What a lookup finds -/

/-- The place has what is stored at its names, or is a folder. -/
def Found (files : Files) (place : Place) : Prop :=
  place.entry = some .folder ∨ place.entry = files.get? place.names

theorem walk_found {files : Files} {aim : Aim}
    {jump : Path → List String → List String → Except OsError Place}
    (jumps : ∀ target dir rest place, jump target dir rest = .ok place → files.Found place)
    {dir names : List String} {place : Place} (walked : files.walk aim jump dir names = .ok place) :
    files.Found place := by
  fun_induction walk files aim jump dir names with
  | case1 dir =>
    cases walked
    exact .inl rfl
  | case2 dir name rest skipped ih => exact ih walked
  | case3 dir rest _ ih => exact ih walked
  | case4 => cases walked
  | case5 => cases walked
  | case6 dir name _ _ _ found free =>
    cases walked
    exact .inr free.symm
  | case7 => cases walked
  | case8 dir name rest _ _ _ _ found folder ih => exact ih walked
  | case9 dir name rest _ _ _ _ found target link last =>
    cases walked
    exact .inr link.symm
  | case10 dir name rest _ _ _ _ found target link passed => exact jumps _ _ _ _ walked
  | case11 dir name _ _ _ found entry notFolder notLink stored =>
    cases walked
    exact .inr stored.symm
  | case12 => cases walked

theorem walkLinks_found {files : Files} {aim : Aim} {links : Nat} {dir names : List String}
    {place : Place} (walked : files.walkLinks aim links dir names = .ok place) :
    files.Found place := by
  induction links generalizing dir names place with
  | zero =>
    refine walk_found (fun _ _ _ _ jumped => ?_) walked
    cases jumped
  | succ links ih => exact walk_found (fun _ _ _ _ jumped => ih jumped) walked

theorem locate_found {files : Files} {aim : Aim} {path : Path} {place : Place}
    (located : files.locate aim path = .ok place) : files.Found place := by
  unfold locate at located
  split at located
  · cases located
  · exact walkLinks_found located

theorem openSource_at {files : Files} {path : Path} {place : Place}
    (located : files.locate .entry path = .ok place) :
    files.openSource path =
      match place.entry with
      | none => .error .noEntry
      | some (.file source) => .ok source
      | some (.barred why) => .error why
      | some .folder => .error .isDirectory
      | some (.link _) => .error .linkLoop := by
  rw [openSource, located]
  rfl

theorem unlink_at {files : Files} {path : Path} {place : Place}
    (located : files.locate .name path = .ok place) :
    files.unlink path =
      match place.entry with
      | none => .error .noEntry
      | some .folder => .error .isDirectory
      | some _ => files.remove place.names := by
  rw [unlink, located]
  rfl

theorem unlink_lost {files : Files} {path : Path} {why : OsError}
    (lost : files.locate .name path = .error why) : files.unlink path = .error why := by
  rw [unlink, lost]
  rfl

/-- What a successful unlink does: it removes a stored entry that is no folder. -/
theorem unlink_ok {files left : Files} {path : Path} (unlinked : files.unlink path = .ok left) :
    ∃ names entry, files.locate .name path = .ok ⟨names, some entry⟩ ∧ entry ≠ .folder ∧
      files.get? names = some entry ∧ files.refusal = none ∧ left = files.erase names := by
  cases located : files.locate .name path with
  | error why =>
    rw [unlink_lost located] at unlinked
    cases unlinked
  | ok place =>
    obtain ⟨names, stored⟩ := place
    rw [unlink_at located] at unlinked
    split at unlinked
    · cases unlinked
    · cases unlinked
    · next entry notFolder same =>
      cases same
      have found := (locate_found located).resolve_left (by simpa using notFolder)
      unfold remove at unlinked
      split at unlinked
      · cases unlinked
      · next allowed =>
        cases unlinked
        exact ⟨names, entry, rfl, notFolder, found.symm, allowed, rfl⟩

theorem unlink_changes {files left : Files} {path : Path} (unlinked : files.unlink path = .ok left) :
    files ≠ left := by
  obtain ⟨names, entry, _, notFolder, stored, _, rfl⟩ := unlink_ok unlinked
  have inner : names ≠ [] := by
    rintro rfl
    cases stored
    exact notFolder rfl
  intro same
  have gone := get?_erase files names names
  rw [← same, stored, if_pos ⟨rfl, inner⟩] at gone
  cases gone

/-! ### Two walks at once -/

def enter (files : Files) (aim : Aim) (jump : Path → List String → List String →
    Except OsError Place) (dir : List String) (name : String) (rest : List String) :
    Except OsError Place :=
  match files.get? (dir ++ [name]) with
  | none => if rest = [] then .ok ⟨dir ++ [name], none⟩ else .error .noEntry
  | some .folder => files.walk aim jump (dir ++ [name]) rest
  | some (.link target) =>
    if rest = [] ∧ aim = .name then .ok ⟨dir ++ [name], some (.link target)⟩
    else jump (.ofLinkTarget target) dir rest
  | some entry => if rest = [] then .ok ⟨dir ++ [name], some entry⟩ else .error .notDirectory

theorem walk_cons (files : Files) (aim : Aim) (jump : Path → List String → List String →
    Except OsError Place) (dir : List String) (name : String) (rest : List String) :
    files.walk aim jump dir (name :: rest) =
      if name = "" ∨ name = "." then files.walk aim jump dir rest
      else if name = ".." then files.walk aim jump dir.dropLast rest
      else if aim = .creation ∧ rest = [""] then .error .isDirectory
      else if longestName < Utf8.size name then .error .nameTooLong
      else files.enter aim jump dir name rest := by
  rw [walk]
  rfl

section

variable {files : Files} {aim : Aim} {jump : Path → List String → List String → Except OsError Place}
  {dir rest : List String} {name : String}

theorem enter_none (stored : files.get? (dir ++ [name]) = none) :
    files.enter aim jump dir name rest =
      if rest = [] then .ok ⟨dir ++ [name], none⟩ else .error .noEntry := by
  rw [enter, stored]

theorem enter_file {entry : Entry} (stored : files.get? (dir ++ [name]) = some entry)
    (isFile : entry.isFile) :
    files.enter aim jump dir name rest =
      if rest = [] then .ok ⟨dir ++ [name], some entry⟩ else .error .notDirectory := by
  rw [enter, stored]
  cases entry with
  | folder => cases isFile
  | link target => cases isFile
  | file source => rfl
  | barred why => rfl

end

/-- Two walks are related if they are wherever they look a name up. -/
theorem walk_related {R : Except OsError Place → Except OsError Place → Prop} {files files' : Files}
    {aim aim' : Aim} {jump jump' : Path → List String → List String → Except OsError Place}
    (kind : aim = .creation ↔ aim' = .creation) (refused : ∀ why, R (.error why) (.error why))
    (ended : ∀ dir, R (.ok ⟨dir, some .folder⟩) (.ok ⟨dir, some .folder⟩))
    (entered : ∀ dir name rest,
      (∀ inner, R (files.walk aim jump inner rest) (files'.walk aim' jump' inner rest)) →
      R (files.enter aim jump dir name rest) (files'.enter aim' jump' dir name rest))
    (dir names : List String) : R (files.walk aim jump dir names) (files'.walk aim' jump' dir names) := by
  induction names generalizing dir with
  | nil => exact ended dir
  | cons name rest ih =>
    simp only [walk_cons, kind]
    split
    · exact ih dir
    split
    · exact ih dir.dropLast
    split
    · exact refused _
    split
    · exact refused _
    · exact entered dir name rest ih

/-! ### A name that is no link -/

def isLink : Except OsError Place → Bool
  | .ok ⟨_, some (.link _)⟩ => true
  | _ => false

def Direct (files : Files) (path : Path) : Prop := isLink (files.locate .name path) = false

instance (files : Files) (path : Path) : Decidable (files.Direct path) :=
  inferInstanceAs (Decidable (_ = false))

/-- The second result is the first, unless that one is a link. -/
def SameButLink (result other : Except OsError Place) : Prop := isLink result ∨ other = result

theorem walk_name {files : Files}
    {jump jump' : Path → List String → List String → Except OsError Place}
    (jumps : ∀ target dir rest, SameButLink (jump target dir rest) (jump' target dir rest))
    (dir names : List String) :
    SameButLink (files.walk .name jump dir names) (files.walk .entry jump' dir names) := by
  refine walk_related (by simp) (fun _ => .inr rfl) (fun _ => .inr rfl) ?_ dir names
  intro dir name rest ih
  unfold enter
  cases files.get? (dir ++ [name]) with
  | none => exact .inr rfl
  | some entry =>
    cases entry with
    | folder => exact ih (dir ++ [name])
    | link target =>
      by_cases last : rest = []
      · left
        simp only [last, true_and, if_true]
        rfl
      · simp only [last, false_and, if_false]
        exact jumps _ _ _
    | file source => exact .inr rfl
    | barred why => exact .inr rfl

theorem walkLinks_name (files : Files) (links : Nat) (dir names : List String) :
    SameButLink (files.walkLinks .name links dir names) (files.walkLinks .entry links dir names) := by
  induction links generalizing dir names with
  | zero => exact walk_name (fun _ _ _ => .inr rfl) dir names
  | succ links ih => exact walk_name (fun _ _ _ => ih _ _) dir names

theorem locate_sameButLink (files : Files) (path : Path) :
    SameButLink (files.locate .name path) (files.locate .entry path) := by
  unfold locate
  split
  · exact .inr rfl
  · exact walkLinks_name files _ _ _

theorem locate_name {files : Files} {path : Path} (direct : files.Direct path) :
    files.locate .entry path = files.locate .name path := by
  refine (files.locate_sameButLink path).resolve_left ?_
  rw [direct]
  exact Bool.false_ne_true

/-! ### After files have gone -/

/-- What is left of files when some are gone. -/
structure Remains (start now : Files) (gone : List String → Prop) : Prop where
  here : now.here = start.here
  lost : ∀ names, gone names →
    now.get? names = none ∧ ∃ entry, start.get? names = some entry ∧ entry.isFile
  kept : ∀ names, ¬ gone names → now.get? names = start.get? names

/-- Both lookups fail, or both lead to the same folder, or to the same names that are no folder's. -/
inductive Agree (start now : Files) : Except OsError Place → Except OsError Place → Prop where
  | lost {why why'} : Agree start now (.error why) (.error why')
  | folder {dir} : Agree start now (.ok ⟨dir, some .folder⟩) (.ok ⟨dir, some .folder⟩)
  | found {names} (notFolder : start.get? names ≠ some .folder) :
    Agree start now (.ok ⟨names, start.get? names⟩) (.ok ⟨names, now.get? names⟩)

theorem Agree.atEnd {start now : Files} {names rest : List String} {entry entry' : Option Entry}
    {why why' : OsError} (stored : start.get? names = entry) (stored' : now.get? names = entry')
    (notFolder : entry ≠ some .folder) :
    Agree start now (if rest = [] then .ok ⟨names, entry⟩ else .error why)
      (if rest = [] then .ok ⟨names, entry'⟩ else .error why') := by
  subst stored stored'
  by_cases last : rest = []
  · rw [if_pos last, if_pos last]
    exact .found notFolder
  · rw [if_neg last, if_neg last]
    exact .lost

namespace Remains

theorem start (files : Files) : Remains files files fun _ => False :=
  ⟨rfl, fun _ lost => lost.elim, fun _ _ => rfl⟩

variable {start now : Files} {gone : List String → Prop}

theorem absent (remains : Remains start now gone) {names : List String}
    (unknown : start.get? names = none) : now.get? names = none := by
  by_cases lost : gone names
  · exact (remains.lost names lost).1
  · exact (remains.kept names lost).trans unknown

theorem of_iff {gone' : List String → Prop} (remains : Remains start now gone)
    (same : ∀ names, gone' names ↔ gone names) : Remains start now gone' :=
  ⟨remains.here, fun names lost => remains.lost names ((same names).mp lost),
    fun names kept => remains.kept names (mt (same names).mpr kept)⟩

theorem refuse (remains : Remains start now gone) (refusal : Option OsError) :
    Remains start { now with refusal } gone :=
  ⟨remains.here, remains.lost, remains.kept⟩

theorem erase (remains : Remains start now gone) {names : List String} {entry : Entry}
    (stored : start.get? names = some entry) (isFile : entry.isFile) :
    Remains start (now.erase names) fun other => gone other ∨ other = names := by
  have inner : names ≠ [] := by
    rintro rfl
    cases stored
    cases isFile
  refine ⟨remains.here, ?_, ?_⟩
  · rintro other (lost | rfl)
    · obtain ⟨absent, known⟩ := remains.lost other lost
      refine ⟨?_, known⟩
      rw [get?_erase, absent, ite_self]
    · exact ⟨by rw [get?_erase, if_pos ⟨rfl, inner⟩], entry, stored, isFile⟩
  · intro other kept
    rw [get?_erase, if_neg fun same => kept (.inr same.1)]
    exact remains.kept other fun lost => kept (.inl lost)

theorem walk_agree (remains : Remains start now gone) {aim : Aim}
    {jump jump' : Path → List String → List String → Except OsError Place}
    (jumps : ∀ target dir rest, Agree start now (jump target dir rest) (jump' target dir rest))
    (dir names : List String) :
    Agree start now (start.walk aim jump dir names) (now.walk aim jump' dir names) := by
  refine walk_related Iff.rfl (fun _ => .lost) (fun _ => .folder) ?_ dir names
  intro dir name rest ih
  cases stored : start.get? (dir ++ [name]) with
  | none =>
    have absent := remains.absent stored
    rw [enter_none stored, enter_none absent]
    exact .atEnd stored absent (fun same => nomatch same)
  | some entry =>
    by_cases lost : gone (dir ++ [name])
    · obtain ⟨absent, file, same, isFile⟩ := remains.lost _ lost
      cases stored.symm.trans same
      rw [enter_file stored isFile, enter_none absent]
      refine .atEnd stored absent ?_
      rintro ⟨⟩
      cases isFile
    · have kept := (remains.kept _ lost).trans stored
      by_cases isFile : entry.isFile
      · rw [enter_file stored isFile, enter_file kept isFile]
        refine .atEnd stored kept ?_
        rintro ⟨⟩
        cases isFile
      · unfold enter
        rw [stored, kept]
        cases entry with
        | folder => exact ih (dir ++ [name])
        | link target =>
          by_cases last : rest = [] ∧ aim = .name
          · have both : Agree start now (.ok ⟨dir ++ [name], start.get? (dir ++ [name])⟩)
                (.ok ⟨dir ++ [name], now.get? (dir ++ [name])⟩) := .found (by simp [stored])
            rw [stored, kept] at both
            simpa only [last, and_self, if_true] using both
          · simp only [last, if_false]
            exact jumps _ _ _
        | file source => exact (isFile rfl).elim
        | barred why => exact (isFile rfl).elim

theorem walkLinks_agree (remains : Remains start now gone) (aim : Aim) (links : Nat)
    (dir names : List String) :
    Agree start now (start.walkLinks aim links dir names) (now.walkLinks aim links dir names) := by
  induction links generalizing dir names with
  | zero => exact remains.walk_agree (fun _ _ _ => .lost) dir names
  | succ links ih => exact remains.walk_agree (fun _ _ _ => ih _ _) dir names

theorem locate_agree (remains : Remains start now gone) (aim : Aim) (path : Path) :
    Agree start now (start.locate aim path) (now.locate aim path) := by
  unfold locate
  rw [remains.here]
  split
  · exact .lost
  · exact remains.walkLinks_agree aim _ _ _

end Remains

def fileAt? (files : Files) (file : String) : Option (List String) :=
  if file.toList.contains '\x00' then none
  else
    match files.locate .entry (.ofText file) with
    | .ok ⟨names, some entry⟩ => if entry.isFile then some names else none
    | _ => none

theorem fileAt?_eq_some {files : Files} {file : String} {names : List String}
    (known : files.fileAt? file = some names) :
    file.toList.contains '\x00' = false ∧ ∃ entry, entry.isFile ∧ files.get? names = some entry ∧
      files.locate .entry (.ofText file) = .ok ⟨names, some entry⟩ := by
  unfold fileAt? at known
  split at known
  · cases known
  next clean =>
  split at known
  · next found entry located =>
    split at known
    · next isFile =>
      cases known
      have stored := (locate_found located).resolve_left (by rintro ⟨⟩; cases isFile)
      exact ⟨by simpa using clean, entry, isFile, stored.symm, located⟩
    · cases known
  · cases known

namespace Remains

variable {start now : Files} {gone : List String → Prop} {file : String} {names : List String}

theorem locate_known (remains : Remains start now gone) {aim : Aim} {entry : Entry} {path : Path}
    (isFile : entry.isFile) (located : start.locate aim path = .ok ⟨names, some entry⟩) :
    now.locate aim path = .ok ⟨names, now.get? names⟩ := by
  have agree := remains.locate_agree aim path
  generalize start.locate aim path = first at agree located
  generalize now.locate aim path = result at agree ⊢
  cases agree with
  | lost => cases located
  | folder =>
    cases located
    cases isFile
  | found notFolder =>
    rw [Except.ok.injEq, Place.mk.injEq] at located
    rw [located.1]

theorem openSource_gone (remains : Remains start now gone) (known : start.fileAt? file = some names)
    (lost : gone names) : now.openSource (.ofText file) = .error .noEntry := by
  obtain ⟨_, entry, isFile, _, located⟩ := fileAt?_eq_some known
  rw [openSource_at (remains.locate_known isFile located), (remains.lost names lost).1]

theorem unlink_kept (remains : Remains start now gone) (direct : start.Direct (.ofText file))
    (known : start.fileAt? file = some names) (kept : ¬ gone names) :
    now.unlink (.ofText file) = now.remove names := by
  obtain ⟨_, entry, isFile, stored, located⟩ := fileAt?_eq_some known
  -- opening follows a link at the end and removing does not, so both reach the file only without one
  rw [locate_name direct] at located
  rw [unlink_at (remains.locate_known isFile located), remains.kept names kept, stored]
  cases entry with
  | folder => cases isFile
  | link target => cases isFile
  | file source => rfl
  | barred why => rfl

/-- A path that led to no file leads to none after files have gone. -/
theorem openSource_unknown (remains : Remains start now gone)
    (clean : file.toList.contains '\x00' = false) (unknown : start.fileAt? file = none) :
    ∃ why, now.openSource (.ofText file) = .error why := by
  unfold fileAt? at unknown
  rw [if_neg (by simp only [clean, Bool.false_eq_true, not_false_eq_true])] at unknown
  have agree := remains.locate_agree .entry (.ofText file)
  generalize start.locate .entry (.ofText file) = first at agree unknown
  generalize reached : now.locate .entry (.ofText file) = result at agree
  cases agree with
  | @lost _ why => exact ⟨why, by rw [openSource, reached]; rfl⟩
  | folder => exact ⟨.isDirectory, by rw [openSource_at reached]⟩
  | @found names notFolder =>
    rw [openSource_at reached]
    cases stored : start.get? names with
    | none => exact ⟨.noEntry, by rw [remains.absent stored]⟩
    | some entry =>
      rw [stored] at unknown notFolder
      cases entry with
      | folder => exact (notFolder rfl).elim
      | file source => cases unknown
      | barred why => cases unknown
      | link target =>
        have kept : ¬ gone names := by
          intro lost
          obtain ⟨_, _, same, isFile⟩ := remains.lost names lost
          cases stored.symm.trans same
          cases isFile
        exact ⟨.linkLoop, by rw [remains.kept names kept, stored]⟩

end Remains

end Files

end AccountSync
