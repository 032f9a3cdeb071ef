import AccountSync.Proofs.Files.Lookup
import AccountSync.Proofs.Secrecy.Sources

/-!
# Files that differ in a secret

Paths lead to the same places in two trees whose queue files differ in their fourth lines only
(`locate_alike`), and whatever is done to both leaves two such trees (`unlink_alike`, `delete_alike`,
`put_alike`).
-/

namespace AccountSync

/-- Entries that are the same, or files that differ in their fourth line. -/
inductive Entry.Alike (limit : Nat) : Entry → Entry → Prop where
  | same (entry : Entry) : Alike limit entry entry
  | file {source source' : Queue.Source} (alike : source.Alike limit source') :
    Alike limit (.file source) (.file source')

namespace Files

/-- Trees with the same names, whose entries differ in secrets at most. -/
structure Alike (limit : Nat) (files files' : Files) : Prop where
  entries : List.Forall₂ (fun entry entry' => entry.1 = entry'.1 ∧ entry.2.Alike limit entry'.2)
    files.entries files'.entries
  here : files.here = files'.here
  refusal : files.refusal = files'.refusal

/-- Nothing in both, or entries that differ in secrets at most. -/
abbrev Stored (limit : Nat) : Option Entry → Option Entry → Prop := Option.Rel (Entry.Alike limit)

theorem lookup_alike {limit : Nat} {entries entries' : List (List String × Entry)}
    (alike : List.Forall₂ (fun entry entry' => entry.1 = entry'.1 ∧ entry.2.Alike limit entry'.2)
      entries entries') (names : List String) :
    Stored limit (entries.lookup names) (entries'.lookup names) := by
  induction alike with
  | nil => exact .none
  | @cons entry entry' _ _ first _ ih =>
    rw [List.lookup_cons, List.lookup_cons, ← first.1]
    cases names == entry.1 with
    | true => exact .some first.2
    | false => exact ih

namespace Alike

variable {limit : Nat} {files files' : Files}

theorem refl (limit : Nat) (files : Files) : Alike limit files files :=
  ⟨List.forall₂_same.mpr fun _ _ => ⟨rfl, .same _⟩, rfl, rfl⟩

theorem get? (alike : Alike limit files files') (names : List String) :
    Stored limit (files.get? names) (files'.get? names) := by
  unfold Files.get?
  split
  · exact .some (.same _)
  · exact lookup_alike alike.entries names

theorem erase (alike : Alike limit files files') (names : List String) :
    Alike limit (files.erase names) (files'.erase names) := by
  refine ⟨List.rel_filter ?_ alike.entries, alike.here, alike.refusal⟩
  intro entry entry' both
  simp only [both.1]

theorem set (alike : Alike limit files files') (names : List String) (entry : Entry) :
    Alike limit (files.set names entry) (files'.set names entry) :=
  ⟨.cons ⟨rfl, .same entry⟩ (alike.erase names).entries, alike.here, alike.refusal⟩

theorem names_eq (alike : Alike limit files files') :
    files.entries.map (fun entry => entry.1) = files'.entries.map fun entry => entry.1 := by
  rw [← List.forall₂_eq_eq_eq, List.forall₂_map_left_iff, List.forall₂_map_right_iff]
  exact alike.entries.imp fun _ _ both => both.1

end Alike

/-! ### Looking up -/

/-- The same names with entries that differ in secrets at most. -/
structure Reached (limit : Nat) (place place' : Place) : Prop where
  names : place.names = place'.names
  entry : Stored limit place.entry place'.entry

section

variable {limit : Nat} {files files' : Files}

theorem walk_alike (alike : Alike limit files files') {aim : Aim}
    {jump jump' : Path → List String → List String → Except OsError Place}
    (jumps : ∀ target dir rest, Both (Reached limit) (jump target dir rest) (jump' target dir rest))
    (dir names : List String) :
    Both (Reached limit) (files.walk aim jump dir names) (files'.walk aim jump' dir names) := by
  refine walk_related Iff.rfl .failed (fun dir => .done ⟨rfl, .some (.same _)⟩) ?_ dir names
  intro dir name rest ih
  have stored := alike.get? (dir ++ [name])
  unfold enter
  generalize files.get? (dir ++ [name]) = found at stored
  generalize files'.get? (dir ++ [name]) = found' at stored
  -- an entry ends the walk when no name is left; a folder and a link lead on
  have ended : ∀ {entry entry'} (why : OsError), Stored limit entry entry' →
      Both (Reached limit) (if rest = [] then .ok ⟨dir ++ [name], entry⟩ else .error why)
        (if rest = [] then .ok ⟨dir ++ [name], entry'⟩ else .error why) := by
    intro entry entry' why both
    split
    · exact .done ⟨rfl, both⟩
    · exact .failed why
  cases stored with
  | none => exact ended _ .none
  | @some stored _ both =>
    cases both with
    | file source => exact ended _ (.some (.file source))
    | same =>
      cases stored with
      | file source => exact ended _ (.some (.same _))
      | barred why => exact ended _ (.some (.same _))
      | folder => exact ih (dir ++ [name])
      | link target =>
        dsimp only
        split
        · exact .done ⟨rfl, .some (.same _)⟩
        · exact jumps _ _ _

theorem walkLinks_alike (alike : Alike limit files files') (aim : Aim) (links : Nat)
    (dir names : List String) :
    Both (Reached limit) (files.walkLinks aim links dir names)
      (files'.walkLinks aim links dir names) := by
  induction links generalizing dir names with
  | zero => exact walk_alike alike (fun _ _ _ => .failed _) dir names
  | succ links ih => exact walk_alike alike (fun _ _ _ => ih _ _) dir names

theorem locate_alike (alike : Alike limit files files') (aim : Aim) (path : Path) :
    Both (Reached limit) (files.locate aim path) (files'.locate aim path) := by
  unfold locate
  rw [alike.here]
  split
  · exact .failed _
  · exact walkLinks_alike alike aim _ _ _

/-! ### Operations -/

theorem openSource_alike (alike : Alike limit files files') (path : Path) :
    Both (Queue.Source.Alike limit) (files.openSource path) (files'.openSource path) := by
  refine (locate_alike alike .entry path).bind ?_
  rintro ⟨names, entry⟩ ⟨_, entry'⟩ ⟨_, stored⟩
  cases stored with
  | none => exact .failed _
  | @some stored _ both =>
    cases both with
    | file source => exact .done source
    | same =>
      cases stored with
      | file source => exact .done (.inl rfl)
      | barred why => exact .failed _
      | folder => exact .failed _
      | link target => exact .failed _

theorem remove_alike (alike : Alike limit files files') (names : List String) :
    Both (Alike limit) (files.remove names) (files'.remove names) := by
  unfold remove
  rw [alike.refusal]
  split
  · exact .failed _
  · exact .done (alike.erase names)

theorem unlink_alike (alike : Alike limit files files') (path : Path) :
    Both (Alike limit) (files.unlink path) (files'.unlink path) := by
  refine (locate_alike alike .name path).bind ?_
  rintro ⟨names, entry⟩ ⟨_, entry'⟩ ⟨rfl, stored⟩
  cases stored with
  | none => exact .failed _
  | @some stored _ both =>
    cases both with
    | file source => exact remove_alike alike names
    | same =>
      cases stored with
      | folder => exact .failed _
      | file source => exact remove_alike alike names
      | barred why => exact remove_alike alike names
      | link target => exact remove_alike alike names

theorem isEmptyFolder_alike (alike : Alike limit files files') (names : List String) :
    files.isEmptyFolder names = files'.isEmptyFolder names := by
  have byNames : ∀ files : Files, files.isEmptyFolder names =
      !(files.entries.map fun entry => entry.1).any fun other =>
        names.isPrefixOf other && other ≠ names := by
    intro files
    rw [List.any_map]
    rfl
  rw [byNames, byNames, alike.names_eq]

theorem removeFolder_alike (alike : Alike limit files files') (path : Path) :
    Both (Alike limit) (files.removeFolder path) (files'.removeFolder path) := by
  refine (locate_alike alike .name path).bind ?_
  rintro ⟨names, entry⟩ ⟨_, entry'⟩ ⟨rfl, stored⟩
  dsimp only
  cases stored with
  | none => exact .failed _
  | @some stored _ both =>
    cases both with
    | file source => exact .failed _
    | same =>
      rw [isEmptyFolder_alike alike]
      split
      · exact .failed _
      · exact .failed _
      · exact .failed _
      · split
        · exact remove_alike alike names
        · exact .failed _
      · exact .failed _

theorem isFolder_alike (alike : Alike limit files files') (path : Path) :
    files.isFolder path = files'.isFolder path := by
  have located := locate_alike alike .entry path
  unfold isFolder
  generalize files.locate .entry path = found at located
  generalize files'.locate .entry path = found' at located
  cases located with
  | failed why => rfl
  | done reached =>
    obtain ⟨_, stored⟩ := reached
    dsimp only
    generalize Place.entry _ = entry at stored
    generalize Place.entry _ = entry' at stored
    cases stored with
    | none => rfl
    | some both =>
      cases both with
      | file source => rfl
      | same => rfl

theorem delete_alike (alike : Alike limit files files') (path : Path) :
    Both (Alike limit) (files.delete path) (files'.delete path) := by
  unfold delete
  rw [isFolder_alike alike]
  split
  · exact removeFolder_alike alike path
  · exact unlink_alike alike path

theorem put_alike (alike : Alike limit files files') (path : Path) (entry : Entry) :
    Both (Alike limit) (files.put path entry) (files'.put path entry) := by
  have checked : Both (fun _ _ => True) (checkTarget entry) (checkTarget entry) :=
    .refl (fun _ => trivial) _
  refine checked.bind fun _ => ?_
  refine (locate_alike alike _ path).bind ?_
  rintro ⟨names, stored⟩ ⟨_, stored'⟩ ⟨rfl, both⟩
  dsimp only
  cases both with
  | none => exact .done (alike.set names _)
  | @some stored _ both =>
    cases both with
    | file source =>
      dsimp only
      split
      · exact .done (alike.set names _)
      · exact .failed _
    | same =>
      cases stored with
      | folder =>
        dsimp only
        split
        · exact .failed _
        · exact .failed _
      | _ =>
        dsimp only
        split
        · exact .done (alike.set names _)
        · exact .failed _

end

end Files

end AccountSync
