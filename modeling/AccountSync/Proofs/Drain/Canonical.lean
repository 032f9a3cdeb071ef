import AccountSync.Proofs.Drain.Journal
import AccountSync.Proofs.Files.Unlink
import AccountSync.Proofs.Principal.RoundTrip
import AccountSync.Proofs.Queue.Format

/-!
# What a producer writes

A producer writes a principal in its written form, the target and an action, each on lines of its
own. The drain of such a file makes one call, for this principal and this action, and takes the file
away if and only if the call reports success (`canonical_understood`).
-/

namespace AccountSync

variable {σ : Type}

/-! ### The file -/

namespace Queue

def actionWords : Action → List String
  | .enable => ["enable"]
  | .disable => ["disable"]
  | .password secret => ["password", secret.text]

/-- The lines that a producer writes. -/
def canonical (p : Principal) (action : Action) : List String := p.text :: "ad" :: actionWords action

/-- Lines in UTF-8, each with a line feed after it. -/
def terminated (lines : List String) : List UInt8 := lines.flatMap fun line => utf8 line ++ [10]

theorem lines_canonical (p : Principal) (action : Action) :
    (Record.mk p.text .activeDirectory action).lines = canonical p action := by
  cases action <;> rfl

theorem encode_canonical (p : Principal) (action : Action) :
    (Record.mk p.text .activeDirectory action).encode = terminated (canonical p action) := by
  simp only [Record.encode, lines_canonical, terminated, encode_eq_utf8]
  rfl

/-- No line is broken: a line feed in a principal is written as an escape. -/
theorem notMem_canonical {p : Principal} {action : Action}
    (oneLine : ∀ secret, action = .password secret → '\n' ∉ secret.text.toList) :
    ∀ line ∈ canonical p action, '\n' ∉ line.toList := by
  have symbol : Principal.symbol? '\n' = some 'n' := rfl
  have name : '\n' ∉ p.text.toList := Principal.notMem_text symbol p
  have words : ∀ line ∈ actionWords action, '\n' ∉ line.toList := by
    cases action with
    | enable => decide
    | disable => decide
    | password secret =>
      exact List.forall_mem_cons.mpr ⟨by decide, List.forall_mem_singleton.mpr (oneLine secret rfl)⟩
  exact List.forall_mem_cons.mpr ⟨name, List.forall_mem_cons.mpr ⟨by decide, words⟩⟩

end Queue

section

variable {realm : Option String} {limit : Int} {p : Principal} {action : Action} {file : String}
  {rest : List UInt8}

theorem arrive_canonical (bounded : limit < 2 ^ 63) (formed : p.WellFormed)
    (oneLine : ∀ secret, action = .password secret → '\n' ∉ secret.text.toList)
    (admitted : ∀ line ∈ Queue.canonical p action, (Queue.utf8 line).length + 1 ≤ limit)
    (clean : '\x00' ∉ file.toList) {files : Files}
    (holds : files.openSource (.ofText file) =
      .ok (.ofBytes (Queue.terminated (Queue.canonical p action) ++ rest))) :
    arrive realm limit file files = .ready ⟨p.text, .activeDirectory, action⟩ p := by
  have low : 1 < limit := by
    have target : ((Queue.utf8 "ad").length : Int) = 2 := rfl
    have fits := admitted "ad" (by simp [Queue.canonical])
    omega
  rw [← Queue.encode_canonical] at holds
  refine arrive_ready_iff.mpr ⟨by simpa using clean, _, holds, ?_, Principal.parse_text formed realm⟩
  refine Queue.Record.read_admitted low bounded file (fun line member => ?_) rest
  rw [Queue.lines_canonical] at member
  refine ⟨Queue.notMem_canonical oneLine line member, ?_⟩
  rw [Utf8.size, Queue.encode_eq_utf8]
  exact admitted line member

end

/-! ### The call -/

def Call.Succeeds (call : Call) : Prop := ∃ answer, call.result = .ok answer ∧ answer.status = 0

/-- What a drain makes of its call: it unlinks nothing unless the call succeeded. -/
inductive Called (file : String) (call : Call) (left : Files) : Prop where
  | failed (fails : ¬ call.Succeeds) (files : left = call.taken)
  | kept {why} (unlink : call.taken.unlink (.ofText file) = .error why) (files : left = call.taken)
  | removed (succeeds : call.Succeeds) (unlink : call.taken.unlink (.ofText file) = .ok left)

/-- The one call of a drain that gets past reading. -/
def Backend.callFor (b : Backend σ) (file : String) (site : Site σ) (request : Request) : Call :=
  let ended := (b.perform request).run (Controller.reached file site)
  ⟨request, site.files, ended.2.files, ended.1⟩

/-- Whatever the backend does, a drain that gets past reading makes one call. -/
theorem drain_called (b : Backend σ) {realm : Option String} {limit : Int} {file : String}
    {record : Queue.Record} {principal : Principal} (site : Site σ)
    (arrival : arrive realm limit file site.files = .ready record principal) :
    let drained := (Controller.drain ⟨b.watched, realm, limit⟩ file).run site.watched
    let request : Request := ⟨realm, principal, record.action⟩
    drained.2.peer.1.calls = [(b.callFor file site request, [])] ∧
      (((b.perform request).run (Controller.reached file site)).2.stage = some .parsed →
        Called file (b.callFor file site request) drained.2.files) := by
  intro drained request
  have course := course ⟨b.watched, realm, limit⟩ file site.watched
  change Course _ _ _ drained.1 drained.2 at course
  generalize drained.1 = result at course
  generalize drained.2 = left at course ⊢
  cases course with
  | stopped arrives => cases arrives.symm.trans arrival
  | unfinished arrives call rejected cause files peer =>
    cases arrives.symm.trans arrival
    obtain ⟨outcome, taken, stage, calls⟩ := b.run_watched call
    refine ⟨by rw [peer, calls]; rfl, fun parsed => .failed ?_ (files.trans taken)⟩
    rintro ⟨answer, returned, zero⟩
    exact rejected answer (outcome.trans returned) (by simpa [Answer.isOk] using zero)
      (stage.trans parsed)
  | kept arrives call accepted stage unlink files peer =>
    cases arrives.symm.trans arrival
    obtain ⟨_, taken, _, calls⟩ := b.run_watched call
    rw [taken] at unlink
    exact ⟨by rw [peer, calls]; rfl, fun _ => .kept unlink (files.trans taken)⟩
  | removed arrives call accepted stage unlink peer last =>
    cases arrives.symm.trans arrival
    obtain ⟨outcome, taken, _, calls⟩ := b.run_watched call
    rw [taken] at unlink
    refine ⟨by rw [peer, calls]; rfl, fun _ => .removed ⟨_, outcome.symm, ?_⟩ unlink⟩
    simpa [Answer.isOk] using accepted

/-- A drain that stops before that changes no files and makes no call. -/
theorem drain_uncalled (b : Backend σ) {realm : Option String} {limit : Int} {file : String}
    {passed : List Stage} {fault : Fault} (site : Site σ)
    (arrival : arrive realm limit file site.files = .stopped passed fault) :
    let drained := (Controller.drain ⟨b.watched, realm, limit⟩ file).run site.watched
    drained.1 = .error fault ∧ drained.2.files = site.files ∧ drained.2.peer.1.calls = [] := by
  intro drained
  have course := course ⟨b.watched, realm, limit⟩ file site.watched
  change Course _ _ _ drained.1 drained.2 at course
  generalize drained.1 = result at course ⊢
  generalize drained.2 = left at course ⊢
  cases course with
  | stopped arrives files peer =>
    cases arrives.symm.trans arrival
    exact ⟨rfl, files, by rw [peer]; rfl⟩
  | unfinished arrives => cases arrives.symm.trans arrival
  | kept arrives => cases arrives.symm.trans arrival
  | removed arrives => cases arrives.symm.trans arrival

namespace Called

variable {file : String} {call : Call} {left : Files}

/-- If the file is still there after the call, it goes if and only if the call succeeded and the
system lets it go. -/
theorem removed_iff (called : Called file call left) {source : Queue.Source}
    (opens : call.taken.openSource (.ofText file) = .ok source) :
    ∃ names, call.taken.NamedAt (.ofText file) names ∧
      (left.get? names = none ↔ call.Succeeds ∧ call.taken.refusal = none) ∧
      ∀ other, other ≠ names → left.get? other = call.taken.get? other := by
  obtain ⟨names, entry, located, -⟩ := Files.openSource_name opens
  have named : call.taken.NamedAt (.ofText file) names := ⟨entry, located⟩
  obtain ⟨-, stored, present⟩ := named.stored opens
  have unlinks := Files.unlink_opened opens named
  refine ⟨names, named, ?_⟩
  cases called with
  | failed fails files =>
    rw [files]
    exact ⟨iff_of_false (by simp [present]) fun both => fails both.1, fun _ _ => rfl⟩
  | kept unlink files =>
    rw [files]
    refine ⟨iff_of_false (by simp [present]) fun both => ?_, fun _ _ => rfl⟩
    rw [unlinks, Files.remove, both.2] at unlink
    cases unlink
  | removed succeeds unlink =>
    rw [unlinks, Files.remove] at unlink
    split at unlink
    · cases unlink
    · next lets =>
      cases unlink
      refine ⟨iff_of_true ?_ ⟨succeeds, lets⟩, fun other apart => ?_⟩
      · rw [Files.get?_erased opens named, if_pos rfl]
      · rw [Files.get?_erased opens named, if_neg apart]

end Called

/-- The drain of a file with the lines of a producer makes one call, for the principal and the action
that were written, whatever stands behind them and whatever the default realm is. A call that keeps
the stage and the file leaves it to the drain to remove the file, which it does if and only if the
call succeeded and the system lets the file go. -/
theorem canonical_understood (b : Backend σ) (realm : Option String) {limit : Int}
    (bounded : limit < 2 ^ 63) {p : Principal} (formed : p.WellFormed) {action : Action}
    (oneLine : ∀ secret, action = .password secret → '\n' ∉ secret.text.toList)
    (admitted : ∀ line ∈ Queue.canonical p action, (Queue.utf8 line).length + 1 ≤ limit)
    {file : String} (clean : '\x00' ∉ file.toList) (rest : List UInt8) (site : Site σ)
    (holds : site.files.openSource (.ofText file) =
      .ok (.ofBytes (Queue.terminated (Queue.canonical p action) ++ rest))) :
    let drained := (Controller.drain ⟨b.watched, realm, limit⟩ file).run site.watched
    let call := b.callFor file site ⟨realm, p, action⟩
    (Controller.drain ⟨b, realm, limit⟩ file).run site = (drained.1, drained.2.forget) ∧
      drained.2.peer.1.calls = [(call, [])] ∧
      (((b.perform call.request).run (Controller.reached file site)).2.stage = some .parsed →
        (∃ source, call.taken.openSource (.ofText file) = .ok source) →
        ∃ names, call.taken.NamedAt (.ofText file) names ∧
          (drained.2.files.get? names = none ↔ call.Succeeds ∧ call.taken.refusal = none) ∧
          ∀ other, other ≠ names → drained.2.files.get? other = call.taken.get? other) := by
  intro drained call
  have arrival : arrive realm limit file site.files = .ready ⟨p.text, .activeDirectory, action⟩ p :=
    arrive_canonical bounded formed oneLine admitted clean holds
  obtain ⟨made, called⟩ := drain_called b site arrival
  refine ⟨follows_drain (follows_watched b) realm limit file site.watched, made, fun stage opens => ?_⟩
  obtain ⟨source, opens⟩ := opens
  exact (called stage).removed_iff opens

/-- Each character that is never written as itself, in a password request with more behind it. -/
theorem canonical_understood_escaped :
    let p : Principal := ⟨["\n\t\x08", "/@", "é"], "\\\x00"⟩
    let action : Action := .password ⟨"ü ", by decide⟩
    let rest : List UInt8 := [255, 10]
    let files : Files :=
      ⟨[(["q"], .file (.ofBytes (Queue.terminated (Queue.canonical p action) ++ rest)))], [], none⟩
    let b : Backend Unit := ⟨fun _ => pure .success, pure ()⟩
    let site := Site.start files ()
    let drained := (Controller.drain ⟨b.watched, none, 20⟩ "q").run site.watched
    p.WellFormed ∧ (∀ secret, action = .password secret → '\n' ∉ secret.text.toList) ∧
      (∀ line ∈ Queue.canonical p action, ((Queue.utf8 line).length : Int) + 1 ≤ 20) ∧
      drained.2.peer.1.calls = [(⟨⟨none, p, action⟩, files, files, .ok .success⟩, [])] ∧
      drained.2.files.get? ["q"] = none := by
  intro p action rest files b site
  have formed : p.WellFormed := by decide
  have oneLine : ∀ secret, action = .password secret → '\n' ∉ secret.text.toList := by
    intro secret same
    rw [← Action.password.inj same]
    decide
  have admitted : ∀ line ∈ Queue.canonical p action, ((Queue.utf8 line).length : Int) + 1 ≤ 20 := by
    decide
  have opens : files.openSource (.ofText "q") =
      .ok (.ofBytes (Queue.terminated (Queue.canonical p action) ++ rest)) := rfl
  obtain ⟨_, calls, removal⟩ := canonical_understood b none (by decide) formed oneLine admitted
    (by decide) rest site opens
  obtain ⟨names, ⟨entry, named⟩, removed, _⟩ := removal rfl ⟨_, opens⟩
  have located : files.locate .name (.ofText "q") =
      .ok ⟨["q"], files.get? ["q"]⟩ := rfl
  have last : names = ["q"] := by
    have same := named.symm.trans located
    simp only [Except.ok.injEq, Place.mk.injEq] at same
    exact same.1
  rw [last] at removed
  have call : b.callFor "q" site ⟨none, p, action⟩ =
      ⟨⟨none, p, action⟩, files, files, .ok .success⟩ := rfl
  rw [call] at calls removed
  exact ⟨formed, oneLine, admitted, calls, removed.mpr ⟨⟨.success, rfl, rfl⟩, rfl⟩⟩

end AccountSync
