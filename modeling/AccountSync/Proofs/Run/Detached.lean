import AccountSync.Proofs.Directory.Operations
import AccountSync.Script

/-!
# Detached backends

A step is detached if it sees and changes no more than the memory of the collaborator, and logs. The
directory's backend is detached (`Directory.connect_detached`), and so is a scripted one without
effects (`Script.connect_detached`). A detached backend stays so if its requests are written down
(`recorded_detached`).
-/

namespace AccountSync

variable {σ α β : Type}

namespace Site

/-- The site after some events were logged and the collaborator's memory has changed. -/
def absorb (site : Site σ) (events : List Log.Event) (memory : σ) : Site σ where
  files := site.files
  log := site.log ++ events.map fun event => ⟨event, site.queueFile⟩
  stage := site.stage
  queueFile := site.queueFile
  peer := memory

theorem absorb_absorb (site : Site σ) (first second : List Log.Event) (memory after : σ) :
    (site.absorb first memory).absorb second after = site.absorb (first ++ second) after := by
  simp [absorb]

theorem absorb_nil (site : Site σ) : site.absorb [] site.peer = site := by
  simp [absorb]

end Site

/-- From each memory that is one of `memories`, the step has one result, which is `fitting`, logs the
same events and leaves the same memory, whatever the site. -/
def Act.Detached (memories : σ → Prop) (fitting : α → Prop) (x : Act σ α) : Prop :=
  ∀ memory, memories memory → ∃ result events after,
    (∀ site : Site σ, site.peer = memory → x.run site = (result, site.absorb events after)) ∧
      memories after ∧ ∀ a, result = .ok a → fitting a

structure Backend.Detached (memories : σ → Prop) (b : Backend σ) : Prop where
  perform : ∀ request, (b.perform request).Detached memories fun _ => True
  close : b.close.Detached memories fun _ => True

namespace Act.Detached

variable {memories : σ → Prop} {fitting : α → Prop} {fitting' : β → Prop}

theorem pure {a : α} (fits : fitting a) : Act.Detached memories fitting (Pure.pure a : Act σ α) := by
  refine fun memory known => ⟨.ok a, [], memory, ?_, known, ?_⟩
  · rintro site rfl
    rw [site.absorb_nil]
    rfl
  · rintro _ ⟨⟩
    exact fits

theorem throw (fault : Fault) : Act.Detached memories fitting (MonadExcept.throw fault : Act σ α) := by
  refine fun memory known => ⟨.error fault, [], memory, ?_, known, fun _ same => nomatch same⟩
  rintro site rfl
  rw [site.absorb_nil]
  rfl

theorem emit (event : Log.Event) : (Act.emit event : Act σ Unit).Detached memories fun _ => True := by
  refine fun memory known => ⟨.ok (), [event], memory, ?_, known, fun _ _ => trivial⟩
  rintro site rfl
  rfl

theorem bind {x : Act σ α} {f : α → Act σ β} (first : x.Detached memories fitting)
    (next : ∀ a, fitting a → (f a).Detached memories fitting') :
    (x >>= f).Detached memories fitting' := by
  intro memory known
  obtain ⟨result, events, between, ran, kept, fits⟩ := first memory known
  cases result with
  | error fault =>
    refine ⟨.error fault, events, between, ?_, kept, fun _ same => nomatch same⟩
    intro site at_
    rw [run_bind, ran site at_]
  | ok a =>
    obtain ⟨result, more, after, ran', kept', fits'⟩ := next a (fits a rfl) between kept
    refine ⟨result, events ++ more, after, ?_, kept', fits'⟩
    intro site at_
    rw [run_bind, ran site at_]
    exact (ran' _ rfl).trans (by rw [Site.absorb_absorb])

/-- A step may depend on the memory, and on nothing else of the site. -/
theorem get_bind {f : Site σ → Act σ α} (only : ∀ s t : Site σ, s.peer = t.peer → f s = f t)
    (each : ∀ site, memories site.peer → (f site).Detached memories fitting) :
    (get >>= f).Detached memories fitting := by
  intro memory known
  obtain ⟨result, events, after, ran, kept⟩ := each (.start (.empty []) memory) known memory known
  refine ⟨result, events, after, ?_, kept⟩
  intro site at_
  rw [← ran site at_, only (.start (.empty []) memory) site at_.symm]
  rfl

theorem modify {f : Site σ → Site σ} {g : σ → σ}
    (only : ∀ site, f site = { site with peer := g site.peer })
    (kept : ∀ memory, memories memory → memories (g memory)) :
    (modify f : Act σ Unit).Detached memories fun _ => True := by
  refine fun memory known => ⟨.ok (), [], g memory, ?_, kept memory known, fun _ _ => trivial⟩
  rintro site rfl
  change (Except.ok (), f site) = _
  rw [only]
  simp [Site.absorb]

end Act.Detached

/-! ### Recorded backends -/

/-- `x` with something beside the memory, which `x` neither sees nor changes. -/
def Act.aside {κ : Type} (x : Act σ α) : Act (κ × σ) α := fun site =>
  let ended := x.run { site with peer := site.peer.2 }
  (ended.1, { ended.2 with peer := (site.peer.1, ended.2.peer) })

/-- The backend that writes down what it is asked for. -/
def Backend.recorded (b : Backend σ) : Backend (List Request × σ) where
  perform request := do
    modify fun site => { site with peer := (site.peer.1 ++ [request], site.peer.2) }
    (b.perform request).aside
  close := b.close.aside

def recorded (factory : Act σ (Backend σ)) : Act (List Request × σ) (Backend (List Request × σ)) := do
  let backend ← factory.aside
  return backend.recorded

section

variable {κ : Type} {memories : σ → Prop} {fitting : α → Prop} {x : Act σ α}

theorem Act.Detached.aside (apart : x.Detached memories fitting) :
    (x.aside : Act (κ × σ) α).Detached (fun memory => memories memory.2) fitting := by
  intro memory known
  obtain ⟨result, events, after, ran, kept, fits⟩ := apart memory.2 known
  refine ⟨result, events, (memory.1, after), ?_, kept, fits⟩
  rintro site rfl
  change Act.aside x site = _
  unfold Act.aside
  rw [ran _ rfl]
  rfl

theorem Backend.Detached.recorded {b : Backend σ} (apart : b.Detached memories) :
    b.recorded.Detached fun memory => memories memory.2 where
  perform request := by
    let record (memory : List Request × σ) := (memory.1 ++ [request], memory.2)
    exact .bind (.modify (g := record) (fun _ => rfl) fun _ known => known) fun _ _ =>
      (apart.perform request).aside
  close := apart.close.aside

theorem recorded_detached {factory : Act σ (Backend σ)}
    (apart : factory.Detached memories (Backend.Detached memories)) :
    (recorded factory).Detached (fun memory => memories memory.2)
      (Backend.Detached fun memory => memories memory.2) :=
  .bind apart.aside fun _ fits => .pure fits.recorded

end

/-! ### The directory's backend -/

namespace Directory

/-- A step of the directory's backend, on whatever connection. -/
abbrev Apart (x : Act Connection α) : Prop := x.Detached (fun _ => True) fun _ => True

theorem readable_detached (read : Except Value.Fault α) : Apart (readable read) := by
  unfold readable
  split
  · exact .pure trivial
  · exact .throw _

theorem call_detached (op : Operation) : Apart (call op) := by
  intro memory _
  refine ⟨(memory.perform op).1.result, [], (memory.perform op).2, ?_, trivial, fun _ _ => trivial⟩
  rintro site rfl
  rw [run_call]
  simp [Site.absorb]

theorem lastAnswer_detached (config : Config) : Apart config.lastAnswer := by
  refine .get_bind (fun s t same => by simp only [same]) fun site _ => ?_
  refine .bind (readable_detached _) fun code _ => ?_
  split
  · exact .pure trivial
  · exact .bind (readable_detached _) fun _ _ => .pure trivial

theorem apply_detached (config : Config) (op : Operation) : Apart (config.apply op) := by
  refine .bind (call_detached op) fun outcome _ => ?_
  split
  · exact .pure trivial
  · exact lastAnswer_detached config

theorem findUser_detached (config : Config) (account : String) : Apart (config.findUser account) := by
  refine .bind (call_detached _) fun outcome _ => ?_
  split
  · exact .pure trivial
  refine .get_bind (fun s t same => by simp only [same]) fun site _ => ?_
  refine .bind (readable_detached _) fun code _ => ?_
  split
  · exact .bind (readable_detached _) fun _ _ => .pure trivial
  · refine .bind (readable_detached _) fun entries _ => ?_
    split
    · exact .pure trivial
    · exact .bind (readable_detached _) fun _ _ => .pure trivial

theorem changePassword_detached (config : Config) (principal : Principal) (password : String) :
    Apart (config.changePassword principal password) := by
  unfold Config.changePassword
  split
  · exact .pure trivial
  refine .bind (findUser_detached config _) fun found _ => ?_
  split
  · exact .pure trivial
  · exact apply_detached config _

theorem changeStatus_detached (config : Config) (principal : Principal) (enabled : Bool) :
    Apart (config.changeStatus principal enabled) := by
  unfold Config.changeStatus
  split
  · exact .pure trivial
  refine .bind (findUser_detached config _) fun found _ => ?_
  split
  · exact .pure trivial
  · dsimp only
    split
    · exact .bind (.emit _) fun _ _ => .pure trivial
    · exact .bind (readable_detached _) fun _ _ => apply_detached config _

theorem backend_detached (config : Config) : (backend config).Detached fun _ => True where
  perform request := by
    change Apart (config.perform request)
    unfold Config.perform
    split
    · exact changePassword_detached config _ _
    · exact changeStatus_detached config _ _
    · exact changeStatus_detached config _ _
  close := by
    refine .bind (call_detached _) fun outcome _ => ?_
    split
    · exact .pure trivial
    · exact .emit _

theorem connect_detached (endpoint : Endpoint) (config : Config) :
    (connect endpoint config).Detached (fun _ => True) (Backend.Detached fun _ => True) := by
  let ask (c : Connection) : Connection := { c with endpoints := c.endpoints ++ [endpoint] }
  refine .bind (.modify (g := ask) (fun _ => rfl) fun _ _ => trivial) fun _ _ => ?_
  refine .bind (call_detached _) fun outcome _ => ?_
  split
  · exact .throw _
  · split
    · exact .bind (.emit _) fun _ _ => .pure (backend_detached config)
    · refine .get_bind (fun s t same => by simp only [same]) fun site _ => ?_
      exact .bind (readable_detached _) fun _ _ => .throw _

end Directory

/-! ### Scripted backends -/

namespace Script

/-- Scripts whose replies have no effects. -/
def Still (s : Script) : Prop := ∀ reply ∈ s.replies, reply.effects = []

theorem Still.take {s : Script} (still : s.Still) (request : Request) :
    (s.take request).1.effects = [] ∧ (s.take request).2.Still := by
  unfold Script.take
  unfold Still at still
  split
  · exact ⟨rfl, still⟩
  · next reply rest replies =>
    rw [replies] at still
    exact ⟨still reply List.mem_cons_self,
      fun other member => still other (List.mem_cons_of_mem _ member)⟩

theorem respond_detached (drain : String → Act Script Queue.Record) (request : Request) :
    (respond drain request).Detached Still fun _ => True := by
  refine .get_bind (fun s t same => by simp only [same]) fun site still => ?_
  obtain ⟨effects, rest⟩ := still.take request
  generalize site.peer.take request = taken at effects rest
  refine .bind (.modify (g := fun _ => taken.2) (fun _ => rfl) fun _ _ => rest) fun _ _ => ?_
  have idle : (taken.1.effects.forM (runEffect drain)).Detached Still fun _ => True := by
    rw [effects]
    exact .pure trivial
  refine .bind idle fun _ _ => ?_
  split
  · exact .throw _
  · exact .pure trivial

theorem closeOne_detached : closeOne.Detached Still fun _ => True := by
  let count (s : Script) : Script := { s with closed := s.closed + 1 }
  exact .modify (g := count) (fun _ => rfl) fun _ still => still

theorem backend_detached (realm : Option String) (lineLimit : Int) (depth : Nat) :
    (backend realm lineLimit depth).Detached Still := by
  cases depth with
  | zero => exact ⟨fun request => respond_detached _ request, closeOne_detached⟩
  | succ depth => exact ⟨fun request => respond_detached _ request, closeOne_detached⟩

theorem connect_detached (realm : Option String) (lineLimit : Int) (depth : Nat)
    (error : Option String) :
    (connect realm lineLimit depth error).Detached Still (Backend.Detached Still) := by
  unfold connect
  split
  · exact .throw _
  · let note (s : Script) : Script := { s with opened := s.opened ++ [realm] }
    refine .bind (.modify (g := note) (fun _ => rfl) fun _ still => still) fun _ _ => ?_
    exact .pure (backend_detached realm lineLimit depth)

end Script

end AccountSync
