import AccountSync.Proofs.Drain.Images

/-!
# Journals of runs

A journal tells which drains a run made, which calls each of them made and which drains were started
during each call, all with the files before and after. It is kept beside what the collaborator
remembers. Main statement: a run that keeps one leaves what it leaves without
(`attempts_forget`).
-/

namespace AccountSync

variable {σ α : Type}

structure Visit where
  file : String
  found : Files
  left : Files
  result : Except Fault Queue.Record

structure Call where
  request : Request
  given : Files
  taken : Files
  result : Except Fault Answer

/-- A drain with its calls, each with the drains that were started during it. -/
inductive Activation where
  | mk (visit : Visit) (calls : List (Call × List Activation))

namespace Activation

def visit : Activation → Visit
  | mk visit _ => visit

def calls : Activation → List (Call × List Activation)
  | mk _ calls => calls

/-- The files before and after each stretch of a drain between its calls. -/
def stretches (found left : Files) : List (Call × List Activation) → List (Files × Files)
  | [] => [(found, left)]
  | (call, _) :: calls => (found, call.given) :: stretches call.taken left calls

/-- The drain itself, not its backend, changed the files. -/
def Unlinks (a : Activation) : Prop :=
  ∃ stretch ∈ stretches a.visit.found a.visit.left a.calls, stretch.1 ≠ stretch.2

def Reentered (a : Activation) : Prop := ∃ call inner, (call, inner) ∈ a.calls ∧ inner ≠ []

/-- An activation is among some, or was started during one of them, at any depth. -/
inductive Occurs (a : Activation) : List Activation → Prop where
  | here {drains} (member : a ∈ drains) : Occurs a drains
  | inside {drains outer call inner} (member : outer ∈ drains) (made : (call, inner) ∈ outer.calls)
    (within : Occurs a inner) : Occurs a drains

theorem occurs_nil {a : Activation} : ¬ Occurs a [] := by
  rintro (member | ⟨member, -, -⟩)
  · exact List.not_mem_nil member
  · exact List.not_mem_nil member

theorem occurs_append {a : Activation} {first second : List Activation} :
    Occurs a (first ++ second) ↔ Occurs a first ∨ Occurs a second := by
  constructor
  · rintro (member | ⟨member, made, within⟩)
    · exact (List.mem_append.mp member).imp .here .here
    · exact (List.mem_append.mp member).imp (.inside · made within) (.inside · made within)
  · rintro ((member | ⟨member, made, within⟩) | (member | ⟨member, made, within⟩))
    · exact .here (List.mem_append_left _ member)
    · exact .inside (List.mem_append_left _ member) made within
    · exact .here (List.mem_append_right _ member)
    · exact .inside (List.mem_append_right _ member) made within

end Activation

structure Journal where
  drains : List Activation
  calls : List (Call × List Activation)

namespace Journal

def empty : Journal := ⟨[], []⟩

end Journal

/-! ### Keeping a journal -/

namespace Site

def blank (site : Site (Journal × σ)) : Site (Journal × σ) :=
  { site with peer := (.empty, site.peer.2) }

def forget (site : Site (Journal × σ)) : Site σ := { site with peer := site.peer.2 }

def watched (site : Site σ) : Site (Journal × σ) := { site with peer := (.empty, site.peer) }

end Site

def watchDrain (file : String) (x : Act (Journal × σ) Queue.Record) :
    Act (Journal × σ) Queue.Record := fun site =>
  let ended := x.run site.blank
  let visit : Visit := ⟨file, site.files, ended.2.files, ended.1⟩
  let journal : Journal :=
    { site.peer.1 with drains := site.peer.1.drains ++ [.mk visit ended.2.peer.1.calls] }
  (ended.1, { ended.2 with peer := (journal, ended.2.peer.2) })

def watchCall (request : Request) (x : Act (Journal × σ) Answer) : Act (Journal × σ) Answer := fun site =>
  let ended := x.run site.blank
  let call : Call := ⟨request, site.files, ended.2.files, ended.1⟩
  let journal : Journal :=
    { site.peer.1 with calls := site.peer.1.calls ++ [(call, ended.2.peer.1.drains)] }
  (ended.1, { ended.2 with peer := (journal, ended.2.peer.2) })

/-- `x` where a journal is kept. -/
def Act.unwatched (x : Act σ α) : Act (Journal × σ) α := fun site =>
  let ended := x.run site.forget
  (ended.1, { ended.2 with peer := (site.peer.1, ended.2.peer) })

def Backend.watched (b : Backend σ) : Backend (Journal × σ) where
  perform request := watchCall request (b.perform request).unwatched
  close := b.close.unwatched

/-- A drain to come, and what happens to the files before it. -/
structure Attempt where
  before : Files → Files
  file : String

namespace Controller

def attempt (c : Controller (Journal × σ)) (site : Site (Journal × σ)) (a : Attempt) :
    Site (Journal × σ) :=
  ((watchDrain a.file (c.drain a.file)).run { site with files := a.before site.files }).2

def activation (c : Controller (Journal × σ)) (site : Site (Journal × σ)) (a : Attempt) : Activation :=
  let started : Site (Journal × σ) := { site with files := a.before site.files }
  let ended := (c.drain a.file).run started.blank
  .mk ⟨a.file, started.files, ended.2.files, ended.1⟩ ended.2.peer.1.calls

theorem drains_attempt (c : Controller (Journal × σ)) (site : Site (Journal × σ)) (a : Attempt) :
    (c.attempt site a).peer.1.drains = site.peer.1.drains ++ [c.activation site a] := rfl

def attempts (c : Controller (Journal × σ)) (site : Site (Journal × σ)) (plan : List Attempt) :
    Site (Journal × σ) :=
  plan.foldl c.attempt site

def leave (c : Controller σ) (site : Site σ) (a : Attempt) : Site σ :=
  ((c.drain a.file).run { site with files := a.before site.files }).2

end Controller

/-! ### The journal changes nothing -/

/-- `x` does what `y` does, and keeps a journal. -/
def Follows (x : Act (Journal × σ) α) (y : Act σ α) : Prop :=
  ∀ site, y.run site.forget = (x.run site).map id Site.forget

theorem follows_unwatched (x : Act σ α) : Follows x.unwatched x := fun _ => rfl

theorem follows_watchDrain {file : String} {x : Act (Journal × σ) Queue.Record} {y : Act σ Queue.Record}
    (follows : Follows x y) : Follows (watchDrain file x) y := fun site => follows site.blank

theorem follows_watchCall {request : Request} {x : Act (Journal × σ) Answer} {y : Act σ Answer}
    (follows : Follows x y) : Follows (watchCall request x) y := fun site => follows site.blank

theorem transparent_forget : Site.Transparent (Site.forget : Site (Journal × σ) → Site σ) :=
  transparent_beside

theorem follows_drain {b : Backend (Journal × σ)} {b' : Backend σ}
    (follows : ∀ request, Follows (b.perform request) (b'.perform request)) (realm : Option String)
    (limit : Int) (file : String) :
    Follows (Controller.drain ⟨b, realm, limit⟩ file) (Controller.drain ⟨b', realm, limit⟩ file) :=
  through_drain transparent_forget follows realm limit file

theorem follows_watched (b : Backend σ) (request : Request) :
    Follows (b.watched.perform request) (b.perform request) :=
  follows_watchCall (follows_unwatched _)

/-- What a call does, and what the journal says of it. -/
theorem Backend.run_watched (b : Backend σ) {request : Request} {site after : Site (Journal × σ)}
    {outcome : Except Fault Answer} (run : (b.watched.perform request).run site = (outcome, after)) :
    let ended := (b.perform request).run site.forget
    outcome = ended.1 ∧ after.files = ended.2.files ∧ after.stage = ended.2.stage ∧
      after.peer.1.calls =
        site.peer.1.calls ++ [(⟨request, site.files, ended.2.files, ended.1⟩, [])] := by
  cases run
  exact ⟨rfl, rfl, rfl, rfl⟩

theorem attempts_forget {b : Backend (Journal × σ)} {b' : Backend σ}
    (follows : ∀ request, Follows (b.perform request) (b'.perform request)) (realm : Option String)
    (limit : Int) (plan : List Attempt) (site : Site (Journal × σ)) :
    (Controller.attempts ⟨b, realm, limit⟩ site plan).forget =
      plan.foldl (Controller.leave ⟨b', realm, limit⟩) site.forget := by
  induction plan generalizing site with
  | nil => rfl
  | cons planned rest ih =>
    have drained : Follows (watchDrain planned.file (Controller.drain ⟨b, realm, limit⟩ _))
        (Controller.drain ⟨b', realm, limit⟩ planned.file) :=
      follows_watchDrain (follows_drain follows realm limit planned.file)
    have same := congrArg Prod.snd (drained { site with files := planned.before site.files })
    exact (ih _).trans (congrArg (rest.foldl _) same.symm)

end AccountSync
