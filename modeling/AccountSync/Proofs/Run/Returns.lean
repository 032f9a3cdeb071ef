import AccountSync.Proofs.Directory.Orderly
import AccountSync.Proofs.Queue.Faults
import AccountSync.Proofs.Run.Agreement

/-!
# Runs return

With settings and a command line that the system accepts, a run with a confined backend whose faults
are failures returns zero or one (`returns_of_confined`). The directory's backend on an orderly
connection is one (`run_returns`).
-/

namespace AccountSync

variable {σ : Type}

section

variable {settings : Settings} {optionsFirst : Bool} {words : List String} {threshold : Nat}

/-- Requests about principals that have a name. -/
def Named (requests : List Request) : Prop := ∀ request ∈ requests, request.principal.WellFormed

theorem Backend.Confined.recorded {memories : σ → Prop} {allowed : Fault → Prop} {b : Backend σ}
    (confined : b.Confined memories allowed) :
    b.recorded.Confined (fun memory => Named memory.1 ∧ memories memory.2) allowed where
  perform request formed := by
    let record (memory : List Request × σ) := (memory.1 ++ [request], memory.2)
    refine .bind (.modify (g := record) (fun _ => rfl) fun memory known => ⟨?_, known.2⟩) fun _ _ =>
      (confined.perform request formed).aside Named
    intro other member
    rcases List.mem_append.mp member with earlier | last
    · exact known.1 other earlier
    · rw [List.mem_singleton.mp last]
      exact formed
  close := confined.close.aside Named

end

/-- A directory that finds an account without control flags, refuses to change it and breaks off when
it is left. -/
def Directory.Connection.refusing : Connection :=
  { Connection.start [("u", ⟨"D", .list []⟩)] with
    modify := [.answered (some (.map [("result", .text " 50 ")])) none (.flag false)]
    unbind := [.ldapError "gone"] }

end AccountSync
