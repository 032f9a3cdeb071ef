import AccountSync.Proofs.CommandLine.Commands
import AccountSync.Proofs.Run.Accomplished
import AccountSync.Proofs.Run.Logged

/-!
# Requests for a user

The actions of a request are carried out one after the other, up to the first call that does not
succeed: it decides the result, and each call before it has left one notice (`route_immediate`).
Notices are counted for backends that log none of their own, as that of the directory
(`Directory.discreet_backend`).
-/

namespace AccountSync

variable {σ α β : Type}

/-! ### Notices of success -/

def Log.Event.isSuccess (event : Event) : Bool :=
  event.name = "ad_password_change_succeeded" || event.name = "ad_status_change_succeeded"

/-- The notices of success among records: their names and fields. -/
def Log.successes (records : List Record) : List (String × List (String × Field)) :=
  (records.filter fun record => record.event.isSuccess).map fun record =>
    (record.event.name, record.event.fields)

/-- The notice that is due for a call, with the user as it was written. -/
def Call.success (user : String) (call : Call) : String × List (String × Log.Field) :=
  match call.request.action with
  | .password _ => ("ad_password_change_succeeded", [("user", .text user)])
  | .enable => ("ad_status_change_succeeded", [("user", .text user), ("enabled", .flag true)])
  | .disable => ("ad_status_change_succeeded", [("user", .text user), ("enabled", .flag false)])

theorem Log.successes_append (first second : List Record) :
    successes (first ++ second) = successes first ++ successes second := by
  simp [successes]

theorem Call.successes_notice (user : String) (call : Call) (queueFile : Option String) :
    Log.successes [⟨call.request.action.notice user, queueFile⟩] = [call.success user] := by
  unfold Call.success
  cases call.request.action with
  | password secret => rfl
  | enable => rfl
  | disable => rfl

/-- The step logs no notice of success. -/
def Act.Discreet (x : Act σ α) : Prop :=
  ∀ site, Log.successes (x.run site).2.log = Log.successes site.log

def Backend.Discreet (b : Backend σ) : Prop := ∀ request, (b.perform request).Discreet

theorem Act.Logs.discreet {x : Act σ α} (logs : x.Logs fun event => event.isSuccess = false) :
    x.Discreet := by
  intro site
  obtain ⟨records, log, others⟩ := logs site
  have none : Log.successes records = [] := by
    unfold Log.successes
    rw [List.filter_eq_nil_iff.mpr fun record member => by simp [others record member], List.map_nil]
  rw [log, Log.successes_append, none, List.append_nil]

theorem Directory.discreet_backend (config : Config) : (backend config).Discreet := fun request =>
  (logs_perform (fun _ _ => by simp [Log.Event.isSuccess, Log.Event.name]) config request).discreet

/-! ### Calls in turn -/

/-- What becomes of a request with this call: it goes on, or stops for this fault. -/
def Call.verdict (user : String) (call : Call) : Except Fault Unit :=
  match call.result with
  | .ok answer =>
    if answer.status = 0 then .ok ()
    else .error (.failure
      (.backendRefused call.request.action.operation user answer.status answer.message))
  | .error fault => .error fault

theorem Call.accepted_iff (user : String) (call : Call) :
    call.accepted ↔ call.verdict user = .ok () := by
  unfold Call.accepted Call.verdict Answer.isOk
  cases call.result with
  | error fault => simp
  | ok answer => by_cases zero : answer.status = 0 <;> simp [zero]

/-- Calls for actions, one after the other. A call that does not succeed is the last one. -/
inductive InTurn (realm : Option String) (principal : Principal) (user : String) :
    List Action → List Call → Except Fault Unit → Prop where
  | done : InTurn realm principal user [] [] (.ok ())
  | stopped {action rest call fault} (asked : call.request = ⟨realm, principal, action⟩)
    (fails : call.verdict user = .error fault) :
    InTurn realm principal user (action :: rest) [call] (.error fault)
  | onward {action rest call calls result} (asked : call.request = ⟨realm, principal, action⟩)
    (succeeds : call.verdict user = .ok ()) (next : InTurn realm principal user rest calls result) :
    InTurn realm principal user (action :: rest) (call :: calls) result

namespace InTurn

variable {realm : Option String} {principal : Principal} {user : String} {actions : List Action}
  {calls : List Call} {result : Except Fault Unit}

/-- The requests are those of the actions up to the first whose call failed. -/
theorem requests (turns : InTurn realm principal user actions calls result) :
    let failing := calls.findIdx? fun call => !call.accepted
    calls.map (fun call => call.request) =
      (actions.take (failing.elim actions.length (· + 1))).map fun action =>
        ⟨realm, principal, action⟩ := by
  induction turns with
  | done => rfl
  | @stopped action rest call fault asked fails =>
    have refused : call.accepted = false := by
      simpa [fails] using call.accepted_iff user
    simp [List.findIdx?_cons, refused, asked]
  | @onward action rest call calls result asked succeeds next ih =>
    have accepted : call.accepted = true := (call.accepted_iff user).mpr succeeds
    dsimp only at ih ⊢
    rw [List.findIdx?_cons, accepted, List.map_cons, asked, ih]
    cases calls.findIdx? fun call => !call.accepted with
    | none => simp
    | some failing => simp

theorem returned_iff (turns : InTurn realm principal user actions calls result) :
    result = .ok () ↔ ∀ call ∈ calls, call.accepted := by
  induction turns with
  | done => simp
  | stopped asked fails =>
    simp [Call.accepted_iff user, fails]
  | onward asked succeeds next ih =>
    rw [ih, List.forall_mem_cons]
    simp [Call.accepted_iff user, succeeds]

theorem result_eq (turns : InTurn realm principal user actions calls result) :
    result = calls.getLast?.elim (.ok ()) (Call.verdict user) := by
  induction turns with
  | done => rfl
  | stopped asked fails => exact fails.symm
  | onward asked succeeds next ih =>
    cases next with
    | done => exact succeeds.symm
    | stopped => exact ih
    | onward => exact ih

end InTurn

/-- The notices of the calls that succeeded. -/
def Call.successes (user : String) (calls : List Call) : List (String × List (String × Log.Field)) :=
  (calls.filter fun call => call.accepted).map (Call.success user)

/-- What one action does: it makes one call, and logs its notice if the call succeeds. -/
theorem run_dispatch_watched (b : Backend σ) (realm : Option String) (principal : Principal)
    (action : Action) (user : String) (site : Site (Journal × σ)) :
    ∃ call, call.request = ⟨realm, principal, action⟩ ∧
      let ran := (dispatch b.watched realm principal action user).run site
      ran.1 = call.verdict user ∧ ran.2.peer.1 = site.peer.1.call [call] ∧
        (b.Discreet →
          Log.successes ran.2.log = Log.successes site.log ++ Call.successes user [call]) := by
  let request : Request := ⟨realm, principal, action⟩
  have quiet (discreet : b.Discreet) := discreet request site.forget
  have performed := b.run_watched_eq request site
  generalize (b.perform request).run site.forget = ended at quiet performed
  obtain ⟨result, after⟩ := ended
  let call : Call := ⟨request, site.files, after.files, result⟩
  refine ⟨call, rfl, ?_⟩
  rw [run_dispatch, performed]
  cases result with
  | error fault =>
    refine ⟨rfl, rfl, fun discreet => ?_⟩
    exact (quiet discreet).trans (List.append_nil _).symm
  | ok answer =>
    by_cases zero : answer.status = 0
    · have accepted : answer.isOk := by simpa [Answer.isOk] using zero
      have goesOn : call.verdict user = .ok () := if_pos zero
      have due : Call.successes user [call] = [call.success user] := by
        simp [Call.successes, (call.accepted_iff user).mpr goesOn]
      dsimp only
      rw [goesOn, due, if_pos accepted]
      refine ⟨rfl, rfl, fun discreet => ?_⟩
      change Log.successes (after.log ++ [⟨call.request.action.notice user, after.queueFile⟩]) = _
      rw [Log.successes_append, quiet discreet, call.successes_notice user]
      rfl
    · have refused : ¬ answer.isOk := by simpa [Answer.isOk] using zero
      have stops : call.verdict user = .error (.failure
        (.backendRefused action.operation user answer.status answer.message)) := if_neg zero
      have due : Call.successes user [call] = [] := by
        have fails : ¬ call.accepted := refused
        simp [Call.successes, fails]
      dsimp only
      rw [stops, due, if_neg refused]
      refine ⟨rfl, rfl, fun discreet => ?_⟩
      exact (quiet discreet).trans (List.append_nil _).symm

/-- By induction on the actions, each of which is carried out only if the one before it was. -/
theorem run_dispatches_watched (b : Backend σ) (realm : Option String) (principal : Principal)
    (actions : List Action) (user : String) (site : Site (Journal × σ)) :
    ∃ calls,
      let ran := (actions.forM fun action => dispatch b.watched realm principal action user).run site
      InTurn realm principal user actions calls ran.1 ∧ ran.2.peer.1 = site.peer.1.call calls ∧
        (b.Discreet →
          Log.successes ran.2.log = Log.successes site.log ++ Call.successes user calls) := by
  induction actions generalizing site with
  | nil =>
    refine ⟨[], .done, ?_, fun _ => ?_⟩
    · change site.peer.1 = _
      simp [Journal.call]
    · exact (List.append_nil _).symm
  | cons action rest ih =>
    obtain ⟨call, asked, decided, journal, noted⟩ :=
      run_dispatch_watched b realm principal action user site
    dsimp only
    rw [List.forM, Act.run_bind]
    generalize (dispatch b.watched realm principal action user).run site = ran
      at decided journal noted
    obtain ⟨result, after⟩ := ran
    dsimp only at decided journal noted
    cases result with
    | error fault => exact ⟨[call], .stopped asked decided.symm, journal, noted⟩
    | ok _ =>
      obtain ⟨calls, turns, journal', noted'⟩ := ih after
      refine ⟨call :: calls, .onward asked decided.symm turns, ?_, fun discreet => ?_⟩
      · rw [journal', journal]
        simp [Journal.call]
      · rw [noted' discreet, noted discreet, List.append_assoc]
        have together : Call.successes user ([call] ++ calls) = _ :=
          (congrArg (List.map (Call.success user)) (List.filter_append ..)).trans List.map_append
        exact congrArg _ together.symm

/-- A request for a user: if the user is no principal, nothing is asked. Otherwise its actions are
asked for in order, a password before a status and all for that principal, up to the first whose call
does not succeed. That call's fault is the result, and without such a call the request returns. The
notices are those of the calls that succeeded, one for each. -/
theorem route_immediate {optionsFirst : Bool} {words : List String} {user : String}
    {actions : List Action}
    (accepted : CommandLine.parse optionsFirst words = .ok (.immediate user actions))
    (b : Backend σ) (realm : Option String) (limit : Int) (site : Site σ) :
    let ran := (route b.watched realm limit (.immediate user actions)).run site.watched
    let calls := ran.2.peer.1.made
    (route b realm limit (.immediate user actions)).run site = (ran.1, ran.2.forget) ∧
      (∃ secret enabled, actions = CommandLine.requested secret enabled) ∧
      (∀ why, Principal.parse realm user = .error why →
        calls = [] ∧ ran = (.error (.failure (.badPrincipal user why)), site.watched)) ∧
      ∀ principal, Principal.parse realm user = .ok principal →
        let failing := calls.findIdx? fun call => !call.accepted
        let count := failing.elim actions.length (· + 1)
        calls.map (fun call => call.request) =
            (actions.take count).map (fun action => ⟨realm, principal, action⟩) ∧
          (ran.1 = .ok () ↔ ∀ call ∈ calls, call.accepted) ∧
          ran.1 = calls.getLast?.elim (.ok ()) (Call.verdict user) ∧
          (b.Discreet →
            Log.successes ran.2.log = Log.successes site.log ++ Call.successes user calls) := by
  intro ran calls
  have ordered : ∃ secret enabled, actions = CommandLine.requested secret enabled := by
    obtain ⟨_, _, ⟨⟩⟩ | ⟨r, _, judged⟩ := CommandLine.parse_eq_iff.mp accepted
    cases judged with
    | @immediate _ secret enabled _ => exact ⟨secret, enabled, rfl⟩
  refine ⟨follows_route (follows_watched b) realm limit _ site.watched, ordered, ?_, ?_⟩
  · intro why unparsed
    have stopped : ran = (.error (.failure (.badPrincipal user why)), site.watched) := by
      change (route b.watched realm limit (.immediate user actions)).run site.watched = _
      rw [route, Act.run_bind, run_resolve, unparsed]
    refine ⟨?_, stopped⟩
    change ran.2.peer.1.made = []
    rw [stopped]
    rfl
  · intro principal parsed
    have begun : ran = (actions.forM fun action =>
        dispatch b.watched realm principal action user).run site.watched := by
      change (route b.watched realm limit (.immediate user actions)).run site.watched = _
      rw [route, Act.run_bind, run_resolve, parsed]
    obtain ⟨made, turns, journal, noted⟩ :=
      run_dispatches_watched b realm principal actions user site.watched
    rw [← begun] at turns journal noted
    have same : calls = made := by
      change ran.2.peer.1.made = made
      rw [journal]
      exact Journal.made_call made
    rw [same]
    exact ⟨turns.requests, turns.returned_iff, turns.result_eq, noted⟩

/-- The directory changes the password, but refuses to disable the account. -/
theorem route_immediate_refused :
    let b := Directory.backend ⟨"B", none, 80⟩
    let secret : Password := ⟨"pw", by decide⟩
    let actions := [.password secret, .disable]
    let principal : Principal := ⟨["u"], "R"⟩
    let c : Directory.Connection :=
      { Directory.Connection.start [("u", ⟨"D", .list []⟩)] with
        modify := [.answered (some (.map [("result", .integer 50)])) none (.flag false)] }
    let ran := (route b.watched (some "R") 8 (.immediate "u" actions)).run
      (Site.start ⟨[], [], none⟩ c).watched
    CommandLine.parse false ["-p", "pw", "-d", "u"] = .ok (.immediate "u" actions) ∧
      Principal.parse (some "R") "u" = .ok principal ∧ b.Discreet ∧
      ran.2.peer.1.made.map (fun call => call.request) =
        [⟨some "R", principal, .password secret⟩, ⟨some "R", principal, .disable⟩] ∧
      ran.1 ≠ .ok () ∧
      Log.successes ran.2.log = [("ad_password_change_succeeded", [("user", .text "u")])] := by
  intro b secret actions principal c ran
  have accepted : CommandLine.parse false ["-p", "pw", "-d", "u"] = .ok (.immediate "u" actions) := by
    decide
  have parsed : Principal.parse (some "R") "u" = .ok principal := by decide
  have discreet : b.Discreet := Directory.discreet_backend ⟨"B", none, 80⟩
  have routed := route_immediate accepted b (some "R") 8 (.start ⟨[], [], none⟩ c)
  have same : (route b.watched (some "R") 8 (.immediate "u" actions)).run
    (Site.start ⟨[], [], none⟩ c).watched = ran := rfl
  rw [same] at routed
  have second : (ran.2.peer.1.made.findIdx? fun call => !call.accepted) = some 1 := by
    decide +kernel
  have refused : ¬ ∀ call ∈ ran.2.peer.1.made, call.accepted := by decide +kernel
  have due : Call.successes "u" ran.2.peer.1.made =
    [("ad_password_change_succeeded", [("user", .text "u")])] := by decide +kernel
  -- from here on, the run is not to be computed
  clear_value ran
  obtain ⟨_, _, _, goes⟩ := routed
  obtain ⟨requests, returned, _, noted⟩ := goes principal parsed
  rw [second] at requests
  exact ⟨accepted, parsed, discreet, requests, mt returned.mp refused, (noted discreet).trans due⟩

end AccountSync
