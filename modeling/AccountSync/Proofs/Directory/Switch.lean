import AccountSync.Proofs.Directory.Machine
import AccountSync.Proofs.Directory.Orderly

/-!
# Switching an account on or off

A search that fails changes nothing in the directory (`run_changeStatus_failing`). Once a change of
status is made (`Knows.run_changeStatus`), the same change finds the flags as it wants them
(`toggled_toggled`) and writes nothing more.
-/

namespace AccountSync.Directory

/-! ### A change that was made before -/

theorem toggled_toggled (enabled : Bool) (flags : Int) :
    toggled enabled (toggled enabled flags) = toggled enabled flags := by
  rw [← setDisabled_eq, ← setDisabled_eq]
  exact if_pos (isDisabled_setDisabled (!enabled) flags)

/-- The directory after the account with these flags is switched on or off. -/
def switched (enabled : Bool) (account : Account) (flags : Int)
    (directory : List (String × Account)) : List (String × Account) :=
  if toggled enabled flags = flags then directory
  else rewritten account.dn (toggled enabled flags) directory

/-- What is written to the directory for it. -/
def switches (enabled : Bool) (account : Account) (flags : Int) : List Operation :=
  if toggled enabled flags = flags then []
  else [.modify (.text account.dn) [toString (toggled enabled flags)]]

theorem switched_toggled (enabled : Bool) (account : Account) (flags : Int)
    (directory : List (String × Account)) :
    switched enabled account (toggled enabled flags) directory = directory :=
  if_pos (toggled_toggled enabled flags)

theorem switches_toggled (enabled : Bool) (account : Account) (flags : Int) :
    switches enabled account (toggled enabled flags) = [] :=
  if_pos (toggled_toggled enabled flags)

/-- The directory has this account, with these flags, under the name. -/
structure Knows (directory : List (String × Account)) (name : String) (account : Account)
    (flags : Int) : Prop where
  sound : Sound directory
  found : directory.lookup name = some account
  read : readFlags account.control = .ok flags

section

variable {directory : List (String × Account)} {name : String} {account : Account} {flags : Int}

theorem exists_knows (names : (directory.map fun named => named.1).Nodup)
    (dns : (directory.map fun named => named.2.dn).Nodup)
    (readable : ∀ named ∈ directory, ∃ flags, readFlags named.2.control = .ok flags ∧
      (Nat.toDigits 10 flags.natAbs).length < Text.maxDigits)
    (present : directory.lookup name = some account) : ∃ flags, Knows directory name account flags := by
  have sound : Sound directory := by
    refine ⟨names, dns, fun named member => ?_⟩
    obtain ⟨flags, read, short⟩ := readable named member
    exact ⟨flags, read, Bounded.of_digits short⟩
  obtain ⟨flags, read, _⟩ := sound.readFlags_of_lookup present
  exact ⟨flags, sound, present, read⟩

namespace Knows

theorem bounded (knows : Knows directory name account flags) : Bounded flags := by
  obtain ⟨read, same, bounded, _⟩ := knows.sound.readFlags_of_lookup knows.found
  rw [knows.read] at same
  cases same
  exact bounded

theorem switched (knows : Knows directory name account flags) (enabled : Bool) :
    ∃ later, Knows (switched enabled account flags directory) name later (toggled enabled flags) := by
  unfold Directory.switched
  split
  · next same =>
    rw [same]
    exact ⟨account, knows⟩
  · have bounded := knows.bounded.toggled enabled
    refine ⟨{ account with control := .list [.text (toString (toggled enabled flags))] },
      knows.sound.rewritten bounded account.dn, ?_, bounded.readFlags⟩
    rw [rewritten, lookup_map, knows.found, Option.map_some, store_same]

end Knows

end

/-! ### A search that fails -/

/-- The directory answers with the code of an error, or breaks off with an error of its own. -/
def Reply.Failing : Reply → Prop
  | .ldapError _ => True
  | .raised _ => False
  | .answered none _ _ => False
  | .answered (some result) _ _ => ∃ code, resultCode result = .ok code ∧ code ≠ 0

theorem isResult_of_code {result : Value} {code : Int} (coded : resultCode result = .ok code) :
    IsResult result := by
  cases result with
  | map members =>
    refine ⟨members, rfl, fun value member => ⟨code, ?_⟩⟩
    simp only [resultCode, Value.member?, bind, Except.bind, member] at coded
    exact coded
  | _ => cases coded

theorem Connection.perform_search {c : Connection} {reply : Reply} {rest : List Reply}
    (prepared : c.search = reply :: rest) (base filter : String) :
    c.perform (.search base filter) =
      ({ c with search := rest, operations := c.operations ++ [.search base filter] } :
        Connection).follow reply := by
  unfold perform
  simp only [replies, prepared]
  rfl

theorem isOk_refuse (config : Config) {code : Int} (failed : code ≠ 0) (message : String) :
    (config.refuse code message).isOk = false := by
  simp [Config.refuse, Answer.isOk, failed]

section

variable (config : Config) {principal : Principal} {name : String} {site : Site Connection}

theorem run_findUser_failing {reply : Reply} {rest : List Reply}
    (prepared : site.peer.search = reply :: rest) (failing : reply.Failing) (name : String) :
    ∃ answer peer, (config.findUser name).run site = (.ok (.error answer), { site with peer }) ∧
      answer.isOk = false ∧ peer = { site.peer with
        search := rest
        operations := site.peer.operations ++ [.search config.baseDn (userFilter name)]
        result := peer.result
        response := peer.response } := by
  unfold Config.findUser
  rw [Act.run_bind, run_call, Connection.perform_search prepared]
  cases reply with
  | ldapError text => exact ⟨_, _, rfl, isOk_refuse config (by decide) text, rfl⟩
  | raised text => exact failing.elim
  | answered result response returned =>
    cases result with
    | none => exact failing.elim
    | some result =>
      obtain ⟨code, coded, failed⟩ := failing
      obtain ⟨text, described⟩ := (isResult_of_code coded).describe
      refine ⟨config.refuse code text,
        { site.peer with
          search := rest
          operations := site.peer.operations ++ [.search config.baseDn (userFilter name)]
          result := result
          response := response.getD site.peer.response },
        ?_, isOk_refuse config failed text, rfl⟩
      simp only [Outcome.result, Connection.follow, Option.getD_some]
      rw [run_get_bind, run_readable_bind coded, if_pos failed, run_readable_bind described]
      rfl

theorem run_changeStatus_failing {reply : Reply} {rest : List Reply}
    (prepared : site.peer.search = reply :: rest) (failing : reply.Failing)
    (mapped : config.account? principal = some name) (enabled : Bool) :
    ∃ answer peer, (config.changeStatus principal enabled).run site = (.ok answer, { site with peer }) ∧
      answer.isOk = false ∧ peer = { site.peer with
        search := rest
        operations := site.peer.operations ++ [.search config.baseDn (userFilter name)]
        result := peer.result
        response := peer.response } := by
  obtain ⟨answer, peer, found, refused, frame⟩ := run_findUser_failing config prepared failing name
  refine ⟨answer, peer, ?_, refused, frame⟩
  unfold Config.changeStatus
  rw [mapped]
  dsimp only
  rw [Act.run_bind, found]
  rfl

/-! ### A search that finds the account -/

theorem Knows.run_changeStatus {directory : List (String × Account)} {account : Account} {flags : Int}
    (knows : Knows directory name account flags) (serves : Serves directory site.peer)
    (mapped : config.account? principal = some name) (enabled : Bool) :
    ∃ log peer, (config.changeStatus principal enabled).run site =
        (.ok .success, { site with log, peer }) ∧
      Serves (Directory.switched enabled account flags directory) peer ∧
      peer.operations = site.peer.operations ++
        .search config.baseDn (userFilter name) :: switches enabled account flags := by
  have answers : config.changeStatus principal enabled =
      config.withUser principal (config.proceed (.status principal enabled)) :=
    answer_eq config (.status principal enabled)
  have searched := serves.served_search config.baseDn (userFilter name)
  rw [answers, run_withUser_present mapped serves knows.sound knows.found knows.read, proceed_status]
  unfold Directory.switched switches
  by_cases same : toggled enabled flags = flags
  · rw [if_pos same, if_pos same, if_pos same]
    exact ⟨_, _, rfl, searched, operations_served _ _⟩
  · rw [if_neg same, if_neg same, if_neg same,
      run_readable_bind (knows.bounded.toggled enabled).writeInteger]
    refine ⟨_, _, run_apply config searched.modify rfl, searched.served_modify _ _, ?_⟩
    rw [operations_served, operations_served, List.append_assoc]
    rfl

end

end AccountSync.Directory
