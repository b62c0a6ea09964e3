import Kubauth.GoMap
import Kubauth.Proto

/-!
# Protection against brute force attacks

A failed login is answered after a delay that grows with the number of
failures.  While failures of a login are waiting, new requests for it are
refused.  The map of the protector holds pointers, so that a request goes on
using the state that it found even if the map changes.
-/

namespace Kubauth.Protector

structure LoginState where
  lastFailure : Int
  nbrOfFailure : Int
  pendingFailures : Int
  deriving Repr, DecidableEq, Inhabited

/-- A state that has just been allocated. -/
def LoginState.zero : LoginState :=
  { lastFailure := 0, nbrOfFailure := 0, pendingFailures := 0 }

/-- An `int64`. -/
def wrap64 (value : Int) : Int :=
  value.bmod (2 ^ 64)

/-- What counting a failure does to a state. -/
def LoginState.counted (now : Int) (state : LoginState) : LoginState :=
  { state with
    lastFailure := now
    nbrOfFailure := wrap64 (state.nbrOfFailure + 1) }

/-- The configuration of a protector.  Durations are in nanoseconds. -/
structure Settings where
  cleanDelay : Int
  freeFailure : Int
  maxPenalty : Int
  penaltyByFailure : Int
  maxPendingFailure : Int
  deriving Repr, DecidableEq, Inhabited

def second : Int := 1000000000

def defaultSettings : Settings :=
  { cleanDelay := 30 * 60 * second
    freeFailure := 4
    maxPenalty := 15 * second
    penaltyByFailure := second
    maxPendingFailure := 20 }

def unknownUser : String := "_unknownUser_"
def unknownToken : String := "_unknownToken_"

/-- `bfaProtector`.  `states` lists the login states in the order of their
allocation, and a pointer is an index into it. -/
structure BfaProtector where
  settings : Settings
  states : List LoginState
  stateByLogin : GoMap String Nat
  deriving Repr, DecidableEq, Inhabited

namespace BfaProtector

/-- `New` of an activated protector, once the options have been applied. -/
def new (settings : Settings) : BfaProtector :=
  { settings := settings
    states := []
    stateByLogin := [] }

/-- The pending failures that are read under a key. -/
def pendingFailures (protector : BfaProtector) (key : String) : Int :=
  match GoMap.get protector.stateByLogin key with
  | none => 0
  | some address => (protector.states[address]?.getD .zero).pendingFailures

/-- More failures are pending under the key than the settings allow. -/
def exceeded (protector : BfaProtector) (key : String) : Bool :=
  match GoMap.get protector.stateByLogin key with
  | none => false
  | some address =>
      match protector.states[address]? with
      | none => false
      | some state =>
          decide
            (state.pendingFailures > protector.settings.maxPendingFailure)

/-- Whether the login is locked. -/
def entryForLogin (protector : BfaProtector) (login : String) : Bool :=
  protector.exceeded login || protector.exceeded unknownUser

def entryForToken (protector : BfaProtector) : Bool :=
  protector.exceeded unknownToken

def delayFromFailureCount (protector : BfaProtector) (count : Int) : Int :=
  if count ≤ protector.settings.freeFailure then 0
  else
    let penalty := wrap64 (wrap64 (count - protector.settings.freeFailure) *
      protector.settings.penaltyByFailure)
    if penalty > protector.settings.maxPenalty then
      protector.settings.maxPenalty
    else penalty

/-- The state of a login, which is allocated when there is none. -/
def stateOf (protector : BfaProtector) (login : String) :
    BfaProtector × Nat :=
  match GoMap.get protector.stateByLogin login with
  | some address => (protector, address)
  | none =>
      let address := protector.states.length
      ({ protector with
         states := protector.states ++ [.zero]
         stateByLogin :=
           GoMap.set protector.stateByLogin login address },
        address)

def modifyState (protector : BfaProtector) (address : Nat)
    (change : LoginState → LoginState) : BfaProtector :=
  { protector with states := protector.states.modify address change }

/-- The part of `failure` that holds the mutex.  It returns the pointer that the
request goes on using, and the number of failures. -/
def countFailure (protector : BfaProtector) (now : Int) (login : String) :
    BfaProtector × Nat × Int :=
  let (found, address) := protector.stateOf login
  let counted := found.modifyState address (.counted now)
  (counted, address,
    (counted.states[address]?.getD default).nbrOfFailure)

/-- `pendingFailures.Add`, on the state that the request holds. -/
def addPending (protector : BfaProtector) (address : Nat) (delta : Int) :
    BfaProtector :=
  protector.modifyState address fun state =>
    { state with pendingFailures := state.pendingFailures + delta }

/-- The statuses for which `ProtectLoginResult` calls `failure`. -/
def penalises (status : Status) : Bool :=
  status = .passwordFail || status = .invalidOldPassword

def clean (protector : BfaProtector) (now : Int) : BfaProtector :=
  { protector with
    stateByLogin := protector.stateByLogin.filter fun entry =>
      let state := protector.states[entry.2]?.getD default
      !decide (state.lastFailure + protector.settings.cleanDelay < now) }

/-! ## What the operations change -/

theorem countFailure_known {protector : BfaProtector} {login : String}
    {address : Nat} (now : Int)
    (mapped : GoMap.get protector.stateByLogin login = some address) :
    (protector.countFailure now login).1 =
        protector.modifyState address (.counted now) ∧
      (protector.countFailure now login).2.1 = address := by
  simp [countFailure, stateOf, mapped]

theorem getElem?_concat_of_lt {states : List LoginState}
    (added : LoginState) {position : Nat} (late : states.length < position) :
    (states ++ [added])[position]? = none := by
  rw [List.getElem?_eq_none_iff, List.length_append, List.length_singleton]
  exact late

theorem countFailure_new {protector : BfaProtector} {login : String}
    (now : Int) (absent : GoMap.get protector.stateByLogin login = none) :
    (protector.countFailure now login).1 =
        { protector with
          states := protector.states ++ [LoginState.zero.counted now]
          stateByLogin := GoMap.set protector.stateByLogin login
            protector.states.length } ∧
      (protector.countFailure now login).2.1 = protector.states.length := by
  simp only [countFailure, stateOf, absent, modifyState, and_true]
  congr 1
  apply List.ext_getElem?
  intro position
  rw [List.getElem?_modify]
  rcases Nat.lt_trichotomy position protector.states.length with
    early | same | late
  · have different : protector.states.length ≠ position := by omega
    simp [different, List.getElem?_append_left early]
  · simp [same]
  · rw [getElem?_concat_of_lt _ late, getElem?_concat_of_lt _ late]
    rfl

theorem get_modifyState (protector : BfaProtector) (address other : Nat)
    (change : LoginState → LoginState) :
    (protector.modifyState address change).states[other]? =
      if address = other then (protector.states[other]?).map change
      else protector.states[other]? := by
  simp only [modifyState, List.getElem?_modify]
  split
  · simp
  · cases protector.states[other]? <;> simp

/-- Every pointer of the map is that of an allocated state. -/
def Allocated (protector : BfaProtector) : Prop :=
  ∀ login address,
    GoMap.get protector.stateByLogin login = some address →
    address < protector.states.length

theorem Allocated.exists_state {protector : BfaProtector}
    (allocated : protector.Allocated) {login : String} {address : Nat}
    (found : GoMap.get protector.stateByLogin login = some address) :
    ∃ state, protector.states[address]? = some state :=
  ⟨_, List.getElem?_eq_getElem (allocated login address found)⟩

theorem Allocated.modifyState {protector : BfaProtector}
    (allocated : protector.Allocated) (address : Nat)
    (change : LoginState → LoginState) :
    (protector.modifyState address change).Allocated := by
  intro login held found
  simpa [BfaProtector.modifyState] using allocated login held found

/-- What counting a failure of `login` on the state at `address` does.  The
pending failures of no state change, and a new state has none. -/
structure Counts (before : BfaProtector) (login : String)
    (after : BfaProtector) (address : Nat) : Prop where
  settings : after.settings = before.settings
  mapped : GoMap.get after.stateByLogin login = some address
  kept : ∀ name held, GoMap.get before.stateByLogin name = some held →
    GoMap.get after.stateByLogin name = some held
  others : ∀ name, name ≠ login →
    GoMap.get after.stateByLogin name = GoMap.get before.stateByLogin name
  distinct : (before.stateByLogin.map Prod.fst).Nodup →
    (after.stateByLogin.map Prod.fst).Nodup
  allocated : before.Allocated → after.Allocated
  found : GoMap.get before.stateByLogin login = some address ∧
      after.states.length = before.states.length ∨
    GoMap.get before.stateByLogin login = none ∧
      address = before.states.length ∧
      after.states.length = before.states.length + 1
  pendingFailures : ∀ other state, after.states[other]? = some state →
    (∃ old, before.states[other]? = some old ∧
        old.pendingFailures = state.pendingFailures) ∨
      other = before.states.length ∧ state.pendingFailures = 0

theorem countFailure_counts (protector : BfaProtector) (now : Int)
    (login : String) :
    protector.Counts login (protector.countFailure now login).1
      (protector.countFailure now login).2.1 := by
  cases mapped : GoMap.get protector.stateByLogin login with
  | some address =>
      obtain ⟨changed, same⟩ := countFailure_known now mapped
      rw [changed, same]
      refine ⟨rfl, mapped, fun _ _ => id, fun _ _ => rfl, id, ?_,
        .inl ⟨mapped, List.length_modify ..⟩, ?_⟩
      · intro allocated
        exact allocated.modifyState address _
      · intro other state found
        left
        rw [get_modifyState] at found
        split at found
        · obtain ⟨old, oldFound, rfl⟩ := Option.map_eq_some_iff.mp found
          exact ⟨old, oldFound, rfl⟩
        · exact ⟨state, found, rfl⟩
  | none =>
      obtain ⟨changed, same⟩ := countFailure_new now mapped
      rw [changed, same]
      refine ⟨rfl, GoMap.get_set_self _ _ _, ?_, ?_, ?_, ?_,
        .inr ⟨mapped, rfl, List.length_append ..⟩, ?_⟩
      · intro name held found
        have different : login ≠ name := by
          rintro rfl
          rw [mapped] at found
          cases found
        exact (GoMap.get_set_of_ne _ _ different).trans found
      · intro name different
        exact GoMap.get_set_of_ne _ _ different.symm
      · intro distinct
        exact (GoMap.nodup_keys_set distinct _ _).1
      · intro allocated name held found
        rw [GoMap.get_set] at found
        simp only [List.length_append, List.length_singleton]
        split at found
        · cases found
          omega
        · have old := allocated name held found
          omega
      · intro other state found
        rcases Nat.lt_trichotomy other protector.states.length with
          early | last | late
        · left
          rw [List.getElem?_append_left early] at found
          exact ⟨state, found, rfl⟩
        · right
          simp only [last, List.getElem?_concat_length] at found
          cases found
          exact ⟨last, rfl⟩
        · rw [getElem?_concat_of_lt _ late] at found
          cases found

theorem countFailure_elsewhere (protector : BfaProtector) (now : Int)
    (login : String) {other : Nat} (old : other < protector.states.length)
    (different : other ≠ (protector.countFailure now login).2.1) :
    (protector.countFailure now login).1.states[other]? =
      protector.states[other]? := by
  cases mapped : GoMap.get protector.stateByLogin login with
  | some address =>
      obtain ⟨changed, same⟩ := countFailure_known now mapped
      rw [same] at different
      rw [changed, get_modifyState, if_neg different.symm]
  | none =>
      obtain ⟨changed, -⟩ := countFailure_new now mapped
      rw [changed, List.getElem?_append_left old]

/-- The state that the map has for a login. -/
def state? (protector : BfaProtector) (login : String) : Option LoginState :=
  (GoMap.get protector.stateByLogin login).bind fun address =>
    protector.states[address]?

theorem countFailure_here {protector : BfaProtector}
    (allocated : protector.Allocated) (now : Int) (login : String) :
    ∃ old : LoginState,
      (protector.countFailure now login).1.states[
          (protector.countFailure now login).2.1]? =
        some (old.counted now) ∧
      (protector.countFailure now login).2.2 = (old.counted now).nbrOfFailure ∧
      old = (protector.state? login).getD .zero := by
  have number : (protector.countFailure now login).2.2 =
      ((protector.countFailure now login).1.states[
        (protector.countFailure now login).2.1]?.getD default).nbrOfFailure :=
    rfl
  cases mapped : GoMap.get protector.stateByLogin login with
  | some address =>
      obtain ⟨changed, same⟩ := countFailure_known now mapped
      obtain ⟨old, found⟩ := allocated.exists_state mapped
      have here : (protector.countFailure now login).1.states[
          (protector.countFailure now login).2.1]? =
            some (old.counted now) := by
        rw [changed, same, get_modifyState, if_pos rfl, found]
        rfl
      refine ⟨old, here, ?_, ?_⟩
      · rw [number, here]
        rfl
      · rw [state?, mapped, Option.bind_some, found]
        rfl
  | none =>
      obtain ⟨changed, same⟩ := countFailure_new now mapped
      have here : (protector.countFailure now login).1.states[
          (protector.countFailure now login).2.1]? =
            some (LoginState.zero.counted now) := by
        rw [changed, same]
        exact List.getElem?_concat_length
      refine ⟨.zero, here, ?_, ?_⟩
      · rw [number, here]
        rfl
      · rw [state?, mapped]
        rfl

end BfaProtector

end Kubauth.Protector
