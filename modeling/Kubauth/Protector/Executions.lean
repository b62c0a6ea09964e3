import Kubauth.Protector.Bfa
import Kubauth.Tally

/-!
# Executions of `failure`

An execution counts its failure under the mutex, joins the pending failures of
the state that it found, sleeps, and leaves them.  Any number of executions are
at different points of this at once.  However they interleave, the counter of a
state is the number of executions that have joined it and not left.
-/

namespace Kubauth.Protector

/-- How far a request has come.  A request that has counted its failure holds
a pointer to the state of its login. -/
inductive Phase where
  | arrived
  | entered
  | failed
  | counted (address : Nat) (nbrOfFailure : Int)
  | pending (address : Nat) (delay : Int)
  | answered (status : Nat)
  deriving Repr, DecidableEq

/-- The state of the login that the request holds. -/
def Phase.address? : Phase → Option Nat
  | .counted address _ | .pending address _ => some address
  | _ => none

/-- The protector, and how far each request has come. -/
structure State (ι : Type) where
  protector : BfaProtector
  phase : ι → Phase

variable {ι : Type} [DecidableEq ι]

def State.advance (state : State ι) (protector : BfaProtector) (request : ι)
    (phase : Phase) : State ι :=
  { protector := protector
    phase := Function.update state.phase request phase }

/-- The requests that have joined the pending failures of a state. -/
def State.pendingAt (state : State ι) (address : Nat) : Set ι :=
  {request | ∃ delay, state.phase request = .pending address delay}

theorem advance_phase (state : State ι) (protector : BfaProtector)
    (request other : ι) (phase : Phase) :
    (state.advance protector request phase).phase other =
      if other = request then phase else state.phase other :=
  Function.update_apply state.phase request phase other

theorem pendingAt_advance (state : State ι) (protector : BfaProtector)
    (request : ι) (phase : Phase) (address : Nat) :
    (state.advance protector request phase).pendingAt address =
      {other | if other = request then
          ∃ delay, phase = .pending address delay
        else other ∈ state.pendingAt address} := by
  ext other
  simp only [State.pendingAt, Set.mem_ofPred_eq, advance_phase]
  split <;> rfl

section

variable {state : State ι} {request : ι} {phase : Phase}
  {protector : BfaProtector}

/-- A step of a request that stays out of the pending failures leaves them as
they were. -/
theorem pendingAt_unchanged
    (before : ∀ address delay, state.phase request ≠ .pending address delay)
    (after : ∀ address delay, phase ≠ .pending address delay)
    (address : Nat) :
    (state.advance protector request phase).pendingAt address =
      state.pendingAt address := by
  rw [pendingAt_advance]
  ext other
  simp only [Set.mem_ofPred_eq]
  split
  · next same =>
      subst same
      constructor
      · rintro ⟨delay, pending⟩
        exact absurd pending (after address delay)
      · rintro ⟨delay, pending⟩
        exact absurd pending (before address delay)
  · rfl

theorem pendingAt_joined {joined : Nat} {delay : Int}
    (before : ∀ address delay, state.phase request ≠ .pending address delay)
    (address : Nat) :
    (state.advance protector request (.pending joined delay)).pendingAt
        address =
      if joined = address then insert request (state.pendingAt address)
      else state.pendingAt address := by
  have outside : request ∉ state.pendingAt address := by
    rintro ⟨delay, pending⟩
    exact before address delay pending
  rw [pendingAt_advance]
  ext other
  by_cases joins : joined = address
  · rw [if_pos joins, Set.mem_insert_iff]
    by_cases same : other = request
    · simp [same, joins]
    · simp [same]
  · rw [if_neg joins]
    by_cases same : other = request
    · subst same
      simp [joins, outside]
    · simp [same]

theorem pendingAt_left
    (after : ∀ address delay, phase ≠ .pending address delay)
    (address : Nat) :
    (state.advance protector request phase).pendingAt address =
      state.pendingAt address \ {request} := by
  rw [pendingAt_advance]
  ext other
  by_cases same : other = request
  · simp [same, after]
  · simp [same]

/-! ## Counters -/

/-- The counters agree with the requests. -/
def Tallied (state : State ι) : Prop :=
  ∀ address loginState,
    state.protector.states[address]? = some loginState →
    Tally (state.pendingAt address) loginState.pendingFailures

theorem Tallied.of_protector_kept (tallied : Tallied state)
    (before : ∀ address delay, state.phase request ≠ .pending address delay)
    (after : ∀ address delay, phase ≠ .pending address delay) :
    Tallied (state.advance state.protector request phase) := by
  intro address loginState found
  rw [pendingAt_unchanged before after]
  exact tallied address loginState found

theorem Tallied.counted (tallied : Tallied state) {login : String}
    {address : Nat} (failed : state.phase request = .failed)
    (counts : state.protector.Counts login protector address)
    (unheld : state.pendingAt state.protector.states.length = ∅)
    (nbrOfFailure : Int) :
    Tallied
      (state.advance protector request (.counted address nbrOfFailure)) := by
  intro other loginState found
  rw [pendingAt_unchanged (by simp [failed]) (by simp)]
  rcases counts.pendingFailures other loginState found with
    ⟨old, oldFound, same⟩ | ⟨rfl, zero⟩
  · rw [← same]
    exact tallied other old oldFound
  · rw [unheld, zero]
    exact .empty

omit [DecidableEq ι] in
private theorem tally_addPending (tallied : Tallied state)
    {address : Nat} {delta : Int} {members : Nat → Set ι}
    (own : ∀ count, Tally (state.pendingAt address) count →
      Tally (members address) (count + delta))
    (others : ∀ other, address ≠ other →
      members other = state.pendingAt other)
    (other : Nat) (loginState : LoginState)
    (found : (state.protector.addPending address delta).states[other]? =
      some loginState) :
    Tally (members other) loginState.pendingFailures := by
  rw [BfaProtector.addPending, BfaProtector.get_modifyState] at found
  split at found
  · next same =>
      subst same
      obtain ⟨old, oldFound, rfl⟩ := Option.map_eq_some_iff.mp found
      exact own _ (tallied address old oldFound)
  · next different =>
      rw [others other different]
      exact tallied other loginState found

theorem Tallied.joined (tallied : Tallied state) {address : Nat}
    {nbrOfFailure : Int}
    (counted : state.phase request = .counted address nbrOfFailure)
    (delay : Int) :
    Tallied (state.advance (state.protector.addPending address 1) request
      (.pending address delay)) := by
  have outside : request ∉ state.pendingAt address := by
    rintro ⟨delay, pending⟩
    rw [counted] at pending
    cases pending
  apply tally_addPending tallied
  · intro count tally
    rw [pendingAt_joined (by simp [counted]), if_pos rfl]
    exact tally.insert outside
  · intro other different
    rw [pendingAt_joined (by simp [counted]), if_neg different]

theorem Tallied.left (tallied : Tallied state) {address : Nat} {delay : Int}
    (pending : state.phase request = .pending address delay) (status : Nat) :
    Tallied (state.advance (state.protector.addPending address (-1)) request
      (.answered status)) := by
  apply tally_addPending tallied
  · intro count tally
    rw [pendingAt_left (by simp)]
    exact tally.remove ⟨delay, pending⟩
  · intro other different
    rw [pendingAt_left (by simp)]
    apply Set.sdiff_singleton_eq_self
    rintro ⟨otherDelay, elsewhere⟩
    rw [pending] at elsewhere
    cases elsewhere
    exact different rfl

end

end Kubauth.Protector
