import Kubauth.Protector.Failures
import Kubauth.Run

/-!
# What the pending failures of a login count

A login is locked by the counter of the entry that the map has for it.  An
execution that is pending on a state that the cleaner has dropped is not
counted there.  The counter is therefore exact as long as an execution joins
the state that the map still has, and the cleaner drops no entry on which
executions are pending.
-/

namespace Kubauth.Protector

variable {ι : Type}

/-- The executions of a login between their increment and their decrement. -/
def State.pendingOf (login : ι → String) (state : State ι) (name : String) :
    Set ι :=
  {execution | login execution = name ∧
    ∃ address delay, state.phase execution = .pending address delay}

/-- What is read for a login is the number of its pending executions. -/
def Exact (login : ι → String) (state : State ι) : Prop :=
  ∀ name,
    Tally (state.pendingOf login name) (state.protector.pendingFailures name) ∧
      0 ≤ state.protector.pendingFailures name

/-- An increment is made on the state that the map has for the login, and a
cleaning finds nobody pending on an entry that has not failed for a while. -/
def Timely (login : ι → String) (state : State ι) : Event ι → Prop
  | .increment execution =>
      ∀ address nbrOfFailure,
        state.phase execution = .counted address nbrOfFailure →
          GoMap.get state.protector.stateByLogin (login execution) =
            some address
  | .clean now =>
      ∀ execution address delay loginState,
        state.phase execution = .pending address delay →
        GoMap.get state.protector.stateByLogin (login execution) =
          some address →
        state.protector.states[address]? = some loginState →
          now ≤ loginState.lastFailure + state.protector.settings.cleanDelay
  | _ => True

/-! ## Pending executions and entries -/

/-- Nobody is pending on a state that the map has not. -/
def Current (login : ι → String) (state : State ι) : Prop :=
  ∀ execution address delay,
    state.phase execution = .pending address delay →
      GoMap.get state.protector.stateByLogin (login execution) = some address

section

variable {login : ι → String} {state : State ι}

theorem pendingFailures_of_absent {name : String}
    (absent : GoMap.get state.protector.stateByLogin name = none) :
    state.protector.pendingFailures name = 0 := by
  rw [BfaProtector.pendingFailures, absent]

theorem Linked.tally_pendingFailures (linked : Linked login state)
    {name : String} {address : Nat}
    (found : GoMap.get state.protector.stateByLogin name = some address) :
    Tally (state.pendingAt address)
      (state.protector.pendingFailures name) := by
  obtain ⟨loginState, held⟩ := linked.allocated.exists_state found
  have read : state.protector.pendingFailures name =
      loginState.pendingFailures := by
    rw [BfaProtector.pendingFailures, found]
    dsimp only
    rw [held]
    rfl
  rw [read]
  exact linked.tallied address loginState held

theorem Linked.pendingAt_subset (linked : Linked login state) {name : String}
    {address : Nat}
    (found : GoMap.get state.protector.stateByLogin name = some address) :
    state.pendingAt address ⊆ state.pendingOf login name := by
  rintro execution ⟨delay, pending⟩
  refine ⟨?_, address, delay, pending⟩
  exact linked.owned execution address name (by rw [pending]; rfl) found

/-- The executions that are pending elsewhere are what the counter misses. -/
theorem Linked.exact_iff_current (linked : Linked login state) :
    Exact login state ↔ Current login state := by
  constructor
  · intro exact execution address delay pending
    have member : execution ∈ state.pendingOf login (login execution) :=
      ⟨rfl, address, delay, pending⟩
    obtain ⟨tally, -⟩ := exact (login execution)
    cases found : GoMap.get state.protector.stateByLogin (login execution) with
    | none =>
        rw [pendingFailures_of_absent found] at tally
        rw [← tally.eq_of_subset (Set.empty_subset _) .empty] at member
        exact member.elim
    | some held =>
        -- The executions that are counted are as many as all that are pending.
        rw [← tally.eq_of_subset (linked.pendingAt_subset found)
          (linked.tally_pendingFailures found)] at member
        obtain ⟨other, there⟩ := member
        cases pending.symm.trans there
        rfl
  · intro current name
    have tally : Tally (state.pendingOf login name)
        (state.protector.pendingFailures name) := by
      cases found : GoMap.get state.protector.stateByLogin name with
      | none =>
          have nobody : state.pendingOf login name = ∅ := by
            rw [Set.eq_empty_iff_forall_notMem]
            rintro execution ⟨rfl, address, delay, pending⟩
            cases found.symm.trans (current execution address delay pending)
          rw [nobody, pendingFailures_of_absent found]
          exact .empty
      | some held =>
          have everybody : state.pendingAt held =
              state.pendingOf login name := by
            apply (linked.pendingAt_subset found).antisymm
            rintro execution ⟨rfl, address, delay, pending⟩
            cases found.symm.trans (current execution address delay pending)
            exact ⟨delay, pending⟩
          rw [← everybody]
          exact linked.tally_pendingFailures found
    exact ⟨tally, tally.nonneg⟩

theorem current_start (settings : Settings) (calls : ι → Call) :
    Current (fun execution => (calls execution).login)
      (State.start settings calls) := by
  intro execution address delay pending
  have free := (calls execution).address?_phase
  rw [show (calls execution).phase = .pending address delay from pending]
    at free
  cases free

end

section

variable [DecidableEq ι] {login : ι → String} {state : State ι}

/-- An execution that joins nothing changes nothing for the others. -/
theorem Current.advance (current : Current login state)
    {protector : BfaProtector} {execution : ι} {phase : Phase}
    (kept : ∀ name address,
      GoMap.get state.protector.stateByLogin name = some address →
      GoMap.get protector.stateByLogin name = some address)
    (own : ∀ address delay, phase = .pending address delay →
      GoMap.get protector.stateByLogin (login execution) = some address) :
    Current login (state.advance protector execution phase) := by
  intro other address delay pending
  rw [advance_phase] at pending
  split at pending
  · next same =>
      subst same
      exact own address delay pending
  · exact kept _ _ (current other address delay pending)

theorem Current.next_iff (current : Current login state)
    (linked : Linked login state) (event : Event ι) :
    Current login (state.next login event) ↔ Timely login state event := by
  cases event with
  | count execution now =>
      refine iff_of_true ?_ trivial
      rw [State.next]
      split
      · apply current.advance
        · exact (BfaProtector.countFailure_counts _ now _).kept
        · intro address delay pending
          cases pending
      · exact current
  | increment execution =>
      rw [State.next]
      split
      · next address nbrOfFailure counted =>
          constructor
          · intro after held number same
            cases counted.symm.trans same
            apply after execution address
              (state.protector.delayFromFailureCount nbrOfFailure)
            rw [advance_phase, if_pos rfl]
          · intro timely
            apply current.advance
            · exact fun _ _ => id
            · rintro joined delay ⟨⟩
              exact timely address nbrOfFailure counted
      · next elsewhere =>
          refine iff_of_true current ?_
          intro address nbrOfFailure counted
          exact absurd counted (elsewhere address nbrOfFailure)
  | decrement execution =>
      refine iff_of_true ?_ trivial
      rw [State.next]
      split
      · apply current.advance
        · exact fun _ _ => id
        · intro address delay pending
          cases pending
      · exact current
  | clean now =>
      constructor
      · intro after execution address delay loginState pending found held
        by_contra! late
        have dropped := linked.get_clean_of_late found held late
        cases dropped.symm.trans (after execution address delay pending)
      · intro timely execution address delay pending
        have found := current execution address delay pending
        obtain ⟨loginState, held⟩ := linked.allocated.exists_state found
        apply linked.get_clean_of_timely found held
        exact timely execution address delay loginState pending found held
  | entryForLogin name => exact iff_of_true current trivial
  | entryForToken => exact iff_of_true current trivial

/-- In every state of a run, what is read for a login is the number of its
pending executions, exactly if every step of the run is timely. -/
theorem pending_exact_iff (settings : Settings) (calls : ι → Call)
    (events : List (Event ι)) :
    let login := fun execution => (calls execution).login
    (∀ before, before <+: events →
      Exact login
        (before.foldl (State.next login) (State.start settings calls))) ↔
      ∀ before event, before ++ [event] <+: events →
        Timely login
          (before.foldl (State.next login) (State.start settings calls))
          event := by
  intro login
  apply Run.foldl_good_iff (Linked login) (linked_start settings calls)
  · intro state event linked
    exact linked.next event
  · exact (linked_start settings calls).exact_iff_current.mpr
      (current_start settings calls)
  · intro state event linked exact
    rw [(linked.next event).exact_iff_current]
    exact (linked.exact_iff_current.mp exact).next_iff linked event

end

/-- The entries are dropped after a second, and a failure costs ten. -/
def shortMemory : Settings :=
  { defaultSettings with
    cleanDelay := second
    freeFailure := 0
    penaltyByFailure := 10 * second }

/-- The cleaner comes while a failure is pending. -/
def cleanedWhilePending : List (Event Unit) :=
  [.count () 0, .increment (), .clean (2 * second)]

theorem pending_forgotten :
    let calls := fun _ : Unit => Call.protectLoginResult "alice" .passwordFail
    let login := fun execution => (calls execution).login
    let state := cleanedWhilePending.foldl (State.next login)
      (State.start shortMemory calls)
    state.phase () = .pending 0 (10 * second) ∧
      state.protector.pendingFailures "alice" = 0 ∧ ¬Exact login state := by
  intro calls login state
  have pending : state.phase () = .pending 0 (10 * second) := by decide
  have read : state.protector.pendingFailures "alice" = 0 := by decide
  refine ⟨pending, read, ?_⟩
  intro exact
  obtain ⟨tally, -⟩ := exact "alice"
  have member : () ∈ state.pendingOf login "alice" :=
    ⟨rfl, 0, 10 * second, pending⟩
  rw [read] at tally
  rw [← tally.eq_of_subset (Set.empty_subset _) .empty] at member
  exact member.elim

end Kubauth.Protector
