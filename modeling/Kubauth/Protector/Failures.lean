import Kubauth.Protector.Executions

/-!
# Runs of the protector

Callers report failed logins and unknown tokens, ask for entry, and the cleaner
drops the entries that have not failed for a while.  All of this interleaves
freely.  An execution keeps its pointer while the cleaner drops the entry that
it came from, so the map and the executions agree on less than one would
expect: an entry is held by executions of its own login only, and its counter
is the number of those that are pending on it.
-/

namespace Kubauth.Protector

/-- The calls that may run `failure`. -/
inductive Call where
  | protectLoginResult (login : String) (status : Status)
  | tokenNotFound
  deriving Repr, DecidableEq

/-- The login that `failure` is called with. -/
def Call.login : Call → String
  | .protectLoginResult login _ => login
  | .tokenNotFound => unknownToken

/-- A call whose status is not penalised returns at once. -/
def Call.phase : Call → Phase
  | .protectLoginResult _ status =>
      if BfaProtector.penalises status then .failed else .answered 200
  | .tokenNotFound => .failed

theorem Call.address?_phase (call : Call) : call.phase.address? = none := by
  cases call with
  | protectLoginResult login status =>
      rw [Call.phase]
      split
      · rfl
      · rfl
  | tokenNotFound => rfl

/-- The steps of the executions and of the other callers. -/
inductive Event (ι : Type) where
  | count (execution : ι) (now : Int)
  | increment (execution : ι)
  | decrement (execution : ι)
  | clean (now : Int)
  | entryForLogin (login : String)
  | entryForToken
  deriving Repr, DecidableEq

variable {ι : Type}

/-- Nothing has happened yet. -/
def State.start (settings : Settings) (calls : ι → Call) : State ι :=
  { protector := .new settings
    phase := fun execution => (calls execution).phase }

/-! ## Entries and executions -/

section

variable {login : ι → String} {state : State ι}

/-- The state of an entry is shared with executions of the same login only. -/
structure Linked (login : ι → String) (state : State ι) : Prop where
  distinct : (state.protector.stateByLogin.map Prod.fst).Nodup
  allocated : state.protector.Allocated
  held : ∀ execution address,
    (state.phase execution).address? = some address →
      address < state.protector.states.length
  separate : ∀ first second address,
    GoMap.get state.protector.stateByLogin first = some address →
    GoMap.get state.protector.stateByLogin second = some address →
      first = second
  owned : ∀ execution address name,
    (state.phase execution).address? = some address →
    GoMap.get state.protector.stateByLogin name = some address →
      login execution = name
  tallied : Tallied state

theorem linked_start (settings : Settings) (calls : ι → Call) :
    Linked (fun execution => (calls execution).login)
      (State.start settings calls) where
  distinct := List.nodup_nil
  allocated := by
    intro name address found
    cases found
  held := by
    intro execution address held
    cases (calls execution).address?_phase.symm.trans held
  separate := by
    intro first second address found
    cases found
  owned := by
    intro execution address name held found
    cases found
  tallied := by
    intro address loginState found
    cases found

namespace Linked

theorem pendingAt_length (linked : Linked login state) :
    state.pendingAt state.protector.states.length = ∅ := by
  rw [Set.eq_empty_iff_forall_notMem]
  rintro execution ⟨delay, pending⟩
  have bound := linked.held execution _ (by rw [pending]; rfl)
  exact Nat.lt_irrefl _ bound

/-- The state on which a failure is counted belongs to no other login. -/
theorem counts_separate (linked : Linked login state)
    {protector : BfaProtector} {address : Nat} {name other : String}
    (counts : state.protector.Counts name protector address)
    (found : GoMap.get protector.stateByLogin other = some address) :
    other = name := by
  by_contra different
  rw [counts.others other different] at found
  obtain ⟨mapped, -⟩ | ⟨-, rfl, -⟩ := counts.found
  · exact different (linked.separate other name address found mapped)
  · exact Nat.lt_irrefl _ (linked.allocated other _ found)

theorem counts_owned (linked : Linked login state)
    {protector : BfaProtector} {address : Nat} {name : String} {execution : ι}
    (counts : state.protector.Counts name protector address)
    (held : (state.phase execution).address? = some address) :
    login execution = name := by
  obtain ⟨mapped, -⟩ | ⟨-, rfl, -⟩ := counts.found
  · exact linked.owned execution address name held mapped
  · exact absurd (linked.held execution _ held) (Nat.lt_irrefl _)

theorem get_clean (linked : Linked login state) (now : Int) (name : String) :
    GoMap.get (state.protector.clean now).stateByLogin name =
      (GoMap.get state.protector.stateByLogin name).filter fun address =>
        !decide ((state.protector.states[address]?.getD
          default).lastFailure + state.protector.settings.cleanDelay < now) :=
  GoMap.get_filter linked.distinct _ name

section

variable {now : Int} {name : String} {address : Nat} {loginState : LoginState}

theorem get_clean_of_late (linked : Linked login state)
    (found : GoMap.get state.protector.stateByLogin name = some address)
    (held : state.protector.states[address]? = some loginState)
    (late : loginState.lastFailure + state.protector.settings.cleanDelay <
      now) :
    GoMap.get (state.protector.clean now).stateByLogin name = none := by
  rw [linked.get_clean, found, Option.filter_some, held]
  simp [late]

theorem get_clean_of_timely (linked : Linked login state)
    (found : GoMap.get state.protector.stateByLogin name = some address)
    (held : state.protector.states[address]? = some loginState)
    (timely : now ≤
      loginState.lastFailure + state.protector.settings.cleanDelay) :
    GoMap.get (state.protector.clean now).stateByLogin name =
      some address := by
  rw [linked.get_clean, found, Option.filter_some, held]
  simp [timely]

theorem get_of_get_clean (linked : Linked login state)
    (found : GoMap.get (state.protector.clean now).stateByLogin name =
      some address) :
    GoMap.get state.protector.stateByLogin name = some address := by
  rw [linked.get_clean] at found
  exact Option.eq_some_of_filter_eq_some found

end

theorem cleaned (linked : Linked login state) (now : Int) :
    Linked login { state with protector := state.protector.clean now } where
  distinct := linked.distinct.sublist (List.filter_sublist.map Prod.fst)
  allocated := by
    intro name address found
    exact linked.allocated name address (linked.get_of_get_clean found)
  held := linked.held
  separate := by
    intro first second address firstFound secondFound
    exact linked.separate first second address
      (linked.get_of_get_clean firstFound)
      (linked.get_of_get_clean secondFound)
  owned := by
    intro execution address name holds found
    exact linked.owned execution address name holds
      (linked.get_of_get_clean found)
  tallied := linked.tallied

end Linked

end

/-! ## Steps -/

section

variable [DecidableEq ι]

/-- The state after an event.  An execution that is not at the point of the
event stays where it is. -/
def State.next (login : ι → String) (state : State ι) : Event ι → State ι
  | .count execution now =>
      match state.phase execution with
      | .failed =>
          let counted :=
            state.protector.countFailure now (login execution)
          state.advance counted.1 execution (.counted counted.2.1 counted.2.2)
      | _ => state
  | .increment execution =>
      match state.phase execution with
      | .counted address nbrOfFailure =>
          state.advance (state.protector.addPending address 1) execution
            (.pending address
              (state.protector.delayFromFailureCount nbrOfFailure))
      | _ => state
  | .decrement execution =>
      match state.phase execution with
      | .pending address _ =>
          state.advance (state.protector.addPending address (-1)) execution
            (.answered 200)
      | _ => state
  | .clean now => { state with protector := state.protector.clean now }
  | .entryForLogin _ => state
  | .entryForToken => state

variable {login : ι → String} {state : State ι}

theorem State.next_cases {motive : State ι → Prop} (event : Event ι)
    (idle : motive state)
    (count : ∀ execution now, event = .count execution now →
      state.phase execution = .failed →
      motive (state.advance
        (state.protector.countFailure now (login execution)).1 execution
        (.counted (state.protector.countFailure now (login execution)).2.1
          (state.protector.countFailure now (login execution)).2.2)))
    (increment : ∀ execution address nbrOfFailure,
      event = .increment execution →
      state.phase execution = .counted address nbrOfFailure →
      motive (state.advance (state.protector.addPending address 1) execution
        (.pending address
          (state.protector.delayFromFailureCount nbrOfFailure))))
    (decrement : ∀ execution address delay, event = .decrement execution →
      state.phase execution = .pending address delay →
      motive (state.advance (state.protector.addPending address (-1)) execution
        (.answered 200)))
    (clean : ∀ now, event = .clean now →
      motive { state with protector := state.protector.clean now }) :
    motive (state.next login event) := by
  cases event with
  | count execution now =>
      rw [State.next]
      split
      · next failed => exact count execution now rfl failed
      · exact idle
  | increment execution =>
      rw [State.next]
      split
      · next address nbrOfFailure counted =>
          exact increment execution address nbrOfFailure rfl counted
      · exact idle
  | decrement execution =>
      rw [State.next]
      split
      · next address delay pending =>
          exact decrement execution address delay rfl pending
      · exact idle
  | clean now => exact clean now rfl
  | entryForLogin name => exact idle
  | entryForToken => exact idle

theorem State.settings_next (event : Event ι) :
    (state.next login event).protector.settings = state.protector.settings := by
  apply @State.next_cases _ _ login state fun after =>
    after.protector.settings = state.protector.settings
  · rfl
  · intro execution now _ _
    exact (BfaProtector.countFailure_counts _ now _).settings
  · intros
    rfl
  · intros
    rfl
  · intros
    rfl

theorem State.settings_foldl (events : List (Event ι)) :
    (events.foldl (State.next login) state).protector.settings =
      state.protector.settings := by
  induction events generalizing state with
  | nil => rfl
  | cons event events induction =>
      exact induction.trans (State.settings_next event)

namespace Linked

variable {execution : ι} {protector : BfaProtector} {address : Nat}

theorem counted (linked : Linked login state)
    (failed : state.phase execution = .failed)
    (counts : state.protector.Counts (login execution) protector address)
    (nbrOfFailure : Int) :
    Linked login
      (state.advance protector execution (.counted address nbrOfFailure)) where
  distinct := counts.distinct linked.distinct
  allocated := counts.allocated linked.allocated
  held := by
    intro other held holds
    rw [advance_phase] at holds
    split at holds
    · cases holds
      exact counts.allocated linked.allocated _ _ counts.mapped
    · have bound := linked.held other held holds
      obtain ⟨-, same⟩ | ⟨-, -, longer⟩ := counts.found
      · exact same ▸ bound
      · exact longer ▸ Nat.lt_succ_of_lt bound
  separate := by
    intro first second shared firstFound secondFound
    by_cases own : shared = address
    · subst own
      have firstOwn := linked.counts_separate counts firstFound
      have secondOwn := linked.counts_separate counts secondFound
      exact firstOwn.trans secondOwn.symm
    · have older : ∀ name,
          GoMap.get protector.stateByLogin name = some shared →
            GoMap.get state.protector.stateByLogin name = some shared := by
        intro name found
        have different : name ≠ login execution := by
          rintro rfl
          exact own (Option.some.inj (found.symm.trans counts.mapped))
        exact (counts.others name different).symm.trans found
      exact linked.separate first second shared (older first firstFound)
        (older second secondFound)
  owned := by
    intro other held name holds found
    rw [advance_phase] at holds
    split at holds
    · next same =>
        subst same
        cases holds
        exact (linked.counts_separate counts found).symm
    · by_cases own : name = login execution
      · subst own
        cases counts.mapped.symm.trans found
        exact linked.counts_owned counts holds
      · have older := (counts.others name own).symm.trans found
        exact linked.owned other held name holds older
  tallied := linked.tallied.counted failed counts linked.pendingAt_length
    nbrOfFailure

theorem addPending (linked : Linked login state) (delta : Int) {phase : Phase}
    (same : ∀ kept, phase.address? = some kept →
      (state.phase execution).address? = some kept)
    (tallied : Tallied (state.advance
      (state.protector.addPending address delta) execution phase)) :
    Linked login (state.advance (state.protector.addPending address delta)
      execution phase) := by
  have older : ∀ other kept,
      ((state.advance (state.protector.addPending address delta) execution
        phase).phase other).address? = some kept →
      (state.phase other).address? = some kept := by
    intro other kept holds
    rw [advance_phase] at holds
    split at holds
    · next equal => exact equal ▸ same kept holds
    · exact holds
  refine ⟨linked.distinct, linked.allocated.modifyState address _, ?_,
    linked.separate, ?_, tallied⟩
  · intro other kept holds
    have bound := linked.held other kept (older other kept holds)
    exact (List.length_modify ..).symm ▸ bound
  · intro other kept name holds found
    exact linked.owned other kept name (older other kept holds) found

theorem next (linked : Linked login state) (event : Event ι) :
    Linked login (state.next login event) := by
  apply State.next_cases event linked
  · intro execution now _ failed
    exact linked.counted failed
      (BfaProtector.countFailure_counts _ now (login execution)) _
  · intro execution address nbrOfFailure _ counted
    refine linked.addPending 1 ?_ (linked.tallied.joined counted _)
    rintro kept ⟨⟩
    rw [counted]
    rfl
  · intro execution address delay _ pending
    refine linked.addPending (-1) ?_ (linked.tallied.left pending 200)
    rintro kept ⟨⟩
  · intro now _
    exact linked.cleaned now

theorem foldl (linked : Linked login state) (events : List (Event ι)) :
    Linked login (events.foldl (State.next login) state) := by
  induction events generalizing state with
  | nil => exact linked
  | cons event events induction => exact induction (linked.next event)

end Linked

end

end Kubauth.Protector
