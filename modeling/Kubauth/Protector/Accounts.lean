import Kubauth.Protector.Failures

/-!
# The account of a login

All that the protector knows about one login is its account: when the login
failed last and how often, how far the executions for it have come, and which
of them hold the state that the map has.  The pointers themselves are left out.
The account of a login moves by itself, and what is answered for the login is
read from it.  So the map of the protector is no more than a collection of
accounts that share the clock of the cleaner.
-/

namespace Kubauth.Protector

/-- How far an execution has come, as the account sees it: in place of the
pointer, whether the map has the state that it points to. -/
inductive Standing where
  | idle
  | failed
  | counted (current : Bool) (nbrOfFailure : Int)
  | pending (current : Bool) (delay : Int)
  deriving Repr, DecidableEq

/-- The standing of an execution when the map has `entry` for its login. -/
def Phase.standing (entry : Option Nat) : Phase → Standing
  | .failed => .failed
  | .counted address nbrOfFailure =>
      .counted (entry = some address) nbrOfFailure
  | .pending address delay => .pending (entry = some address) delay
  | .arrived | .entered | .answered _ => .idle

/-- The entry is gone. -/
def Standing.dropped : Standing → Standing
  | .counted _ nbrOfFailure => .counted false nbrOfFailure
  | .pending _ delay => .pending false delay
  | standing => standing

/-- The account of a login.  The entry has the time of the last failure and the
number of failures. -/
@[ext] structure Account (ι : Type) where
  entry : Option (Int × Int)
  standing : ι → Standing

def LoginState.stamp (state : LoginState) : Int × Int :=
  (state.lastFailure, state.nbrOfFailure)

variable {ι : Type}

def State.account (login : ι → String) (name : String) (state : State ι) :
    Account ι :=
  { entry := (state.protector.state? name).map LoginState.stamp
    standing := fun execution =>
      if login execution = name then
        (state.phase execution).standing
          (GoMap.get state.protector.stateByLogin name)
      else .idle }

/-- What an event does to an account. -/
def Account.next [DecidableEq ι] (settings : Settings) (account : Account ι) :
    Event ι → Account ι
  | .count execution now =>
      match account.standing execution with
      | .failed =>
          let nbrOfFailure := wrap64 ((account.entry.map Prod.snd).getD 0 + 1)
          { entry := some (now, nbrOfFailure)
            standing := Function.update account.standing execution
              (.counted true nbrOfFailure) }
      | _ => account
  | .increment execution =>
      match account.standing execution with
      | .counted current nbrOfFailure =>
          { account with
            standing := Function.update account.standing execution
              (.pending current
                ((BfaProtector.new settings).delayFromFailureCount
                  nbrOfFailure)) }
      | _ => account
  | .decrement execution =>
      match account.standing execution with
      | .pending _ _ =>
          { account with
            standing := Function.update account.standing execution .idle }
      | _ => account
  | .clean now =>
      match account.entry with
      | none => account
      | some (lastFailure, _) =>
          if lastFailure + settings.cleanDelay < now then
            { entry := none
              standing := fun execution =>
                (account.standing execution).dropped }
          else account
  | .entryForLogin _ => account
  | .entryForToken => account

/-- The executions that are counted for the login. -/
def Account.waiting (account : Account ι) : Set ι :=
  {execution | ∃ delay, account.standing execution = .pending true delay}

/-- Too many are waiting. -/
def Account.Exceeded (settings : Settings) (account : Account ι) : Prop :=
  account.entry ≠ none ∧
    ∃ count, Tally account.waiting count ∧ settings.maxPendingFailure < count

/-! ## What is read -/

section

variable {login : ι → String} {state : State ι} {name : String}

theorem Linked.account_entry (linked : Linked login state) {address : Nat}
    (found : GoMap.get state.protector.stateByLogin name = some address) :
    ∃ loginState, state.protector.states[address]? = some loginState ∧
      (state.account login name).entry = some loginState.stamp := by
  obtain ⟨loginState, held⟩ := linked.allocated.exists_state found
  refine ⟨loginState, held, ?_⟩
  dsimp only [State.account, BfaProtector.state?]
  rw [found, Option.bind_some, held]
  rfl

theorem account_entry_of_absent
    (absent : GoMap.get state.protector.stateByLogin name = none) :
    (state.account login name).entry = none := by
  dsimp only [State.account, BfaProtector.state?]
  rw [absent]
  rfl

theorem Linked.waiting_account (linked : Linked login state) {address : Nat}
    (found : GoMap.get state.protector.stateByLogin name = some address) :
    (state.account login name).waiting = state.pendingAt address := by
  ext execution
  constructor
  · rintro ⟨delay, waiting⟩
    dsimp only [State.account] at waiting
    rw [found] at waiting
    split at waiting
    · cases phase : state.phase execution with
      | pending held other =>
          rw [phase, Phase.standing, Standing.pending.injEq,
            decide_eq_true_iff] at waiting
          cases waiting.1
          exact ⟨other, phase⟩
      | _ =>
          rw [phase] at waiting
          cases waiting
    · cases waiting
  · rintro ⟨delay, pending⟩
    have own := linked.owned execution address name
      (by rw [pending]; rfl) found
    refine ⟨delay, ?_⟩
    dsimp only [State.account]
    rw [if_pos own, found, pending, Phase.standing, decide_eq_true rfl]

theorem Linked.exceeded_iff (linked : Linked login state) :
    state.protector.exceeded name = true ↔
      (state.account login name).Exceeded state.protector.settings := by
  unfold BfaProtector.exceeded Account.Exceeded
  cases found : GoMap.get state.protector.stateByLogin name with
  | none =>
      refine iff_of_false nofun ?_
      rintro ⟨present, -⟩
      exact present (account_entry_of_absent found)
  | some address =>
      obtain ⟨loginState, held, entry⟩ :=
        @Linked.account_entry ι login state name linked address found
      have tally := linked.tallied address loginState held
      dsimp only
      rw [held, linked.waiting_account found, entry, decide_eq_true_iff]
      constructor
      · intro more
        exact ⟨nofun, loginState.pendingFailures, tally, more⟩
      · rintro ⟨-, count, same, more⟩
        exact tally.unique same ▸ more

end

/-! ## How an account moves -/

/-- The execution that an event belongs to. -/
def Event.execution? : Event ι → Option ι
  | .count execution _ | .increment execution | .decrement execution =>
      some execution
  | .clean _ | .entryForLogin _ | .entryForToken => none

theorem Phase.standing_congr {phase : Phase} {entry other : Option Nat}
    (same : ∀ address, phase.address? = some address →
      (entry = some address ↔ other = some address)) :
    phase.standing entry = phase.standing other := by
  cases phase with
  | counted address nbrOfFailure =>
      rw [Phase.standing, Phase.standing, decide_eq_decide.mpr
        (same address rfl)]
  | pending address delay =>
      rw [Phase.standing, Phase.standing, decide_eq_decide.mpr
        (same address rfl)]
  | _ => rfl

theorem Phase.standing_none (phase : Phase) (entry : Option Nat) :
    phase.standing none = (phase.standing entry).dropped := by
  cases phase with
  | _ => rfl

section

variable {login : ι → String} {state after : State ι} {name : String}

theorem account_congr
    (entry : GoMap.get after.protector.stateByLogin name =
      GoMap.get state.protector.stateByLogin name)
    (stamps : ∀ address,
      GoMap.get state.protector.stateByLogin name = some address →
        after.protector.states[address]?.map LoginState.stamp =
          state.protector.states[address]?.map LoginState.stamp)
    (phases : ∀ execution, login execution = name →
      after.phase execution = state.phase execution) :
    after.account login name = state.account login name := by
  unfold State.account BfaProtector.state?
  rw [entry]
  congr 1
  · cases found : GoMap.get state.protector.stateByLogin name with
    | none => rfl
    | some address => exact stamps address found
  · funext execution
    split
    · next own => rw [phases execution own]
    · rfl

variable [DecidableEq ι] {execution : ι} {protector : BfaProtector}
  {phase : Phase}

theorem account_advance_of_ne (foreign : login execution ≠ name)
    (entry : GoMap.get protector.stateByLogin name =
      GoMap.get state.protector.stateByLogin name)
    (stamps : ∀ address,
      GoMap.get state.protector.stateByLogin name = some address →
        protector.states[address]?.map LoginState.stamp =
          state.protector.states[address]?.map LoginState.stamp) :
    (state.advance protector execution phase).account login name =
      state.account login name := by
  apply account_congr entry stamps
  intro other own
  rw [advance_phase, if_neg]
  rintro rfl
  exact foreign own

theorem account_advance_self
    (others : ∀ other, (state.phase other).standing
        (GoMap.get protector.stateByLogin (login execution)) =
      (state.phase other).standing
        (GoMap.get state.protector.stateByLogin (login execution))) :
    ((state.advance protector execution phase).account login
        (login execution)).standing =
      Function.update (state.account login (login execution)).standing
        execution (phase.standing
          (GoMap.get protector.stateByLogin (login execution))) := by
  funext other
  rw [Function.update_apply]
  dsimp only [State.account]
  rw [advance_phase]
  by_cases same : other = execution
  · subst same
    rw [if_pos rfl, if_pos rfl, if_pos rfl]
    rfl
  · rw [if_neg same, if_neg same]
    exact ite_congr rfl (fun _ => others other) fun _ => rfl

omit [DecidableEq ι] in
theorem stamp_addPending (address : Nat) (delta : Int) (other : Nat) :
    (state.protector.addPending address delta).states[other]?.map
        LoginState.stamp =
      state.protector.states[other]?.map LoginState.stamp := by
  rw [BfaProtector.addPending, BfaProtector.get_modifyState]
  split
  · rw [Option.map_map]
    rfl
  · rfl

theorem account_addPending (address : Nat) (delta : Int) :
    (state.advance (state.protector.addPending address delta) execution
        phase).account login name =
      if login execution = name then
        { state.account login name with
          standing := Function.update (state.account login name).standing
            execution (phase.standing
              (GoMap.get state.protector.stateByLogin name)) }
      else state.account login name := by
  split
  · next own =>
      subst own
      have entry : ((state.advance (state.protector.addPending address delta)
          execution phase).account login (login execution)).entry =
            (state.account login (login execution)).entry := by
        dsimp only [State.account, State.advance, BfaProtector.state?]
        rw [Option.map_bind, Option.map_bind]
        congr 1
        funext held
        exact stamp_addPending address delta held
      exact Account.ext entry (account_advance_self fun _ => rfl)
  · next foreign =>
      exact account_advance_of_ne foreign rfl fun held _ =>
        stamp_addPending address delta held

theorem Linked.account_count_of_ne (linked : Linked login state)
    (foreign : login execution ≠ name) (now : Int) :
    (state.advance (state.protector.countFailure now (login execution)).1
        execution phase).account login name =
      state.account login name := by
  have counts := BfaProtector.countFailure_counts state.protector now
    (login execution)
  apply account_advance_of_ne foreign (counts.others name foreign.symm)
  intro address found
  rw [BfaProtector.countFailure_elsewhere _ _ _
    (linked.allocated name address found)]
  rintro rfl
  have kept := (counts.others name foreign.symm).trans found
  exact foreign (linked.counts_separate counts kept).symm

theorem Linked.account_count_self (linked : Linked login state) (now : Int) :
    let counted := state.protector.countFailure now (login execution)
    let account := state.account login (login execution)
    let nbrOfFailure := wrap64 ((account.entry.map Prod.snd).getD 0 + 1)
    (state.advance counted.1 execution
        (.counted counted.2.1 counted.2.2)).account login (login execution) =
      { entry := some (now, nbrOfFailure)
        standing := Function.update account.standing execution
          (.counted true nbrOfFailure) } := by
  intro counted account nbrOfFailure
  have counts : state.protector.Counts (login execution) counted.1
      counted.2.1 := BfaProtector.countFailure_counts _ now _
  obtain ⟨old, here, number, same⟩ :=
    BfaProtector.countFailure_here linked.allocated now (login execution)
  have entry : (account.entry.map Prod.snd).getD 0 = old.nbrOfFailure := by
    rw [same]
    dsimp only [account, State.account]
    cases state.protector.state? (login execution) with
    | none => rfl
    | some found => rfl
  have counter : counted.2.2 = nbrOfFailure := by
    dsimp only [nbrOfFailure]
    rw [entry]
    exact number
  have others : ∀ other, (state.phase other).standing
        (GoMap.get counted.1.stateByLogin (login execution)) =
      (state.phase other).standing
        (GoMap.get state.protector.stateByLogin (login execution)) := by
    intro other
    rw [counts.mapped]
    obtain ⟨mapped, -⟩ | ⟨absent, fresh, -⟩ := counts.found
    · rw [mapped]
    · -- Nobody holds the new state yet.
      rw [absent]
      apply Phase.standing_congr
      intro address held
      refine iff_of_false ?_ nofun
      rintro ⟨⟩
      exact absurd (linked.held other _ held) (fresh ▸ Nat.lt_irrefl _)
  apply Account.ext
  · dsimp only [State.account, State.advance, BfaProtector.state?]
    rw [counts.mapped, Option.bind_some, ← counter]
    rw [show counted.1.states[counted.2.1]? = _ from here,
      show counted.2.2 = _ from number]
    rfl
  · rw [account_advance_self others, counts.mapped, Phase.standing,
      decide_eq_true rfl, counter]

omit [DecidableEq ι] in
theorem account_standing_self :
    (state.account login (login execution)).standing execution =
      (state.phase execution).standing
        (GoMap.get state.protector.stateByLogin (login execution)) :=
  if_pos rfl

omit [DecidableEq ι] in
theorem account_standing_of_ne (foreign : login execution ≠ name) :
    (state.account login name).standing execution = .idle :=
  if_neg foreign

theorem Account.next_of_idle {account : Account ι} {event : Event ι}
    (settings : Settings) (own : event.execution? = some execution)
    (idle : account.standing execution = .idle) :
    account.next settings event = account := by
  cases event with
  | count other now | increment other | decrement other =>
      cases own
      rw [Account.next, idle]
  | clean now => cases own
  | entryForLogin name => cases own
  | entryForToken => cases own

theorem Linked.account_clean (linked : Linked login state) (now : Int) :
    ({ state with protector := state.protector.clean now } : State ι).account
        login name =
      (state.account login name).next state.protector.settings
        (.clean now) := by
  rw [Account.next]
  cases found : GoMap.get state.protector.stateByLogin name with
  | none =>
      rw [account_entry_of_absent found]
      apply account_congr
      · rw [found]
        change GoMap.get (state.protector.clean now).stateByLogin name = none
        rw [linked.get_clean, found]
        rfl
      · exact fun _ _ => rfl
      · exact fun _ _ => rfl
  | some address =>
      obtain ⟨loginState, held, entry⟩ :=
        @Linked.account_entry ι login state name linked address found
      rw [entry]
      dsimp only [LoginState.stamp]
      split
      · next late =>
          have dropped := linked.get_clean_of_late found held late
          apply Account.ext
          · exact account_entry_of_absent dropped
          · funext execution
            dsimp only [State.account]
            rw [dropped]
            split
            · exact Phase.standing_none _ _
            · rfl
      · next timely =>
          apply account_congr
          · rw [found]
            exact linked.get_clean_of_timely found held (not_lt.mp timely)
          · exact fun _ _ => rfl
          · exact fun _ _ => rfl

theorem Linked.account_next_of_ne (linked : Linked login state)
    {event : Event ι} (own : event.execution? = some execution)
    (foreign : login execution ≠ name) :
    (state.next login event).account login name =
      state.account login name := by
  apply @State.next_cases _ _ login state fun after =>
    after.account login name = state.account login name
  · rfl
  · rintro other now rfl -
    cases own
    exact linked.account_count_of_ne foreign now
  · rintro other address nbrOfFailure rfl -
    cases own
    exact (account_addPending address 1).trans (if_neg foreign)
  · rintro other address delay rfl -
    cases own
    exact (account_addPending address (-1)).trans (if_neg foreign)
  · rintro now rfl
    cases own

theorem Linked.account_next (linked : Linked login state) (event : Event ι) :
    (state.next login event).account login name =
      (state.account login name).next state.protector.settings event := by
  have elsewhere : ∀ execution, event.execution? = some execution →
      login execution ≠ name →
        (state.next login event).account login name =
          (state.account login name).next state.protector.settings event := by
    intro execution own foreign
    rw [linked.account_next_of_ne own foreign,
      Account.next_of_idle _ own (account_standing_of_ne foreign)]
  cases event with
  | count execution now =>
      by_cases own : login execution = name
      · subst own
        rw [State.next, Account.next, account_standing_self]
        cases state.phase execution with
        | failed => exact linked.account_count_self now
        | _ => rfl
      · exact elsewhere execution rfl own
  | increment execution =>
      by_cases own : login execution = name
      · subst own
        rw [State.next, Account.next, account_standing_self]
        cases state.phase execution with
        | counted address nbrOfFailure =>
            exact (account_addPending address 1).trans (if_pos rfl)
        | _ => rfl
      · exact elsewhere execution rfl own
  | decrement execution =>
      by_cases own : login execution = name
      · subst own
        rw [State.next, Account.next, account_standing_self]
        cases state.phase execution with
        | pending address delay =>
            exact (account_addPending address (-1)).trans (if_pos rfl)
        | _ => rfl
      · exact elsewhere execution rfl own
  | clean now => exact linked.account_clean now
  | entryForLogin other => rfl
  | entryForToken => rfl

theorem Linked.account_foldl (linked : Linked login state)
    (events : List (Event ι)) :
    (events.foldl (State.next login) state).account login name =
      events.foldl (Account.next state.protector.settings)
        (state.account login name) := by
  induction events generalizing state with
  | nil => rfl
  | cons event events induction =>
      rw [List.foldl_cons, List.foldl_cons, induction (linked.next event),
        linked.account_next, State.settings_next]

end

end Kubauth.Protector
