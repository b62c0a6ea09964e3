import Kubauth.Protector.Accounts
import Kubauth.Unwinding

/-!
# Whether one login can lock another

Failures are kept by login, and an account moves by itself, so the failures of
one login are not seen by the users of another.  But entry also depends on two
accounts with reserved names, and these are names that a caller may use as a
login.
-/

namespace Kubauth.Protector

variable {ι : Type}

/-- What the users of a login see of the protector. -/
inductive Observation (ι : Type) where
  | entryForLogin (locked : Bool)
  | entryForToken (locked : Bool)
  | delay (execution : ι) (delay : Int)
  deriving Repr, DecidableEq

/-- The answers for a login, those for tokens, and the delays of the failures
of the login. -/
def State.observe (login : ι → String) (name : String) (state : State ι) :
    Event ι → Option (Observation ι)
  | .entryForLogin other =>
      if other = name then
        some (.entryForLogin (state.protector.entryForLogin other))
      else none
  | .entryForToken => some (.entryForToken state.protector.entryForToken)
  | .increment execution =>
      if login execution = name then
        match state.phase execution with
        | .counted _ nbrOfFailure =>
            some (.delay execution
              (state.protector.delayFromFailureCount nbrOfFailure))
        | _ => none
      else none
  | .count _ _ | .decrement _ | .clean _ => none

/-- All that is seen along a run. -/
def seen [DecidableEq ι] (settings : Settings) (calls : ι → Call)
    (name : String) (events : List (Event ι)) : List (Observation ι) :=
  observations (State.next fun execution => (calls execution).login)
    (State.observe (fun execution => (calls execution).login) name)
    (State.start settings calls) events

def Call.protects (name : String) : Call → Bool
  | .protectLoginResult login _ => login = name
  | .tokenNotFound => false

/-- The event is not part of a `ProtectLoginResult` for the login. -/
def Event.spares (calls : ι → Call) (name : String) (event : Event ι) : Bool :=
  event.execution?.all fun execution => !(calls execution).protects name

/-- What the users of other logins see does not change when all the
`ProtectLoginResult` for a login are left out. -/
def Secluded (settings : Settings) (name : String) : Prop :=
  ∀ (ι : Type) [DecidableEq ι] (calls : ι → Call) (events : List (Event ι))
    (other : String), other ≠ name →
      seen settings calls other (events.filter (Event.spares calls name)) =
        seen settings calls other events

/-! ## Two runs -/

/-- Two states that differ in the account of one login. -/
structure Alike (login : ι → String) (without : String)
    (full reduced : State ι) : Prop where
  fullLinked : Linked login full
  reducedLinked : Linked login reduced
  settings : full.protector.settings = reduced.protector.settings
  accounts : ∀ name, name ≠ without →
    full.account login name = reduced.account login name

section

variable {login : ι → String} {without name : String}
  {full reduced : State ι}

theorem Alike.exceeded (alike : Alike login without full reduced)
    (different : name ≠ without) :
    reduced.protector.exceeded name = full.protector.exceeded name := by
  rw [Bool.eq_iff_iff, alike.reducedLinked.exceeded_iff,
    alike.fullLinked.exceeded_iff, alike.settings,
    alike.accounts name different]

theorem observe_increment (state : State ι) (execution : ι) :
    state.observe login name (.increment execution) =
      match (state.account login name).standing execution with
      | .counted _ nbrOfFailure =>
          some (.delay execution
            ((BfaProtector.new state.protector.settings).delayFromFailureCount
              nbrOfFailure))
      | _ => none := by
  by_cases own : login execution = name
  · subst own
    rw [account_standing_self, State.observe, if_pos rfl]
    cases state.phase execution with
    | _ => rfl
  · rw [account_standing_of_ne own, State.observe, if_neg own]

theorem Alike.observe (alike : Alike login without full reduced)
    (different : name ≠ without) (user : unknownUser ≠ without)
    (token : unknownToken ≠ without) (event : Event ι) :
    reduced.observe login name event = full.observe login name event := by
  cases event with
  | entryForLogin other =>
      rw [State.observe, State.observe]
      split
      · next same =>
          subst same
          rw [BfaProtector.entryForLogin, BfaProtector.entryForLogin,
            alike.exceeded different, alike.exceeded user]
      · rfl
  | entryForToken =>
      rw [State.observe, State.observe, BfaProtector.entryForToken,
        BfaProtector.entryForToken, alike.exceeded token]
  | increment execution =>
      rw [observe_increment, observe_increment, alike.settings,
        alike.accounts name different]
  | count execution now => rfl
  | decrement execution => rfl
  | clean now => rfl

theorem observe_of_ne (state : State ι) {event : Event ι} {execution : ι}
    (own : event.execution? = some execution)
    (foreign : login execution ≠ name) :
    state.observe login name event = none := by
  cases event with
  | increment other =>
      cases own
      rw [observe_increment, account_standing_of_ne foreign]
  | count other now => rfl
  | decrement other => rfl
  | clean now => cases own
  | entryForLogin other => cases own
  | entryForToken => cases own

theorem Event.exists_of_not_spares {calls : ι → Call} {event : Event ι}
    (removed : event.spares calls name = false) :
    ∃ execution, event.execution? = some execution ∧
      (calls execution).login = name := by
  unfold Event.spares at removed
  cases own : event.execution? with
  | none =>
      rw [own] at removed
      cases removed
  | some execution =>
      refine ⟨execution, rfl, ?_⟩
      rw [own, Option.all_some, Bool.not_eq_false'] at removed
      cases call : calls execution with
      | protectLoginResult other status =>
          rw [call] at removed
          exact of_decide_eq_true removed
      | tokenNotFound =>
          rw [call] at removed
          cases removed

end

section

variable [DecidableEq ι] {login : ι → String} {without : String}
  {full reduced : State ι}

theorem Alike.next (alike : Alike login without full reduced)
    (event : Event ι) :
    Alike login without (full.next login event)
      (reduced.next login event) where
  fullLinked := alike.fullLinked.next event
  reducedLinked := alike.reducedLinked.next event
  settings := by
    rw [State.settings_next, State.settings_next, alike.settings]
  accounts := by
    intro name different
    rw [alike.fullLinked.account_next, alike.reducedLinked.account_next,
      alike.settings, alike.accounts name different]

theorem Alike.skip (alike : Alike login without full reduced)
    {event : Event ι} {execution : ι}
    (own : event.execution? = some execution)
    (belongs : login execution = without) :
    Alike login without (full.next login event) reduced where
  fullLinked := alike.fullLinked.next event
  reducedLinked := alike.reducedLinked
  settings := by
    rw [State.settings_next, alike.settings]
  accounts := by
    intro name different
    have foreign : login execution ≠ name := by
      rintro rfl
      exact different belongs
    rw [alike.fullLinked.account_next_of_ne own foreign,
      alike.accounts name different]

end

theorem secluded_of_ordinary (settings : Settings) {name : String}
    (user : unknownUser ≠ name) (token : unknownToken ≠ name) :
    Secluded settings name := by
  intro ι _ calls events other different
  have unwinds : Unwinds
      (State.next fun execution => (calls execution).login)
      (State.observe (fun execution => (calls execution).login) other)
      (Alike (fun execution => (calls execution).login) name)
      (Event.spares calls name) := by
    refine ⟨?_, ?_, ?_, ?_⟩
    · intro full reduced event alike _
      exact alike.next event
    · intro full reduced event alike removed
      obtain ⟨execution, own, belongs⟩ := Event.exists_of_not_spares removed
      exact alike.skip own belongs
    · intro full reduced event alike _
      exact alike.observe different user token event
    · intro full reduced event alike removed
      obtain ⟨execution, own, belongs⟩ := Event.exists_of_not_spares removed
      exact observe_of_ne full own (belongs.trans_ne different.symm)
  -- Both runs start in the same state.
  apply unwinds.observations_filter
  exact ⟨linked_start settings calls, linked_start settings calls, rfl,
    fun _ _ => rfl⟩

/-! ## The reserved logins -/

/-- Everybody fails with one login, and nobody has been answered yet. -/
def flood : Nat → List (Event Nat)
  | 0 => []
  | size + 1 => flood size ++ [.count size 0, .increment size]

def floodCalls (name : String) : Nat → Call :=
  fun _ => .protectLoginResult name .passwordFail

/-- The account of the login in this flood. -/
structure Flooded (size : Nat) (account : Account Nat) : Prop where
  entry : 0 < size → account.entry ≠ none
  waits : ∀ execution, execution < size →
    ∃ delay, account.standing execution = .pending true delay
  fresh : ∀ execution, size ≤ execution →
    account.standing execution = .failed

theorem Flooded.next {size : Nat} {account : Account Nat}
    (flooded : Flooded size account) (settings : Settings) :
    Flooded (size + 1)
      ([.count size 0, .increment size].foldl (Account.next settings)
        account) := by
  obtain ⟨entry, number, counted⟩ : ∃ entry number,
      account.next settings (.count size 0) =
        { entry := some entry
          standing := Function.update account.standing size
            (.counted true number) } := by
    rw [Account.next, flooded.fresh size le_rfl]
    exact ⟨_, _, rfl⟩
  rw [List.foldl_cons, counted, List.foldl_cons, List.foldl_nil, Account.next]
  dsimp only
  rw [Function.update_self]
  refine ⟨fun _ => Option.some_ne_none entry, ?_, ?_⟩
  · intro execution early
    dsimp only
    by_cases last : execution = size
    · subst last
      exact ⟨_, Function.update_self ..⟩
    · rw [Function.update_of_ne last, Function.update_of_ne last]
      exact flooded.waits execution (by omega)
  · intro execution late
    have different : execution ≠ size := by omega
    dsimp only
    rw [Function.update_of_ne different, Function.update_of_ne different]
    exact flooded.fresh execution (by omega)

theorem flooded_foldl (settings : Settings) (name : String) (size : Nat) :
    Flooded size ((flood size).foldl (Account.next settings)
      ((State.start settings (floodCalls name)).account (fun _ => name)
        name)) := by
  induction size with
  | zero =>
      refine ⟨nofun, nofun, ?_⟩
      intro execution _
      exact account_standing_self
  | succ size induction =>
      rw [flood, List.foldl_append]
      exact induction.next settings

theorem Flooded.tally {size : Nat} {account : Account Nat}
    (flooded : Flooded size account) : Tally account.waiting size := by
  have members : account.waiting = (Finset.range size : Set Nat) := by
    ext execution
    rw [Finset.mem_coe, Finset.mem_range]
    constructor
    · rintro ⟨delay, waiting⟩
      by_contra late
      cases waiting.symm.trans (flooded.fresh execution (not_lt.mp late))
    · exact flooded.waits execution
  rw [members]
  exact ⟨size, by rw [Set.encard_coe_eq_coe_finsetCard, Finset.card_range],
    rfl⟩

theorem exceeded_flood {settings : Settings} (name : String) {size : Nat}
    (positive : 0 < size) (large : settings.maxPendingFailure < size) :
    ((flood size).foldl (State.next fun _ => name)
      (State.start settings (floodCalls name))).protector.exceeded name =
        true := by
  have linked : Linked (fun _ => name)
      (State.start settings (floodCalls name)) :=
    linked_start settings (floodCalls name)
  have flooded := flooded_foldl settings name size
  rw [(linked.foldl (flood size)).exceeded_iff, linked.account_foldl,
    State.settings_foldl]
  exact ⟨flooded.entry positive, size, flooded.tally, large⟩

theorem exists_execution_of_mem_flood {size : Nat} {event : Event Nat}
    (member : event ∈ flood size) :
    ∃ execution, event.execution? = some execution := by
  induction size with
  | zero => cases member
  | succ size induction =>
      rw [flood, List.mem_append, List.mem_pair] at member
      obtain earlier | rfl | rfl := member
      · exact induction earlier
      · exact ⟨size, rfl⟩
      · exact ⟨size, rfl⟩

theorem seen_flood (settings : Settings) {name other : String}
    (different : other ≠ name) (size : Nat) (question : Event Nat) :
    seen settings (floodCalls name) other (flood size ++ [question]) =
      (((flood size).foldl (State.next fun _ => name)
        (State.start settings (floodCalls name))).observe (fun _ => name)
          other question).toList := by
  have unseen : ∀ event ∈ flood size, ∀ state : State Nat,
      state.observe (fun _ => name) other event = none := by
    intro event member state
    obtain ⟨execution, own⟩ := exists_execution_of_mem_flood member
    exact observe_of_ne state own different.symm
  have split := observations_append (State.next fun _ => name)
    (State.observe (fun _ => name) other)
    (State.start settings (floodCalls name)) (flood size) [question]
  rw [observations_eq_nil _ _ _ unseen, List.nil_append] at split
  exact split.trans (List.append_nil _)

/-- Without the executions of the login nothing is left of the flood. -/
theorem filter_flood (name : String) (size : Nat) {question : Event Nat}
    (kept : question.execution? = none) :
    (flood size ++ [question]).filter
        (Event.spares (floodCalls name) name) = [question] := by
  have removed : (flood size).filter
      (Event.spares (floodCalls name) name) = [] := by
    rw [List.filter_eq_nil_iff]
    intro event member spared
    obtain ⟨execution, own⟩ := exists_execution_of_mem_flood member
    rw [Event.spares, own] at spared
    simp [floodCalls, Call.protects] at spared
  rw [List.filter_append, removed, List.nil_append, List.filter_cons, if_pos]
  · rfl
  · rw [Event.spares, kept]
    rfl

/-- A flood of one of the reserved logins changes the answers that depend on
it. -/
theorem entryForLogin_flood {settings : Settings} {size : Nat}
    (positive : 0 < size) (large : settings.maxPendingFailure < size)
    (other : String) (different : other ≠ unknownUser) :
    let calls := floodCalls unknownUser
    let events := flood size ++ [.entryForLogin other]
    seen settings calls other events = [.entryForLogin true] ∧
      seen settings calls other
          (events.filter (Event.spares calls unknownUser)) =
        [.entryForLogin false] := by
  intro calls events
  constructor
  · rw [seen_flood settings different, State.observe, if_pos rfl,
      BfaProtector.entryForLogin, exceeded_flood unknownUser positive large,
      Bool.or_true]
    rfl
  · rw [filter_flood unknownUser size rfl, seen, observations,
      State.observe, if_pos rfl]
    rfl

theorem entryForToken_flood {settings : Settings} {size : Nat}
    (positive : 0 < size) (large : settings.maxPendingFailure < size)
    (other : String) (different : other ≠ unknownToken) :
    let calls := floodCalls unknownToken
    let events := flood size ++ [.entryForToken]
    seen settings calls other events = [.entryForToken true] ∧
      seen settings calls other
          (events.filter (Event.spares calls unknownToken)) =
        [.entryForToken false] := by
  intro calls events
  constructor
  · rw [seen_flood settings different, State.observe,
      BfaProtector.entryForToken, exceeded_flood unknownToken positive large]
    rfl
  · rw [filter_flood unknownToken size rfl, seen, observations]
    rfl

/-- The failures of a login are seen by nobody else, unless the login is one of
the two reserved names. -/
theorem secluded_iff (settings : Settings) (name : String) :
    Secluded settings name ↔ name ≠ unknownUser ∧ name ≠ unknownToken := by
  constructor
  · intro secluded
    -- One failure more than the limit is enough, and one if it is negative.
    obtain ⟨size, positive, large⟩ : ∃ size : Nat,
        0 < size ∧ settings.maxPendingFailure < size :=
      ⟨settings.maxPendingFailure.toNat + 1, Nat.succ_pos _, by omega⟩
    constructor
    · rintro rfl
      obtain ⟨full, reduced⟩ := entryForLogin_flood positive large
        "alice" (by decide)
      have same := secluded Nat (floodCalls unknownUser)
        (flood size ++ [.entryForLogin "alice"]) "alice" (by decide)
      cases reduced.symm.trans (same.trans full)
    · rintro rfl
      obtain ⟨full, reduced⟩ := entryForToken_flood positive large
        "alice" (by decide)
      have same := secluded Nat (floodCalls unknownToken)
        (flood size ++ [.entryForToken]) "alice" (by decide)
      cases reduced.symm.trans (same.trans full)
  · rintro ⟨user, token⟩
    exact secluded_of_ordinary settings user.symm token.symm

/-- With the default settings, 21 failures of a reserved login lock everybody
out. -/
theorem reserved_logins_lock_others :
    (let calls := floodCalls unknownUser
      let events := flood 21 ++ [.entryForLogin "alice"]
      seen defaultSettings calls "alice" events = [.entryForLogin true] ∧
        seen defaultSettings calls "alice"
            (events.filter (Event.spares calls unknownUser)) =
          [.entryForLogin false]) ∧
    let calls := floodCalls unknownToken
    let events := flood 21 ++ [.entryForToken]
    seen defaultSettings calls "alice" events = [.entryForToken true] ∧
      seen defaultSettings calls "alice"
          (events.filter (Event.spares calls unknownToken)) =
        [.entryForToken false] :=
  ⟨entryForLogin_flood (by decide) (by decide) "alice" (by decide),
    entryForToken_flood (by decide) (by decide) "alice" (by decide)⟩

end Kubauth.Protector
