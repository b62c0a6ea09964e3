import Kubauth.Protector.Executions
import Kubauth.Run

/-!
# Admission of concurrent identity requests

Any number of identity requests are served at once.  Each passes the
protector, authenticates, and, if its password is wrong, counts its failure,
joins the pending failures of its login, sleeps, and leaves them.  The steps
of different requests interleave freely.

The protector looks at the pending failures, which a request joins only after
its password was checked.  The limit therefore holds as long as nobody enters
while a request of the same login is on its way from one to the other.
-/

namespace Kubauth.Protector

/-- The request passed the protector, and its penalty is not over. -/
def Phase.InFlight : Phase → Prop
  | .arrived | .answered _ => False
  | .entered | .failed | .counted _ _ | .pending _ _ => True

/-- How the validators and `Authenticate` end: a validator has written its
answer, the authenticator failed, or it answered a status. -/
inductive Verdict where
  | invalid (status : Nat)
  | error
  | answer (status : Status)
  deriving Repr, DecidableEq

def Verdict.phase : Verdict → Phase
  | .invalid status => .answered status
  | .error => .answered 500
  | .answer status =>
      if BfaProtector.penalises status then .failed else .answered 200

/-- The next step of one request. -/
inductive Action (ι : Type) where
  | enter (request : ι)
  | authenticate (request : ι) (verdict : Verdict)
  | count (request : ι) (now : Int)
  | increment (request : ι)
  | decrement (request : ι)

variable {ι : Type} [DecidableEq ι]

def State.initial (settings : Settings) : State ι :=
  { protector := .new settings
    phase := fun _ => .arrived }

/-- One step of `ServeHTTP`, and of the `failure` that it calls.  The sleep lies
between `increment` and `decrement`. -/
inductive Step (login : ι → String) : State ι → Action ι → State ι → Prop
    where
  | enter (state : State ι) (request : ι)
      (arrived : state.phase request = .arrived) :
      Step login state (.enter request)
        (state.advance state.protector request
          (if state.protector.entryForLogin (login request) then
            .answered 503
          else .entered))
  | authenticate (state : State ι) (request : ι) (verdict : Verdict)
      (entered : state.phase request = .entered) :
      Step login state (.authenticate request verdict)
        (state.advance state.protector request verdict.phase)
  | count (state : State ι) (request : ι) (now : Int)
      (failed : state.phase request = .failed) :
      Step login state (.count request now)
        (state.advance
          (state.protector.countFailure now (login request)).1 request
          (.counted (state.protector.countFailure now (login request)).2.1
            (state.protector.countFailure now (login request)).2.2))
  | increment (state : State ι) (request : ι) (address : Nat)
      (nbrOfFailure : Int)
      (counted : state.phase request = .counted address nbrOfFailure) :
      Step login state (.increment request)
        (state.advance (state.protector.addPending address 1) request
          (.pending address
            (state.protector.delayFromFailureCount nbrOfFailure)))
  | decrement (state : State ι) (request : ι) (address : Nat) (delay : Int)
      (pending : state.phase request = .pending address delay) :
      Step login state (.decrement request)
        (state.advance (state.protector.addPending address (-1)) request
          (.answered 200))

/-- The requests for a login that are in flight. -/
def State.inFlight (login : ι → String) (state : State ι) (name : String) :
    Set ι :=
  {request | login request = name ∧ (state.phase request).InFlight}

/-- A request enters only when those of its login that are in flight have
joined the pending failures. -/
def Settled (login : ι → String) (state : State ι) : Action ι → Prop
  | .enter request =>
      ∀ other ∈ state.inFlight login (login request),
        ∃ address delay, state.phase other = .pending address delay
  | _ => True

/-! ## The invariant -/

/-- The pointers agree with the map, the counters with the requests, and the
limit holds for every login. -/
structure Sound (login : ι → String) (settings : Settings)
    (state : State ι) : Prop where
  configured : state.protector.settings = settings
  current : ∀ request address,
    (state.phase request).address? = some address →
    GoMap.get state.protector.stateByLogin (login request) = some address
  allocated : state.protector.Allocated
  counters : ∀ address loginState,
    state.protector.states[address]? = some loginState →
    Tally (state.pendingAt address) loginState.pendingFailures
  limit : ∀ name, ∃ number, Tally (state.inFlight login name) number ∧
    number ≤ settings.maxPendingFailure + 1

theorem mem_inFlight_advance (login : ι → String) (state : State ι)
    (protector : BfaProtector) (request other : ι) (phase : Phase)
    (name : String) :
    other ∈ (state.advance protector request phase).inFlight login name ↔
      login other = name ∧
        if other = request then phase.InFlight
        else (state.phase other).InFlight := by
  simp only [State.inFlight, Set.mem_ofPred_eq, advance_phase]
  split <;> rfl

section

variable {login : ι → String} {settings : Settings} {state : State ι}
  {request : ι} {phase : Phase} {protector : BfaProtector}

private theorem limit_unchanged (sound : Sound login settings state)
    (inFlight : phase.InFlight → (state.phase request).InFlight)
    (name : String) :
    ∃ number,
      Tally ((state.advance protector request phase).inFlight login name)
        number ∧
      number ≤ settings.maxPendingFailure + 1 := by
  obtain ⟨number, tally, bounded⟩ := sound.limit name
  have part : (state.advance protector request phase).inFlight login name ⊆
      state.inFlight login name := by
    intro other member
    rw [mem_inFlight_advance] at member
    obtain ⟨same, still⟩ := member
    refine ⟨same, ?_⟩
    split at still
    · next equal => exact equal ▸ inFlight still
    · exact still
  obtain ⟨smaller, smallerTally, le⟩ := tally.of_subset part
  exact ⟨smaller, smallerTally, by omega⟩

omit [DecidableEq ι] in
/-- A login whose requests in flight are all pending has no more of them than
its state says. -/
private theorem inFlight_le (sound : Sound login settings state)
    (nonneg : 0 ≤ settings.maxPendingFailure) {name : String}
    (settled : ∀ other ∈ state.inFlight login name,
      ∃ address delay, state.phase other = .pending address delay)
    (unlocked : state.protector.exceeded name = false) :
    ∃ number, Tally (state.inFlight login name) number ∧
      number ≤ settings.maxPendingFailure := by
  unfold BfaProtector.exceeded at unlocked
  cases mapped : GoMap.get state.protector.stateByLogin name with
  | none =>
      -- Nobody holds a state of this login, so nobody is in flight.
      have nobody : state.inFlight login name = ∅ := by
        rw [Set.eq_empty_iff_forall_notMem]
        intro other member
        obtain ⟨address, delay, pending⟩ := settled other member
        have held := sound.current other address (by rw [pending]; rfl)
        rw [member.1, mapped] at held
        cases held
      refine ⟨0, ?_, nonneg⟩
      rw [nobody]
      exact .empty
  | some address =>
      have bound := sound.allocated name address mapped
      have found := List.getElem?_eq_getElem bound
      rw [mapped] at unlocked
      simp only [found, sound.configured] at unlocked
      have tally := sound.counters address _ found
      have part : state.inFlight login name ⊆ state.pendingAt address := by
        intro other member
        obtain ⟨held, delay, pending⟩ := settled other member
        have current := sound.current other held (by rw [pending]; rfl)
        rw [member.1, mapped] at current
        cases current
        exact ⟨delay, pending⟩
      obtain ⟨number, smaller, le⟩ := tally.of_subset part
      refine ⟨number, smaller, ?_⟩
      simp only [decide_eq_false_iff_not, not_lt, gt_iff_lt] at unlocked
      omega

private theorem limit_entered (sound : Sound login settings state)
    (nonneg : 0 ≤ settings.maxPendingFailure)
    (settled : Settled login state (.enter request))
    (arrived : state.phase request = .arrived)
    (unlocked : state.protector.entryForLogin (login request) = false)
    (name : String) :
    ∃ number,
      Tally ((state.advance state.protector request .entered).inFlight login
        name) number ∧
      number ≤ settings.maxPendingFailure + 1 := by
  by_cases own : login request = name
  · subst own
    have notExceeded :
        state.protector.exceeded (login request) = false := by
      unfold BfaProtector.entryForLogin at unlocked
      exact (Bool.or_eq_false_iff.mp unlocked).1
    obtain ⟨number, tally, le⟩ :=
      inFlight_le sound nonneg settled notExceeded
    have new : request ∉ state.inFlight login (login request) := by
      rintro ⟨-, inFlight⟩
      rw [arrived] at inFlight
      exact inFlight
    refine ⟨number + 1, ?_, by omega⟩
    have grown := tally.insert new
    suffices same : (state.advance state.protector request
        .entered).inFlight login (login request) =
        insert request (state.inFlight login (login request)) by
      rw [same]
      exact grown
    ext other
    rw [mem_inFlight_advance, Set.mem_insert_iff]
    by_cases same : other = request
    · subst same
      simp [Phase.InFlight]
    · simp [same, State.inFlight]
  · obtain ⟨number, tally, le⟩ := sound.limit name
    suffices same : (state.advance state.protector request
        .entered).inFlight login name = state.inFlight login name by
      rw [same]
      exact ⟨number, tally, le⟩
    ext other
    rw [mem_inFlight_advance]
    by_cases same : other = request
    · subst same
      simp [own, State.inFlight]
    · simp [same, State.inFlight]

private theorem current_advance (sound : Sound login settings state)
    (kept : ∀ name address,
      GoMap.get state.protector.stateByLogin name = some address →
      GoMap.get protector.stateByLogin name = some address)
    (own : ∀ address, phase.address? = some address →
      GoMap.get protector.stateByLogin (login request) = some address)
    (other : ι) (address : Nat)
    (held : ((state.advance protector request phase).phase other).address? =
      some address) :
    GoMap.get protector.stateByLogin (login other) = some address := by
  rw [advance_phase] at held
  split at held
  · next same =>
      subst same
      exact own address held
  · exact kept _ _ (sound.current other address held)

private theorem Sound.of_protector_kept (sound : Sound login settings state)
    (before : ∀ address delay, state.phase request ≠ .pending address delay)
    (after : phase.address? = none)
    (limit : ∀ name, ∃ number,
      Tally ((state.advance state.protector request phase).inFlight login
        name) number ∧
      number ≤ settings.maxPendingFailure + 1) :
    Sound login settings
      (state.advance state.protector request phase) where
  configured := sound.configured
  current := by
    apply current_advance sound (fun _ _ => id)
    intro address held
    rw [after] at held
    cases held
  allocated := sound.allocated
  counters := by
    apply Tallied.of_protector_kept sound.counters before
    rintro joined delay rfl
    cases after
  limit := limit

private theorem Sound.counted (sound : Sound login settings state)
    (failed : state.phase request = .failed) {address : Nat}
    (counts : state.protector.Counts (login request) protector address)
    (nbrOfFailure : Int) :
    Sound login settings
      (state.advance protector request (.counted address nbrOfFailure)) where
  configured := counts.settings.trans sound.configured
  current := by
    apply current_advance sound counts.kept
    rintro held ⟨⟩
    exact counts.mapped
  allocated := counts.allocated sound.allocated
  counters := by
    -- Nobody holds the state that was just allocated.
    have nobody :
        state.pendingAt state.protector.states.length = ∅ := by
      rw [Set.eq_empty_iff_forall_notMem]
      rintro holder ⟨delay, pending⟩
      have held := sound.current holder _ (by rw [pending]; rfl)
      exact Nat.lt_irrefl _ (sound.allocated _ _ held)
    exact Tallied.counted sound.counters failed counts nobody nbrOfFailure
  limit := limit_unchanged sound (by simp [failed, Phase.InFlight])

private theorem Sound.incremented (sound : Sound login settings state)
    {address : Nat} {nbrOfFailure : Int}
    (counted : state.phase request = .counted address nbrOfFailure)
    (delay : Int) :
    Sound login settings
      (state.advance (state.protector.addPending address 1) request
        (.pending address delay)) where
  configured := sound.configured
  current := by
    apply current_advance sound (fun _ _ => id)
    rintro held ⟨⟩
    exact sound.current request address (by rw [counted]; rfl)
  allocated := sound.allocated.modifyState address _
  counters := Tallied.joined sound.counters counted delay
  limit := limit_unchanged sound (by simp [counted, Phase.InFlight])

private theorem Sound.decremented (sound : Sound login settings state)
    {address : Nat} {delay : Int}
    (pending : state.phase request = .pending address delay) :
    Sound login settings
      (state.advance (state.protector.addPending address (-1)) request
        (.answered 200)) where
  configured := sound.configured
  current := by
    apply current_advance sound (fun _ _ => id)
    rintro held ⟨⟩
  allocated := sound.allocated.modifyState address _
  counters := Tallied.left sound.counters pending 200
  limit := limit_unchanged sound False.elim

theorem Sound.step (sound : Sound login settings state)
    (nonneg : 0 ≤ settings.maxPendingFailure) {action : Action ι}
    {after : State ι} (settled : Settled login state action)
    (taken : Step login state action after) :
    Sound login settings after := by
  cases taken with
  | enter request arrived =>
      split
      · refine sound.of_protector_kept (by simp [arrived]) rfl ?_
        exact limit_unchanged sound False.elim
      · next unlocked =>
          refine sound.of_protector_kept (by simp [arrived]) rfl ?_
          exact limit_entered sound nonneg settled arrived
            (Bool.not_eq_true _ ▸ unlocked)
  | authenticate request verdict entered =>
      refine sound.of_protector_kept (by simp [entered]) ?_ ?_
      · cases verdict with
        | invalid status => rfl
        | error => rfl
        | answer status =>
            simp only [Verdict.phase]
            split <;> rfl
      · exact limit_unchanged sound (by simp [entered, Phase.InFlight])
  | count request now failed =>
      exact sound.counted failed
        (BfaProtector.countFailure_counts _ now (login request)) _
  | increment request address nbrOfFailure counted =>
      exact sound.incremented counted _
  | decrement request address delay pending =>
      exact sound.decremented pending

end

/-! ## The limit -/

omit [DecidableEq ι] in
theorem sound_initial (login : ι → String) {settings : Settings}
    (nonneg : 0 ≤ settings.maxPendingFailure) :
    Sound login settings (State.initial settings : State ι) where
  configured := rfl
  current := by
    rintro request address ⟨⟩
  allocated := by
    intro name address found
    cases found
  counters := by
    intro address loginState found
    simp [State.initial, BfaProtector.new] at found
  limit := by
    intro name
    refine ⟨0, ?_, by omega⟩
    have nobody : (State.initial settings : State ι).inFlight login name =
        ∅ := by
      rw [Set.eq_empty_iff_forall_notMem]
      rintro request ⟨-, inFlight⟩
      exact inFlight
    rw [nobody]
    exact .empty

/-- At most one request more than the limit of pending failures is in flight
for a login, in every run in which requests enter only when those of their
login that are in flight have joined the pending failures. -/
theorem admission_limited (login : ι → String) (settings : Settings)
    (nonneg : 0 ≤ settings.maxPendingFailure) (actions : List (Action ι))
    (state : State ι)
    (run : Run (Guarded (Settled login) (Step login))
      (State.initial settings) actions state)
    (name : String) :
    ∃ number, Tally (state.inFlight login name) number ∧
      number ≤ settings.maxPendingFailure + 1 := by
  have sound : Sound login settings state := by
    refine run.invariant (Sound login settings) ?_ (sound_initial login nonneg)
    rintro before action after - sound ⟨settled, taken⟩
    exact sound.step nonneg settled taken
  exact sound.limit name

/-- A request has failed and waits while another one enters. -/
def twoRequests : List (Action Bool) :=
  [.enter true, .authenticate true (.answer .passwordFail), .count true 0,
    .increment true, .enter false]

theorem admission_limited_two_requests :
    ∃ state : State Bool,
      state.phase true = .pending 0 0 ∧ state.phase false = .entered ∧
      ∃ number, Tally (state.inFlight (fun _ => "alice") "alice") number ∧
        number ≤ 21 := by
  have run : ∃ state : State Bool,
      Run (Guarded (Settled fun _ => "alice") (Step fun _ => "alice"))
        (State.initial defaultSettings) twoRequests state ∧
      state.phase true = .pending 0 0 ∧ state.phase false = .entered := by
    refine ⟨_, .cons ⟨?_, .enter _ _ rfl⟩
      (.cons ⟨trivial, .authenticate _ _ _ rfl⟩
        (.cons ⟨trivial, .count _ _ _ rfl⟩
          (.cons ⟨trivial, .increment _ _ _ _ rfl⟩
            (.cons ⟨?_, .enter _ _ rfl⟩ (.nil _))))), by decide, by decide⟩
    · rintro other ⟨-, inFlight⟩
      exact inFlight.elim
    · rintro other ⟨-, inFlight⟩
      cases other with
      | true => exact ⟨_, _, rfl⟩
      | false => exact inFlight.elim
  obtain ⟨state, run, waiting, entered⟩ := run
  exact ⟨state, waiting, entered, admission_limited (fun _ => "alice")
    defaultSettings (by decide) twoRequests state run "alice"⟩

/-! ## Everybody enters at once -/

/-- The requests of a list have entered, and nothing else has happened. -/
def State.onlyEntered (settings : Settings) (requests : List ι) : State ι :=
  { protector := .new settings
    phase := fun request =>
      if request ∈ requests then .entered else .arrived }

theorem run_enter (login : ι → String) (settings : Settings)
    (entered requests : List ι) (distinct : (entered ++ requests).Nodup) :
    Run (Step login) (State.onlyEntered settings entered)
      (requests.map .enter)
      (State.onlyEntered settings (entered ++ requests)) := by
  induction requests generalizing entered with
  | nil =>
      rw [List.append_nil]
      exact .nil _
  | cons request requests induction =>
      have absent : request ∉ entered := by
        intro member
        exact (List.nodup_append.mp distinct).2.2 request member request
          List.mem_cons_self rfl
      have arrived :
          (State.onlyEntered settings entered).phase request = .arrived :=
        if_neg absent
      have next : (State.onlyEntered settings entered).advance
          (.new settings) request .entered =
          State.onlyEntered settings (entered ++ [request]) := by
        unfold State.onlyEntered State.advance
        congr 1
        funext other
        by_cases same : other = request
        · simp [same]
        · simp [same]
      rw [List.append_cons] at distinct ⊢
      refine .cons ?_ (induction (entered ++ [request]) distinct)
      rw [← next]
      exact .enter _ request arrived

theorem tally_onlyEntered (settings : Settings) (name : String)
    {requests : List ι} (distinct : requests.Nodup) :
    Tally ((State.onlyEntered settings requests).inFlight (fun _ => name)
      name) requests.length := by
  refine ⟨requests.length, ?_, rfl⟩
  have members : (State.onlyEntered settings requests).inFlight
      (fun _ => name) name = (requests.toFinset : Set ι) := by
    ext request
    by_cases entered : request ∈ requests
    · simp [State.inFlight, State.onlyEntered, Phase.InFlight, entered]
    · simp [State.inFlight, State.onlyEntered, Phase.InFlight, entered]
  rw [members, Set.encard_coe_eq_coe_finsetCard,
    List.toFinset_card_of_nodup distinct]

/-- With the default limit of 20, 22 requests are in flight for one login.  With
a negative limit a single one is too many. -/
theorem admission_exceeds_limit :
    (∃ state : State (Fin 22),
      Run (Step fun _ => "alice") (State.initial defaultSettings)
        ((List.finRange 22).map .enter) state ∧
      ¬∃ number, Tally (state.inFlight (fun _ => "alice") "alice") number ∧
        number ≤ defaultSettings.maxPendingFailure + 1) ∧
    ∃ state : State Unit,
      Run (Step fun _ => "alice")
        (State.initial { defaultSettings with maxPendingFailure := -1 })
        [.enter ()] state ∧
      ¬∃ number, Tally (state.inFlight (fun _ => "alice") "alice") number ∧
        number ≤ -1 + 1 := by
  constructor
  · refine ⟨_, run_enter _ defaultSettings [] (List.finRange 22)
      (List.nodup_finRange 22), ?_⟩
    rintro ⟨number, tally, limited⟩
    have everybody := tally_onlyEntered defaultSettings "alice"
      (List.nodup_finRange 22)
    rw [tally.unique everybody] at limited
    revert limited
    decide
  · refine ⟨_, run_enter _ _ [] [()] (List.nodup_singleton ()), ?_⟩
    rintro ⟨number, tally, limited⟩
    have everybody := tally_onlyEntered
      { defaultSettings with maxPendingFailure := -1 } "alice"
      (List.nodup_singleton ())
    rw [tally.unique everybody] at limited
    revert limited
    decide

end Kubauth.Protector
