import Kubauth.Exclusive
import Kubauth.Run
import Kubauth.Storage.Memory

/-!
# Redeeming an authorization code

Any number of token requests present one code.  The OAuth2 library performs
three store calls for each of them, in order: it reads the code, invalidates
it, and creates an access token.  Each call is atomic, and the calls of
different requests interleave freely.

Reading and invalidating are two calls, and invalidation succeeds on a code
that is inactive already.  The code is the right to create a token: it is
available while active, and held from invalidation on.
-/

namespace Kubauth.CodeRedemption

inductive Phase where
  | idle
  | got
  | invalidated
  | created
  | failed
  deriving Repr, DecidableEq

/-- The store, and how far each request has come. -/
structure State (ι : Type) where
  store : MemoryStore
  phase : ι → Phase

/-- The next store call of one request. -/
inductive Action (ι : Type) where
  | get (request : ι)
  | invalidate (request : ι)
  | create (request : ι) (signature : String) (requester : Requester)

variable {ι : Type} [DecidableEq ι]

def State.initial (store : MemoryStore) : State ι :=
  { store := store, phase := fun _ => .idle }

def State.advance (state : State ι) (request : ι) (phase : Phase) :
    State ι :=
  { state with phase := Function.update state.phase request phase }

/-- A call that reports an error ends its request. -/
def phaseAfter (failure : Option StoreError) (next : Phase) : Phase :=
  if failure = none then next else .failed

/-- One store call of one request, taken in the order of the library. -/
inductive Step (code : String) : State ι → Action ι → State ι → Prop where
  | get (state : State ι) (request : ι) (idle : state.phase request = .idle) :
      Step code state (.get request)
        (state.advance request
          (phaseAfter (state.store.getAuthorizeCodeSession code).2 .got))
  | invalidate (state : State ι) (request : ι)
      (got : state.phase request = .got) :
      Step code state (.invalidate request)
        ({ state with
            store :=
              (state.store.invalidateAuthorizeCodeSession code).1 }.advance
          request
          (phaseAfter (state.store.invalidateAuthorizeCodeSession code).2
            .invalidated))
  | create (state : State ι) (request : ι) (signature : String)
      (requester : Requester) (ready : state.phase request = .invalidated) :
      Step code state (.create request signature requester)
        ({ state with
            store :=
              state.store.createAccessTokenSession signature
                requester }.advance
          request .created)

/-- The code can still be read without error. -/
def Active (code : String) (store : MemoryStore) : Prop :=
  (store.getAuthorizeCodeSession code).2 = none

/-- Nobody invalidated the code since the request read it. -/
def Undisturbed (code : String) (state : State ι) : Action ι → Prop
  | .invalidate _ => Active code state.store
  | _ => True

/-- The request has invalidated the code and may create, or has created, a
token. -/
def Redeemed (state : State ι) (request : ι) : Prop :=
  state.phase request = .invalidated ∨ state.phase request = .created

theorem active_iff (code : String) (store : MemoryStore) :
    Active code store ↔
      ∃ entry, GoMap.get store.authorizeCodes code = some entry ∧
        entry.active = true := by
  unfold Active MemoryStore.getAuthorizeCodeSession
  cases GoMap.get store.authorizeCodes code with
  | none => simp
  | some entry =>
      cases active : entry.active <;> simp [active]

theorem not_active_invalidate (code : String) (store : MemoryStore) :
    ¬Active code (store.invalidateAuthorizeCodeSession code).1 := by
  rw [active_iff]
  unfold MemoryStore.invalidateAuthorizeCodeSession
  cases found : GoMap.get store.authorizeCodes code with
  | none => simp [found]
  | some entry => simp

private theorem redeemed_advance_iff (state : State ι) (request other : ι)
    (phase : Phase) :
    Redeemed (state.advance request phase) other ↔
      if other = request then phase = .invalidated ∨ phase = .created
      else Redeemed state other := by
  unfold Redeemed State.advance
  by_cases same : other = request
  · subst same
    simp
  · simp [same]

theorem exclusive_step {code : String} {before after : State ι}
    {action : Action ι}
    (exclusive : Exclusive (Active code before.store) (Redeemed before))
    (undisturbed : Undisturbed code before action)
    (step : Step code before action after) :
    Exclusive (Active code after.store) (Redeemed after) := by
  cases step with
  | get request idle =>
      refine exclusive.weaken id fun other redeemed => ?_
      rw [redeemed_advance_iff] at redeemed
      split at redeemed
      · unfold phaseAfter at redeemed
        split at redeemed <;> simp at redeemed
      · exact redeemed
  | invalidate request got =>
      refine exclusive.take undisturbed request
        (not_active_invalidate code before.store) fun other redeemed => ?_
      rw [redeemed_advance_iff] at redeemed
      split at redeemed
      · next same => exact .inl same
      · exact .inr redeemed
  | create request signature requester ready =>
      refine exclusive.weaken id fun other redeemed => ?_
      rw [redeemed_advance_iff] at redeemed
      split at redeemed
      · next same =>
          subst same
          exact .inl ready
      · exact redeemed

/-- Run: when every invalidation finds the code still active, at most one of
the requests creates an access token. -/
theorem created_at_most_once (code : String) (store : MemoryStore)
    (actions : List (Action ι)) (state : State ι)
    (run : Run (Guarded (Undisturbed code) (Step code))
      (State.initial store) actions state) :
    ∀ first second, state.phase first = .created →
      state.phase second = .created → first = second := by
  have exclusive :
      Exclusive (Active code state.store) (Redeemed state) := by
    refine run.invariant
      (fun reached => Exclusive (Active code reached.store)
        (Redeemed reached)) ?_ ?_
    · rintro before action after - held ⟨undisturbed, step⟩
      exact exclusive_step held undisturbed step
    · constructor <;> simp [Redeemed, State.initial]
  intro first second left right
  exact exclusive.unique first second (.inr left) (.inr right)

/-- A store that holds one active code. -/
def codeStore : MemoryStore :=
  MemoryStore.empty.createAuthorizeCodeSession "code" default

/-- One request, alone. -/
theorem created_at_most_once_alone :
    ∃ state : State Bool,
      Run (Guarded (Undisturbed "code") (Step "code"))
          (State.initial codeStore)
          [.get false, .invalidate false, .create false "access" default]
          state ∧
        state.phase false = .created ∧
        ∀ other, state.phase other = .created → other = false := by
  obtain ⟨state, run, created⟩ : ∃ state : State Bool,
      Run (Guarded (Undisturbed "code") (Step "code"))
          (State.initial codeStore)
          [.get false, .invalidate false, .create false "access" default]
          state ∧
        state.phase false = .created :=
    ⟨_, .cons ⟨trivial, .get _ false rfl⟩
      (.cons ⟨rfl, .invalidate _ false rfl⟩
        (.cons ⟨trivial, .create _ false _ _ rfl⟩ (.nil _))), rfl⟩
  refine ⟨state, run, created, fun other otherCreated => ?_⟩
  exact created_at_most_once "code" codeStore _ state run other false
    otherCreated created

/-- Two requests that both read the code before either invalidates it. -/
theorem created_twice_interleaved :
    ∃ state : State Bool,
      Run (Step "code") (State.initial codeStore)
          [.get false, .get true, .invalidate false, .invalidate true,
            .create false "access1" default, .create true "access2" default]
          state ∧
        state.phase false = .created ∧ state.phase true = .created := by
  refine ⟨_, .cons (.get _ false rfl) (.cons (.get _ true rfl)
    (.cons (.invalidate _ false rfl) (.cons (.invalidate _ true rfl)
      (.cons (.create _ false _ _ rfl) (.cons (.create _ true _ _ rfl)
        (.nil _)))))), rfl, rfl⟩

end Kubauth.CodeRedemption
