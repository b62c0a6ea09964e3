import Kubauth.Run
import Kubauth.SessionStore.KubeSso

/-!
# Expired SSO sessions

A read does not look at the time limits of the session.  It finds a session
that was committed and not removed since, however long ago its limits passed.
-/

namespace Kubauth.SessionStore

/-- An operation on the store, with the outcomes of its API calls. -/
inductive Operation where
  | commit (token bytes : String) (expiry : Int)
      (calls : KubeSsoStore.CommitCalls)
  | delete (token : String) (outcome : Option ApiError)
  | clean (now : Int) (list : Option ApiError)
      (delete : String → Option ApiError)

def KubeSsoStore.apply (encoding : Encoding) (store : KubeSsoStore) :
    Operation → KubeSsoStore
  | .commit token bytes expiry calls =>
      (store.commitCtx encoding calls token bytes expiry).1
  | .delete token outcome => (store.deleteCtx encoding outcome token).1
  | .clean now list delete => store.cleanupOnce now list delete

/-! ## The trail of a token -/

/-- The time limits that a commit records. -/
structure Limits where
  expiry : Int
  deadline : Int
  deriving Repr, DecidableEq

/-- Neither limit has passed. -/
def Limits.Respected (limits : Limits) (now : Int) : Prop :=
  now ≤ limits.expiry ∧ now ≤ limits.deadline

/-- One of the limits has passed, where a zero time is no limit. -/
def Limits.passed (limits : Limits) (now : Int) : Bool :=
  (limits.expiry ≠ zeroTime ∧ now > limits.expiry) ∨
    (limits.deadline ≠ zeroTime ∧ now > limits.deadline)

/-- What happened to the session of a token: the limits recorded by its last
commit, and whether it was removed since. -/
structure Trail where
  recorded : Option Limits
  removed : Bool
  deriving Repr, DecidableEq

def Trail.initial : Trail :=
  { recorded := none, removed := false }

/-- The limits that a commit records in the object of the token, if it returns
no error and carries a login. -/
def recordedBy (encoding : Encoding) (store : KubeSsoStore)
    (calls : KubeSsoStore.CommitCalls) (token bytes : String)
    (expiry : Int) : Option Limits :=
  match KubeSsoStore.envelope encoding bytes,
      (store.commitCtx encoding calls token bytes expiry).2 with
  | .ok decoded, none =>
      if (extractUser decoded.values).login = "" then none
      else some
        { expiry := storedTime expiry
          deadline := storedTime decoded.deadline }
  | _, _ => none

/-- The trail of a token after one more operation.  It is removed by a deletion,
and by a pass of the cleaner that finds one of its limits passed. -/
def Trail.next (encoding : Encoding) (token : String) (store : KubeSsoStore)
    (trail : Trail) : Operation → Trail
  | .commit committed bytes expiry calls =>
      if committed = token then
        match recordedBy encoding store calls token bytes expiry with
        | some limits => { recorded := some limits, removed := false }
        | none => trail
      else trail
  | .delete deleted outcome =>
      if deleted = token ∧ outcome = none then { trail with removed := true }
      else trail
  | .clean now list delete =>
      if list = none ∧ delete (encoding.encodeName token) = none ∧
          trail.recorded.any (Limits.passed · now) = true then
        { trail with removed := true }
      else trail

/-- The store, and the trail of one token. -/
structure History where
  store : KubeSsoStore
  trail : Trail

def History.initial : History :=
  { store := .empty, trail := .initial }

def History.next (encoding : Encoding) (token : String) (history : History)
    (operation : Operation) : History :=
  { store := history.store.apply encoding operation
    trail := history.trail.next encoding token history.store operation }

/-! ## The store follows the trail -/

/-- The object that a commit with these limits leaves. -/
structure Mirrors (session : SsoSession) (limits : Limits) : Prop where
  expiry : session.spec.expiry = limits.expiry
  deadline : session.spec.deadline = limits.deadline
  readable : ∃ annotations bytes, session.annotations = some annotations ∧
    GoMap.get annotations annotationRawSession = some bytes ∧ bytes ≠ ""

/-- The object of the token is there exactly when the token was recorded and not
removed since, and then it has the recorded limits. -/
def History.Follows (encoding : Encoding) (token : String)
    (history : History) : Prop :=
  match history.trail.recorded, history.trail.removed with
  | some limits, false =>
      ∃ session,
        history.store.objects (encoding.encodeName token) = some session ∧
        Mirrors session limits
  | _, _ => history.store.objects (encoding.encodeName token) = none

/-- A commit writes the object of its token, with the limits that it records, or
leaves the store alone. -/
theorem commitCtx_cases (encoding : Encoding) (store : KubeSsoStore)
    (calls : KubeSsoStore.CommitCalls) (token bytes : String)
    (expiry : Int) :
    (∃ limits session,
        recordedBy encoding store calls token bytes expiry = some limits ∧
        (store.commitCtx encoding calls token bytes expiry).1.objects =
          Function.update store.objects (encoding.encodeName token)
            (some session) ∧
        Mirrors session limits) ∨
      recordedBy encoding store calls token bytes expiry = none ∧
        (store.commitCtx encoding calls token bytes expiry).1 = store := by
  unfold recordedBy KubeSsoStore.commitCtx
  cases decoding : KubeSsoStore.envelope encoding bytes with
  | error failure => exact .inr ⟨rfl, rfl⟩
  | ok decoded =>
      by_cases nobody : (extractUser decoded.values).login = ""
      · right
        simp [nobody]
      · have nonempty : bytes ≠ "" := by
          rintro rfl
          cases decoding
          exact nobody rfl
        have readable : ∀ annotations : GoMap String String,
            Mirrors
              { annotations := some
                  (GoMap.set annotations annotationRawSession bytes)
                spec := KubeSsoStore.mirror token decoded expiry }
              { expiry := storedTime expiry
                deadline := storedTime decoded.deadline } := by
          intro annotations
          exact ⟨rfl, rfl, _, bytes, rfl, GoMap.get_set_self _ _ _, nonempty⟩
        simp only [if_neg nobody]
        cases store.objects (encoding.encodeName token) with
        | none =>
            cases calls.write with
            | some failure => exact .inr ⟨rfl, rfl⟩
            | none => exact .inl ⟨_, _, if_neg nobody, rfl, readable _⟩
        | some existing =>
            cases calls.get with
            | some failure => exact .inr ⟨rfl, rfl⟩
            | none =>
                cases calls.write with
                | some failure => exact .inr ⟨rfl, rfl⟩
                | none => exact .inl ⟨_, _, if_neg nobody, rfl, readable _⟩

theorem deleteCtx_objects (encoding : Encoding) (store : KubeSsoStore)
    (outcome : Option ApiError) (token : String) :
    (store.deleteCtx encoding outcome token).1.objects =
      if outcome = none then
        Function.update store.objects (encoding.encodeName token) none
      else store.objects := by
  unfold KubeSsoStore.deleteCtx
  cases outcome with
  | some failure => rfl
  | none =>
      cases found : store.objects (encoding.encodeName token) with
      | some session => rfl
      | none =>
          rw [if_pos rfl, eq_comm, Function.update_eq_self_iff]
          exact found.symm

section OtherTokens

variable {encoding : Encoding}
  (injective : Function.Injective encoding.encodeName) (store : KubeSsoStore)
  {token other : String} (different : token ≠ other)

include injective different

theorem commitCtx_other (calls : KubeSsoStore.CommitCalls) (bytes : String)
    (expiry : Int) :
    (store.commitCtx encoding calls token bytes expiry).1.objects
        (encoding.encodeName other) =
      store.objects (encoding.encodeName other) := by
  rcases commitCtx_cases encoding store calls token bytes expiry with
    ⟨limits, session, -, written, -⟩ | ⟨-, kept⟩
  · rw [written, Function.update_of_ne (injective.ne different.symm)]
  · rw [kept]

theorem deleteCtx_other (outcome : Option ApiError) :
    (store.deleteCtx encoding outcome token).1.objects
        (encoding.encodeName other) =
      store.objects (encoding.encodeName other) := by
  rw [deleteCtx_objects]
  split
  · rw [Function.update_of_ne (injective.ne different.symm)]
  · rfl

end OtherTokens

theorem Mirrors.expired {session : SsoSession} {limits : Limits}
    (mirrors : Mirrors session limits) (now : Int) :
    session.spec.expired now = limits.passed now := by
  unfold SsoSessionSpec.expired Limits.passed
  rw [mirrors.expiry, mirrors.deadline]

/-- Whether a history follows its trail depends on the object of the token
only. -/
theorem History.Follows.congr {encoding : Encoding} {token : String}
    {history : History} (follows : history.Follows encoding token)
    {store : KubeSsoStore}
    (same : store.objects (encoding.encodeName token) =
      history.store.objects (encoding.encodeName token)) :
    History.Follows encoding token { history with store := store } := by
  unfold History.Follows at follows ⊢
  simp only [same]
  exact follows

/-- A pass of the cleaner removes the object when the trail says so. -/
private theorem History.Follows.cleaned {encoding : Encoding}
    {token : String} {history : History}
    (follows : history.Follows encoding token) (now : Int)
    (delete : String → Option ApiError) :
    (history.next encoding token (.clean now none delete)).Follows encoding
      token := by
  obtain ⟨store, recorded, removed⟩ := history
  have absent : store.objects (encoding.encodeName token) = none →
      (store.apply encoding (.clean now none delete)).objects
        (encoding.encodeName token) = none := by
    intro missing
    simp [KubeSsoStore.apply, KubeSsoStore.cleanupOnce, missing]
  cases recorded with
  | none =>
      simpa [History.Follows, History.next, Trail.next] using absent follows
  | some limits =>
      cases removed with
      | true =>
          simpa [History.Follows, History.next, Trail.next] using
            absent follows
      | false =>
          obtain ⟨session, present, mirrors⟩ := follows
          have found : store.objects (encoding.encodeName token) =
              some session := present
          by_cases cleaned : limits.passed now = true ∧
              delete (encoding.encodeName token) = none
          · simp only [History.next, Trail.next, Option.any_some, cleaned,
              and_self, if_true]
            unfold History.Follows
            simp [KubeSsoStore.apply, KubeSsoStore.cleanupOnce, found,
              mirrors.expired, cleaned]
          · have kept : ¬(delete (encoding.encodeName token) = none ∧
                limits.passed now = true) := fun both => cleaned both.symm
            simp only [History.next, Trail.next, Option.any_some, true_and,
              if_neg kept]
            refine ⟨session, ?_, mirrors⟩
            simp [KubeSsoStore.apply, KubeSsoStore.cleanupOnce, found,
              mirrors.expired, cleaned]

theorem History.Follows.next {encoding : Encoding}
    (injective : Function.Injective encoding.encodeName) {token : String}
    {history : History} (follows : history.Follows encoding token)
    (operation : Operation) :
    (history.next encoding token operation).Follows encoding token := by
  cases operation with
  | commit committed bytes expiry calls =>
      by_cases same : committed = token
      · subst same
        rcases commitCtx_cases encoding history.store calls committed bytes
          expiry with
          ⟨limits, session, recorded, written, mirrors⟩ | ⟨unrecorded, kept⟩
        · simp only [History.next, Trail.next, recorded, if_true]
          refine ⟨session, ?_, mirrors⟩
          rw [KubeSsoStore.apply, written, Function.update_self]
        · simp only [History.next, Trail.next, unrecorded, if_true,
            KubeSsoStore.apply, kept]
          exact follows
      · simp only [History.next, Trail.next, if_neg same]
        exact follows.congr
          (commitCtx_other injective history.store same calls bytes expiry)
  | delete deleted outcome =>
      have objects := deleteCtx_objects encoding history.store outcome deleted
      by_cases same : deleted = token
      · subst same
        cases outcome with
        | none =>
            simp only [History.next, Trail.next, and_self, if_true]
            unfold History.Follows
            simp [KubeSsoStore.apply, objects]
        | some failure =>
            simp only [History.next, Trail.next, reduceCtorEq, and_false,
              if_false]
            exact follows
      · simp only [History.next, Trail.next, same, false_and, if_false]
        exact follows.congr
          (deleteCtx_other injective history.store same outcome)
  | clean now list delete =>
      cases list with
      | some failure =>
          simp only [History.next, Trail.next, reduceCtorEq, false_and,
            if_false]
          exact follows
      | none => exact follows.cleaned now delete

/-! ## What is found -/

/-- A session is found exactly when it was recorded and not removed since. -/
theorem History.Follows.found_iff {encoding : Encoding} {token : String}
    {history : History} (follows : history.Follows encoding token)
    (get : Option ApiError) :
    (history.store.findCtx encoding get token).1.isSome = true ↔
      get = none ∧ history.trail.recorded.isSome = true ∧
        history.trail.removed = false := by
  unfold KubeSsoStore.findCtx
  cases get with
  | some failure => simp
  | none =>
      unfold History.Follows at follows
      split at follows
      · next limits recorded kept =>
          obtain ⟨session, found, -, -, annotations, bytes, annotated, held,
            nonempty⟩ := follows
          simp [found, annotated, held, nonempty, recorded, kept]
      · next notBoth =>
          simp only [follows, Option.isSome_none, Bool.false_eq_true,
            true_and, false_iff]
          rintro ⟨some, kept⟩
          obtain ⟨limits, recorded⟩ := Option.isSome_iff_exists.mp some
          exact notBoth limits recorded kept

/-- Expired sessions are not found exactly when the sessions whose limits have
passed were removed since their last commit, by a deletion or by a pass of the
cleaner. -/
theorem expired_not_found_iff (encoding : Encoding)
    (injective : Function.Injective encoding.encodeName) (token : String)
    (operations : List Operation) (history : History)
    (run : Run
      (fun before operation after =>
        after = before.next encoding token operation)
      History.initial operations history)
    (now : Int) :
    (∀ get limits, history.trail.recorded = some limits →
      (history.store.findCtx encoding get token).1.isSome = true →
      limits.Respected now) ↔
    ∀ limits, history.trail.recorded = some limits →
      history.trail.removed = false → limits.Respected now := by
  have follows : history.Follows encoding token := by
    refine run.invariant (History.Follows encoding token) ?_ rfl
    rintro before operation after - follows rfl
    exact follows.next injective operation
  constructor
  · intro honoured limits recorded kept
    refine honoured none limits recorded ?_
    rw [follows.found_iff]
    exact ⟨rfl, by rw [recorded]; rfl, kept⟩
  · intro removed get limits recorded found
    exact removed limits recorded ((follows.found_iff get).mp found).2.2

/-- In nanoseconds. -/
def second : Int := 1000000000

/-- Tokens name their objects, and the bytes of every session decode to alice's,
with a deadline half a second after 100. -/
def sampleEncoding : Encoding :=
  { encodeName := id
    unmarshal := fun _ =>
      .ok
        { deadline := 100 * second + 500000000
          values := some
            [("ssoUser", .map [("Login", .str "alice"),
              ("Claims", .map [])])] } }

def sampleCommit : Operation :=
  .commit "token" "session" (100 * second + 500000000)
    { get := none, write := none }

theorem expired_not_found_iff_cleaned :
    let history :=
      [sampleCommit, .clean (100 * second + 200000000) none
        (fun _ => none)].foldl
      (History.next sampleEncoding "token") History.initial
    ∀ get limits, history.trail.recorded = some limits →
      (history.store.findCtx sampleEncoding get "token").1.isSome = true →
      limits.Respected (101 * second) := by
  refine (expired_not_found_iff sampleEncoding Function.injective_id "token"
    _ _ (Run.of_foldl _ _ _) (101 * second)).mpr ?_
  intro limits _ kept
  cases kept

/-- Without a cleaner, a session is found after its expiry and its deadline. -/
theorem expired_found :
    let history := [sampleCommit].foldl
      (History.next sampleEncoding "token") History.initial
    let limits : Limits :=
      { expiry := 100 * second, deadline := 100 * second }
    history.trail.recorded = some limits ∧
      history.store.findCtx sampleEncoding none "token" =
        (some "session", none) ∧
      ¬limits.Respected (101 * second) := by
  refine ⟨rfl, rfl, ?_⟩
  unfold Limits.Respected
  decide

end Kubauth.SessionStore
