import Kubauth.SessionStore.Expiry

/-!
# What a read finds after a commit

The sessions that carry a login are kept as a map from tokens to bytes would
keep them.  A session without one is not stored, and not removed either: the
read after it finds what the token had before.
-/

namespace Kubauth.SessionStore

/-- A call whose own API calls succeed. -/
inductive Call where
  | commit (token bytes : String) (expiry : Int)
  | delete (token : String)
  deriving Repr, DecidableEq

def Call.operation : Call → Operation
  | .commit token bytes expiry =>
      .commit token bytes expiry { get := none, write := none }
  | .delete token => .delete token none

/-- The store after some calls, the first one first. -/
def reached (encoding : Encoding) (calls : List Call) : KubeSsoStore :=
  calls.foldl (fun store call => store.apply encoding call.operation) .empty

/-! ## The map of tokens -/

/-- The bytes decode to a session with a login. -/
def carriesLogin (encoding : Encoding) (bytes : String) : Bool :=
  match KubeSsoStore.envelope encoding bytes with
  | .error _ => false
  | .ok decoded => (extractUser decoded.values).login ≠ ""

def Call.track (encoding : Encoding) (token : String)
    (held : Option String) : Call → Option String
  | .commit committed bytes _ =>
      if committed = token ∧ carriesLogin encoding bytes = true then some bytes
      else held
  | .delete deleted => if deleted = token then none else held

/-- The bytes of the last commit of the token with a login, unless the token
was deleted since. -/
def committed (encoding : Encoding) (token : String) (calls : List Call) :
    Option String :=
  calls.foldl (Call.track encoding token) none

/-- The object of a token has these bytes, or there is none. -/
def Holds (encoding : Encoding) (token : String) (store : KubeSsoStore)
    (held : Option String) : Prop :=
  match held with
  | none => store.objects (encoding.encodeName token) = none
  | some bytes =>
      bytes ≠ "" ∧
        ∃ session annotations,
          store.objects (encoding.encodeName token) = some session ∧
            session.annotations = some annotations ∧
            GoMap.get annotations annotationRawSession = some bytes

/-! ## Commits -/

theorem commitCtx_of_login {encoding : Encoding} (store : KubeSsoStore)
    (token : String) {bytes : String} (expiry : Int)
    {decoded : SessionEnvelope}
    (decodes : KubeSsoStore.envelope encoding bytes = .ok decoded)
    (named : (extractUser decoded.values).login ≠ "") :
    ∃ annotations,
      store.commitCtx encoding { get := none, write := none } token bytes
          expiry =
        ({ objects := Function.update store.objects (encoding.encodeName token)
             (some
               { annotations := some
                   (GoMap.set annotations annotationRawSession bytes)
                 spec := KubeSsoStore.mirror token decoded expiry }) },
          none) := by
  simp only [KubeSsoStore.commitCtx, decodes, if_neg named]
  cases store.objects (encoding.encodeName token) with
  | none => exact ⟨[], rfl⟩
  | some existing => exact ⟨existing.annotations.getD [], rfl⟩

theorem commitCtx_of_nobody {encoding : Encoding} (store : KubeSsoStore)
    (calls : KubeSsoStore.CommitCalls) (token : String) {bytes : String}
    (expiry : Int) {decoded : SessionEnvelope}
    (decodes : KubeSsoStore.envelope encoding bytes = .ok decoded)
    (nobody : (extractUser decoded.values).login = "") :
    store.commitCtx encoding calls token bytes expiry = (store, none) := by
  simp only [KubeSsoStore.commitCtx, decodes, if_pos nobody]

theorem nonempty_of_login {encoding : Encoding} {bytes : String}
    {decoded : SessionEnvelope}
    (decodes : KubeSsoStore.envelope encoding bytes = .ok decoded)
    (named : (extractUser decoded.values).login ≠ "") : bytes ≠ "" := by
  rintro rfl
  cases decodes
  exact named rfl

/-- A commit without a login, or that does not decode, leaves the store. -/
theorem commitCtx_of_not_carriesLogin {encoding : Encoding}
    (store : KubeSsoStore) (calls : KubeSsoStore.CommitCalls)
    (token : String) {bytes : String} (expiry : Int)
    (silent : carriesLogin encoding bytes = false) :
    (store.commitCtx encoding calls token bytes expiry).1 = store := by
  cases decoding : KubeSsoStore.envelope encoding bytes with
  | error failure => simp only [KubeSsoStore.commitCtx, decoding]
  | ok decoded =>
      rw [carriesLogin, decoding] at silent
      have nobody := not_ne_iff.mp (of_decide_eq_false silent)
      rw [commitCtx_of_nobody store calls token expiry decoding nobody]

/-! ## The store as a map -/

theorem Holds.findCtx {encoding : Encoding} {token : String}
    {store : KubeSsoStore} {held : Option String}
    (holds : Holds encoding token store held) :
    store.findCtx encoding none token = (held, none) := by
  unfold KubeSsoStore.findCtx
  cases held with
  | none =>
      have absent : store.objects (encoding.encodeName token) = none := holds
      simp only [absent]
  | some bytes =>
      obtain ⟨nonempty, session, annotations, found, annotated, stored⟩ := holds
      simp only [found, annotated, stored, if_neg nonempty]

theorem Holds.congr {encoding : Encoding} {token : String}
    {store other : KubeSsoStore} {held : Option String}
    (holds : Holds encoding token store held)
    (same : other.objects (encoding.encodeName token) =
      store.objects (encoding.encodeName token)) :
    Holds encoding token other held := by
  unfold Holds at holds ⊢
  rw [same]
  exact holds

theorem holds_written (encoding : Encoding) (token : String)
    (store : KubeSsoStore) (annotations : GoMap String String) {bytes : String}
    (nonempty : bytes ≠ "") (spec : SsoSessionSpec) :
    Holds encoding token
      { objects := Function.update store.objects (encoding.encodeName token)
          (some
            { annotations := some
                (GoMap.set annotations annotationRawSession bytes)
              spec := spec }) }
      (some bytes) :=
  ⟨nonempty, _, _, Function.update_self _ _ _, rfl, GoMap.get_set_self _ _ _⟩

theorem Holds.apply {encoding : Encoding}
    (injective : Function.Injective encoding.encodeName) {token : String}
    {store : KubeSsoStore} {held : Option String}
    (holds : Holds encoding token store held) (call : Call) :
    Holds encoding token (store.apply encoding call.operation)
      (call.track encoding token held) := by
  cases call with
  | commit named bytes expiry =>
      by_cases same : named = token
      · subst same
        cases silent : carriesLogin encoding bytes with
        | false =>
            simp only [Call.track, silent, Bool.false_eq_true, and_false,
              if_false, Call.operation, KubeSsoStore.apply]
            rw [commitCtx_of_not_carriesLogin store _ named expiry silent]
            exact holds
        | true =>
            simp only [Call.track, silent, and_self, if_true, Call.operation,
              KubeSsoStore.apply]
            rw [carriesLogin] at silent
            split at silent
            · cases silent
            · next decoded decodes =>
                have login := of_decide_eq_true silent
                obtain ⟨annotations, result⟩ :=
                  commitCtx_of_login store named expiry decodes login
                rw [result]
                exact holds_written encoding named store annotations
                  (nonempty_of_login decodes login) _
      · simp only [Call.track, same, false_and, if_false]
        exact holds.congr
          (commitCtx_other injective store same _ bytes expiry)
  | delete named =>
      by_cases same : named = token
      · subst same
        simp only [Call.track, if_true, Call.operation, KubeSsoStore.apply]
        unfold Holds
        simp only [deleteCtx_objects, if_true, Function.update_self]
      · simp only [Call.track, if_neg same]
        exact holds.congr (deleteCtx_other injective store same none)

/-- Run: the store refines the map of tokens. -/
theorem holds_reached {encoding : Encoding}
    (injective : Function.Injective encoding.encodeName) (token : String)
    (calls : List Call) :
    Holds encoding token (reached encoding calls)
      (committed encoding token calls) := by
  induction calls using List.reverseRecOn with
  | nil => rfl
  | append_singleton calls call induction =>
      rw [reached, committed, List.foldl_concat, List.foldl_concat]
      exact induction.apply injective call

/-! ## Freshness -/

/-- What a commit that returns no error should leave: its own bytes to be found,
or nothing for a session without a login, an object that mirrors the session
with its times to the second, and other tokens as they were. -/
structure Fresh (encoding : Encoding) (before after : KubeSsoStore)
    (token bytes : String) (expiry : Int) (decoded : SessionEnvelope) :
    Prop where
  found : after.findCtx encoding none token =
    if (extractUser decoded.values).login = "" then (none, none)
    else (some bytes, none)
  mirrored : ∀ session,
    after.objects (encoding.encodeName token) = some session →
      session.spec =
        { login := (extractUser decoded.values).login
          fullName := (extractUser decoded.values).fullName
          webToken := token
          claims := (extractUser decoded.values).claims
          deadline := storedTime decoded.deadline
          expiry := storedTime expiry }
  others : ∀ other, token ≠ other →
    after.findCtx encoding none other = before.findCtx encoding none other

/-- After any calls, a commit returns no error and is fresh exactly when its
session has a login or nothing of its token was left. -/
theorem commit_fresh_iff {encoding : Encoding}
    (injective : Function.Injective encoding.encodeName) (past : List Call)
    (token : String) {bytes : String} (expiry : Int)
    {decoded : SessionEnvelope}
    (decodes : KubeSsoStore.envelope encoding bytes = .ok decoded) :
    let before := reached encoding past
    let outcome := before.commitCtx encoding { get := none, write := none }
      token bytes expiry
    outcome.2 = none ∧
      (Fresh encoding before outcome.1 token bytes expiry decoded ↔
        (extractUser decoded.values).login ≠ "" ∨
          committed encoding token past = none) := by
  intro before outcome
  have holds := holds_reached injective token past
  have others : ∀ other, token ≠ other →
      outcome.1.findCtx encoding none other =
        before.findCtx encoding none other := by
    intro other different
    have same := commitCtx_other injective before different
      { get := none, write := none } bytes expiry
    unfold KubeSsoStore.findCtx
    rw [same]
  by_cases nobody : (extractUser decoded.values).login = ""
  · have kept : outcome = (before, none) :=
      commitCtx_of_nobody before _ token expiry decodes nobody
    rw [kept] at others ⊢
    refine ⟨rfl, ?_⟩
    rw [or_iff_right (not_not_intro nobody)]
    constructor
    · intro fresh
      have found := fresh.found
      rw [if_pos nobody, holds.findCtx] at found
      exact (Prod.mk.inj found).1
    · intro absent
      rw [absent] at holds
      refine ⟨?_, ?_, others⟩
      · rw [if_pos nobody]
        exact holds.findCtx
      · intro session found
        cases found.symm.trans holds
  · obtain ⟨annotations, written⟩ :=
      commitCtx_of_login before token expiry decodes nobody
    change outcome = _ at written
    rw [written] at others ⊢
    refine ⟨rfl, iff_of_true ⟨?_, ?_, others⟩ (Or.inl nobody)⟩
    · rw [if_neg nobody]
      exact (holds_written encoding token before annotations
        (nonempty_of_login decodes nobody) _).findCtx
    · intro session found
      dsimp only at found
      rw [Function.update_self] at found
      cases found
      rfl

/-- The bytes `alice` decode to a session of alice, all others to one without a
user. -/
def aliceEncoding : Encoding :=
  { encodeName := id
    unmarshal := fun bytes =>
      if bytes = "alice" then
        .ok
          { deadline := 100 * second
            values := some [("ssoUser", .map [("Login", .str "alice")])] }
      else .ok { deadline := 100 * second, values := none } }

theorem commit_fresh_update :
    let before := reached aliceEncoding
      [.commit "token" "alice" (50 * second), .delete "token"]
    let outcome := before.commitCtx aliceEncoding
      { get := none, write := none } "token" "nobody" (100 * second)
    outcome.2 = none ∧
      Fresh aliceEncoding before outcome.1 "token" "nobody" (100 * second)
        { deadline := 100 * second, values := none } := by
  have injective : Function.Injective aliceEncoding.encodeName :=
    Function.injective_id
  have decodes : KubeSsoStore.envelope aliceEncoding "nobody" =
      .ok { deadline := 100 * second, values := none } := rfl
  have fresh := commit_fresh_iff injective
    [.commit "token" "alice" (50 * second), .delete "token"] "token"
    (100 * second) decodes
  exact ⟨fresh.1, fresh.2.mpr (Or.inr rfl)⟩

/-- A session without a user is committed without an error, and the read after
it finds the session of alice. -/
theorem commit_stale :
    let before := reached aliceEncoding [.commit "token" "alice" (50 * second)]
    let outcome := before.commitCtx aliceEncoding
      { get := none, write := none } "token" "nobody" (100 * second)
    outcome.2 = none ∧
      outcome.1.findCtx aliceEncoding none "token" = (some "alice", none) ∧
      ¬Fresh aliceEncoding before outcome.1 "token" "nobody" (100 * second)
        { deadline := 100 * second, values := none } := by
  refine ⟨rfl, rfl, ?_⟩
  intro fresh
  cases fresh.found

end Kubauth.SessionStore
