import Kubauth.Ageing
import Kubauth.Run
import Kubauth.Storage.Memory

/-!
# Spent credentials

An authorization code is spent by its invalidation, and a refresh token by
rotation, revocation or deletion.  Every call ages the slot of every code and
of every refresh token, unless it creates that very credential.
-/

namespace Kubauth.MemoryStore

/-- The code that the call creates. -/
def Call.createdCode : Call → Option String
  | .createAuthorizeCodeSession code _ => some code
  | _ => none

/-- The refresh signature that the call creates. -/
def Call.createdSignature : Call → Option String
  | .createRefreshTokenSession signature _ _ => some signature
  | _ => none

/-- No code and no refresh signature is passed twice to its creation. -/
def CreatesOnce (calls : List Call) : Prop :=
  (calls.filterMap Call.createdCode).Nodup ∧
    (calls.filterMap Call.createdSignature).Nodup

private theorem not_created_later {created : Call → Option String}
    {first later : List Call} {call : Call} {key : String}
    (once : ((first ++ later).filterMap created).Nodup)
    (member : call ∈ first) (creates : created call = some key) :
    ∀ other ∈ later, created other ≠ some key := by
  intro other otherMember again
  rw [List.filterMap_append, List.nodup_append] at once
  have early : key ∈ first.filterMap created :=
    List.mem_filterMap.mpr ⟨call, member, creates⟩
  have late : key ∈ later.filterMap created :=
    List.mem_filterMap.mpr ⟨other, otherMember, again⟩
  exact once.2.2 key early key late rfl

/-! ## Authorization codes -/

/-- The slot of a code ages. -/
def CodeAges (before after : MemoryStore) (code : String) : Prop :=
  AgesTo (fun entry : StoreAuthorizeCode => entry.active = true)
    StoreAuthorizeCode.requester
    (GoMap.get before.authorizeCodes code)
    (GoMap.get after.authorizeCodes code)

private theorem authorizeCodes_revokeRefreshToken (store : MemoryStore)
    (requestID : String) :
    (store.revokeRefreshToken requestID).1.authorizeCodes =
      store.authorizeCodes := by
  unfold revokeRefreshToken
  split
  · rfl
  · split <;> rfl

private theorem authorizeCodes_revokeAccessToken (store : MemoryStore)
    (requestID : String) :
    (store.revokeAccessToken requestID).authorizeCodes =
      store.authorizeCodes := by
  unfold revokeAccessToken
  split <;> rfl

private theorem authorizeCodes_rotateRefreshToken (store : MemoryStore)
    (requestID signature : String) :
    (store.rotateRefreshToken requestID signature).1.authorizeCodes =
      store.authorizeCodes := by
  have kept := authorizeCodes_revokeRefreshToken store requestID
  unfold rotateRefreshToken
  split
  · next called =>
      rw [called] at kept
      exact kept
  · next called =>
      rw [called] at kept
      exact (authorizeCodes_revokeAccessToken _ requestID).trans kept

/-- The calls on clients and assertions leave both kinds of credentials
alone. -/
private theorem credentials_setClient (store : MemoryStore)
    (client : KubauthClient) :
    (store.setClient client).1.authorizeCodes = store.authorizeCodes ∧
      (store.setClient client).1.refreshTokens = store.refreshTokens := by
  unfold setClient
  simp only
  split
  · split <;> exact ⟨rfl, rfl⟩
  · exact ⟨rfl, rfl⟩

private theorem credentials_setClientAssertionJWT (store : MemoryStore)
    (clock : String → Int) (jti : String) (exp : Int) :
    (store.setClientAssertionJWT clock jti exp).1.authorizeCodes =
        store.authorizeCodes ∧
      (store.setClientAssertionJWT clock jti exp).1.refreshTokens =
        store.refreshTokens := by
  unfold setClientAssertionJWT
  simp only
  split <;> exact ⟨rfl, rfl⟩

private theorem get_invalidateAuthorizeCodeSession (store : MemoryStore)
    (invalidated code : String) :
    GoMap.get
        (store.invalidateAuthorizeCodeSession invalidated).1.authorizeCodes
        code =
      if invalidated = code then
        (GoMap.get store.authorizeCodes code).map
          ({ · with active := false })
      else GoMap.get store.authorizeCodes code := by
  unfold invalidateAuthorizeCodeSession
  by_cases same : invalidated = code
  · subst same
    cases found : GoMap.get store.authorizeCodes invalidated with
    | none => simp [found]
    | some entry => simp
  · split
    · simp [same]
    · simp [GoMap.get_set, same]

/-- Step: a call ages every code that it does not create, and drops none. -/
theorem code_step (store : MemoryStore) {call : Call} {code : String}
    (notCreated : call.createdCode ≠ some code) :
    CodeAges store (store.apply call) code ∧
      ((GoMap.get store.authorizeCodes code).isSome →
        (GoMap.get (store.apply call).authorizeCodes code).isSome) := by
  have kept : (GoMap.get (store.apply call).authorizeCodes code =
      GoMap.get store.authorizeCodes code) →
      CodeAges store (store.apply call) code ∧
        ((GoMap.get store.authorizeCodes code).isSome →
          (GoMap.get (store.apply call).authorizeCodes code).isSome) := by
    intro same
    exact ⟨.of_eq same, fun present => same ▸ present⟩
  cases call with
  | createAuthorizeCodeSession created requester =>
      apply kept
      have different : created ≠ code := by
        intro same
        exact notCreated (congrArg some same)
      exact GoMap.get_set_of_ne _ _ different
  | invalidateAuthorizeCodeSession invalidated =>
      have slot := get_invalidateAuthorizeCodeSession store invalidated code
      unfold CodeAges
      rw [apply, slot]
      split
      · cases GoMap.get store.authorizeCodes code with
        | none => exact ⟨.refl _, id⟩
        | some entry => exact ⟨.spent rfl Bool.false_ne_true, id⟩
      · exact ⟨.refl _, id⟩
  | revokeRefreshToken requestID =>
      apply kept
      rw [apply, authorizeCodes_revokeRefreshToken]
  | revokeAccessToken requestID =>
      apply kept
      rw [apply, authorizeCodes_revokeAccessToken]
  | rotateRefreshToken requestID signature =>
      apply kept
      rw [apply, authorizeCodes_rotateRefreshToken]
  | setClient client =>
      apply kept
      rw [apply, (credentials_setClient store client).1]
  | setClientAssertionJWT clock jti exp =>
      apply kept
      rw [apply, (credentials_setClientAssertionJWT store clock jti exp).1]
  | _ => exact kept rfl

/-- Run: a code that is not created again only ages, and is not dropped. -/
theorem code_of_run {start finish : MemoryStore} {calls : List Call}
    (run : Run Step start calls finish) {code : String}
    (notCreated : ∀ call ∈ calls, call.createdCode ≠ some code) :
    CodeAges start finish code ∧
      ((GoMap.get start.authorizeCodes code).isSome →
        (GoMap.get finish.authorizeCodes code).isSome) := by
  refine run.invariant
    (fun reached => CodeAges start reached code ∧
      ((GoMap.get start.authorizeCodes code).isSome →
        (GoMap.get reached.authorizeCodes code).isSome))
    ?_ ⟨.refl _, id⟩
  rintro before call after member ⟨ages, present⟩ rfl
  obtain ⟨stepAges, stepPresent⟩ :=
    code_step before (notCreated call member)
  exact ⟨ages.trans stepAges, fun held => stepPresent (present held)⟩

/-- Run: every stored code was created, for the requester it is stored
with. -/
theorem code_created {calls : List Call} {store : MemoryStore}
    (run : Run Step empty calls store) {code : String}
    {entry : StoreAuthorizeCode}
    (found : GoMap.get store.authorizeCodes code = some entry) :
    .createAuthorizeCodeSession code entry.requester ∈ calls := by
  suffices created : ∀ entry : StoreAuthorizeCode,
      GoMap.get store.authorizeCodes code = some entry →
      .createAuthorizeCodeSession code entry.requester ∈ calls from
    created entry found
  refine run.invariant
    (fun reached => ∀ entry : StoreAuthorizeCode,
      GoMap.get reached.authorizeCodes code = some entry →
      .createAuthorizeCodeSession code entry.requester ∈ calls) ?_ ?_
  · rintro before call after member created rfl entry stored
    by_cases creates : call.createdCode = some code
    · cases call with
      | createAuthorizeCodeSession other requester =>
          cases creates
          rw [apply, createAuthorizeCodeSession, GoMap.get_set_self] at stored
          cases stored
          exact member
      | _ => cases creates
    · obtain ⟨old, oldFound, same, -⟩ :=
        (code_step before creates).1 entry stored
      rw [same]
      exact created old oldFound
  · intro entry absent
    cases absent

/-! ## Refresh tokens -/

/-- The slot of a refresh token ages. -/
def TokenAges (before after : MemoryStore) (signature : String) : Prop :=
  AgesTo (fun token : StoreRefreshToken => token.active = true)
    StoreRefreshToken.requester
    (GoMap.get before.refreshTokens signature)
    (GoMap.get after.refreshTokens signature)

private theorem refreshTokens_revokeAccessToken (store : MemoryStore)
    (requestID : String) :
    (store.revokeAccessToken requestID).refreshTokens =
      store.refreshTokens := by
  unfold revokeAccessToken
  split <;> rfl

private theorem refreshTokens_rotateRefreshToken (store : MemoryStore)
    (requestID signature : String) :
    (store.rotateRefreshToken requestID signature).1.refreshTokens =
      (store.revokeRefreshToken requestID).1.refreshTokens := by
  unfold rotateRefreshToken
  split
  · next called => rw [called]
  · next called =>
      rw [called]
      exact refreshTokens_revokeAccessToken _ requestID

private theorem refreshTokens_invalidateAuthorizeCodeSession
    (store : MemoryStore) (code : String) :
    (store.invalidateAuthorizeCodeSession code).1.refreshTokens =
      store.refreshTokens := by
  unfold invalidateAuthorizeCodeSession
  split <;> rfl

private theorem token_revoked (store : MemoryStore)
    (requestID signature : String) :
    TokenAges store (store.revokeRefreshToken requestID).1 signature ∧
      ((GoMap.get store.refreshTokens signature).isSome →
        (GoMap.get (store.revokeRefreshToken requestID).1.refreshTokens
          signature).isSome) := by
  unfold TokenAges revokeRefreshToken
  split
  · exact ⟨.refl _, id⟩
  · next indexed _ =>
      split
      · exact ⟨.refl _, id⟩
      · next token found =>
          simp only [GoMap.get_set]
          split
          · next same =>
              subst same
              rw [found]
              exact ⟨.spent rfl Bool.false_ne_true, id⟩
          · exact ⟨.refl _, id⟩

/-- Step: a call ages every refresh token that it does not create, and drops
none that it does not delete. -/
theorem token_step (store : MemoryStore) {call : Call} {signature : String}
    (notCreated : call.createdSignature ≠ some signature) :
    TokenAges store (store.apply call) signature ∧
      (call ≠ .deleteRefreshTokenSession signature →
        (GoMap.get store.refreshTokens signature).isSome →
        (GoMap.get (store.apply call).refreshTokens signature).isSome) := by
  have kept : (GoMap.get (store.apply call).refreshTokens signature =
      GoMap.get store.refreshTokens signature) →
      TokenAges store (store.apply call) signature ∧
        (call ≠ .deleteRefreshTokenSession signature →
          (GoMap.get store.refreshTokens signature).isSome →
          (GoMap.get (store.apply call).refreshTokens
            signature).isSome) := by
    intro same
    exact ⟨.of_eq same, fun _ present => same ▸ present⟩
  cases call with
  | createRefreshTokenSession created access requester =>
      apply kept
      have different : created ≠ signature := by
        intro same
        exact notCreated (congrArg some same)
      exact GoMap.get_set_of_ne _ _ different
  | deleteRefreshTokenSession deleted =>
      unfold TokenAges
      rw [apply, deleteRefreshTokenSession]
      simp only [GoMap.get_delete]
      split
      · next same =>
          subst same
          exact ⟨.dropped, fun other => absurd rfl other⟩
      · exact ⟨.refl _, fun _ => id⟩
  | revokeRefreshToken requestID =>
      obtain ⟨ages, present⟩ := token_revoked store requestID signature
      exact ⟨ages, fun _ => present⟩
  | rotateRefreshToken requestID presented =>
      obtain ⟨ages, present⟩ := token_revoked store requestID signature
      unfold TokenAges at ages ⊢
      rw [apply, refreshTokens_rotateRefreshToken]
      exact ⟨ages, fun _ => present⟩
  | revokeAccessToken requestID =>
      apply kept
      rw [apply, refreshTokens_revokeAccessToken]
  | invalidateAuthorizeCodeSession code =>
      apply kept
      rw [apply, refreshTokens_invalidateAuthorizeCodeSession]
  | setClient client =>
      apply kept
      rw [apply, (credentials_setClient store client).2]
  | setClientAssertionJWT clock jti exp =>
      apply kept
      rw [apply, (credentials_setClientAssertionJWT store clock jti exp).2]
  | _ => exact kept rfl

/-- Run: a refresh token that is not created again only ages, and is dropped
by its deletion only. -/
theorem token_of_run {start finish : MemoryStore} {calls : List Call}
    (run : Run Step start calls finish) {signature : String}
    (notCreated : ∀ call ∈ calls, call.createdSignature ≠ some signature) :
    TokenAges start finish signature ∧
      (.deleteRefreshTokenSession signature ∉ calls →
        (GoMap.get start.refreshTokens signature).isSome →
        (GoMap.get finish.refreshTokens signature).isSome) := by
  refine run.invariant
    (fun reached => TokenAges start reached signature ∧
      (.deleteRefreshTokenSession signature ∉ calls →
        (GoMap.get start.refreshTokens signature).isSome →
        (GoMap.get reached.refreshTokens signature).isSome))
    ?_ ⟨.refl _, fun _ => id⟩
  rintro before call after member ⟨ages, present⟩ rfl
  obtain ⟨stepAges, stepPresent⟩ :=
    token_step before (notCreated call member)
  refine ⟨ages.trans stepAges, fun notDeleted held => ?_⟩
  apply stepPresent
  · rintro rfl
    exact notDeleted member
  · exact present notDeleted held

/-- Run: every stored refresh token was created, for the requester it is
stored with. -/
theorem token_created {calls : List Call} {store : MemoryStore}
    (run : Run Step empty calls store) {signature : String}
    {token : StoreRefreshToken}
    (found : GoMap.get store.refreshTokens signature = some token) :
    ∃ access, .createRefreshTokenSession signature access token.requester ∈
      calls := by
  suffices created : ∀ token : StoreRefreshToken,
      GoMap.get store.refreshTokens signature = some token →
      ∃ access, .createRefreshTokenSession signature access
        token.requester ∈ calls from
    created token found
  refine run.invariant
    (fun reached => ∀ token : StoreRefreshToken,
      GoMap.get reached.refreshTokens signature = some token →
      ∃ access, .createRefreshTokenSession signature access
        token.requester ∈ calls) ?_ ?_
  · rintro before call after member created rfl token stored
    by_cases creates : call.createdSignature = some signature
    · cases call with
      | createRefreshTokenSession other access requester =>
          cases creates
          rw [apply, createRefreshTokenSession] at stored
          simp only [GoMap.get_set_self] at stored
          cases stored
          exact ⟨access, member⟩
      | _ => cases creates
    · obtain ⟨old, oldFound, same, -⟩ :=
        (token_step before creates).1 token stored
      rw [same]
      exact created old oldFound
  · intro token absent
    cases absent

/-! ## Spent credentials stay spent -/

private theorem invalidated_entry {store : MemoryStore} {code : String}
    (succeeded : (store.invalidateAuthorizeCodeSession code).2 = none) :
    ∃ entry, GoMap.get store.authorizeCodes code = some entry ∧
      GoMap.get (store.invalidateAuthorizeCodeSession code).1.authorizeCodes
        code = some { entry with active := false } := by
  unfold invalidateAuthorizeCodeSession at succeeded ⊢
  cases found : GoMap.get store.authorizeCodes code with
  | none =>
      rw [found] at succeeded
      cases succeeded
  | some entry => exact ⟨entry, rfl, GoMap.get_set_self _ _ _⟩

private theorem code_stays_spent {first later : List Call}
    {store finish : MemoryStore} (reached : Run Step empty first store)
    {code : String}
    (succeeded : (store.invalidateAuthorizeCodeSession code).2 = none)
    (once : CreatesOnce
      (first ++ .invalidateAuthorizeCodeSession code :: later))
    (continued : Run Step (store.invalidateAuthorizeCodeSession code).1 later
      finish) :
    ∃ requester, .createAuthorizeCodeSession code requester ∈ first ∧
      finish.getAuthorizeCodeSession code =
        (some requester, some .invalidatedAuthorizeCode) := by
  obtain ⟨entry, found, invalidated⟩ := invalidated_entry succeeded
  have created := code_created reached found
  have notCreated : ∀ call ∈ later, call.createdCode ≠ some code := by
    intro call member
    exact not_created_later once.1 created rfl call
      (List.mem_cons_of_mem _ member)
  obtain ⟨ages, present⟩ := code_of_run continued notCreated
  unfold CodeAges at ages
  rw [invalidated] at ages present
  obtain ⟨last, lastFound⟩ := Option.isSome_iff_exists.mp (present rfl)
  obtain ⟨inactive, same⟩ := ages.not_valid Bool.false_ne_true lastFound
  refine ⟨entry.requester, created, ?_⟩
  unfold getAuthorizeCodeSession
  rw [lastFound]
  simp [inactive, same]

/-- A token that is inactive or absent is not returned without error. -/
theorem getRefreshTokenSession_error {store : MemoryStore}
    {signature : String}
    (spent : ∀ token, GoMap.get store.refreshTokens signature = some token →
      token.active = false) :
    (store.getRefreshTokenSession signature).2 ≠ none := by
  unfold getRefreshTokenSession
  cases found : GoMap.get store.refreshTokens signature with
  | none => simp
  | some token => simp [spent token found]

private theorem token_stays_spent {start finish : MemoryStore}
    {later : List Call} (continued : Run Step start later finish)
    {signature : String}
    (notCreated : ∀ call ∈ later, call.createdSignature ≠ some signature)
    (spent : ∀ token, GoMap.get start.refreshTokens signature = some token →
      token.active = false) :
    (finish.getRefreshTokenSession signature).2 ≠ none := by
  obtain ⟨ages, -⟩ := token_of_run continued notCreated
  apply getRefreshTokenSession_error
  intro token found
  obtain ⟨old, oldFound, -, wasActive⟩ := ages token found
  have inactive := spent old oldFound
  cases active : token.active with
  | false => rfl
  | true =>
      rw [wasActive active] at inactive
      cases inactive

/-- An inactive refresh token keeps its requester until it is deleted. -/
private theorem token_keeps_requester {start finish : MemoryStore}
    {later : List Call} (continued : Run Step start later finish)
    {signature : String}
    (notCreated : ∀ call ∈ later, call.createdSignature ≠ some signature)
    (notDeleted : .deleteRefreshTokenSession signature ∉ later)
    {token : StoreRefreshToken}
    (found : GoMap.get start.refreshTokens signature = some token)
    (inactive : token.active = false) :
    finish.getRefreshTokenSession signature =
      (some token.requester, some .inactiveToken) := by
  obtain ⟨ages, present⟩ := token_of_run continued notCreated
  have held := present notDeleted (Option.isSome_of_eq_some found)
  obtain ⟨last, lastFound⟩ := Option.isSome_iff_exists.mp held
  unfold TokenAges at ages
  rw [found] at ages
  obtain ⟨stillInactive, same⟩ := ages.not_valid (by simp [inactive]) lastFound
  unfold getRefreshTokenSession
  rw [lastFound]
  simp [stillInactive, same]

/-- Once a code is invalidated, and once a refresh token is inactive or
deleted, no later sequence of calls that creates each credential once makes it
readable without error.  An invalidated code, and an inactive refresh token
that is not deleted, are returned beside their error with the requester they
were created for. -/
theorem spent_credentials_stay_spent (first later : List Call)
    (store finish : MemoryStore) (reached : Run Step empty first store) :
    (∀ code, (store.invalidateAuthorizeCodeSession code).2 = none →
      CreatesOnce (first ++ .invalidateAuthorizeCodeSession code :: later) →
      Run Step (store.invalidateAuthorizeCodeSession code).1 later finish →
      ∃ requester, .createAuthorizeCodeSession code requester ∈ first ∧
        finish.getAuthorizeCodeSession code =
          (some requester, some .invalidatedAuthorizeCode)) ∧
    (CreatesOnce (first ++ later) → Run Step store later finish →
      ∀ signature,
        (∃ access requester,
          .createRefreshTokenSession signature access requester ∈ first) →
        (∀ token, GoMap.get store.refreshTokens signature = some token →
          token.active = false) →
        (finish.getRefreshTokenSession signature).2 ≠ none ∧
        ((GoMap.get store.refreshTokens signature).isSome →
          .deleteRefreshTokenSession signature ∉ later →
          ∃ access requester,
            .createRefreshTokenSession signature access requester ∈ first ∧
            finish.getRefreshTokenSession signature =
              (some requester, some .inactiveToken))) := by
  constructor
  · intro code succeeded once continued
    exact code_stays_spent reached succeeded once continued
  · rintro once continued signature ⟨access, requester, created⟩ spent
    have notCreated := not_created_later once.2 created rfl
    refine ⟨token_stays_spent continued notCreated spent, ?_⟩
    intro present notDeleted
    obtain ⟨token, found⟩ := Option.isSome_iff_exists.mp present
    obtain ⟨originalAccess, original⟩ := token_created reached found
    refine ⟨originalAccess, token.requester, original, ?_⟩
    exact token_keeps_requester continued notCreated notDeleted found
      (spent token found)

/-- A code and a refresh token are created and used. -/
def loginCalls : List Call :=
  [.createAuthorizeCodeSession "code" default,
    .createRefreshTokenSession "refresh" "access" default,
    .revokeRefreshToken ""]

/-- What happens later. -/
def laterCalls : List Call :=
  [.createAuthorizeCodeSession "other" default, .deleteClient "app",
    .rotateRefreshToken "" "refresh"]

theorem spent_credentials_stay_spent_login :
    let store := loginCalls.foldl apply empty
    let invalidated := (store.invalidateAuthorizeCodeSession "code").1
    (∃ requester,
      .createAuthorizeCodeSession "code" requester ∈ loginCalls ∧
      (laterCalls.foldl apply invalidated).getAuthorizeCodeSession "code" =
        (some requester, some .invalidatedAuthorizeCode)) ∧
    ∃ access requester,
      .createRefreshTokenSession "refresh" access requester ∈ loginCalls ∧
      (laterCalls.foldl apply store).getRefreshTokenSession "refresh" =
        (some requester, some .inactiveToken) := by
  constructor
  · refine (spent_credentials_stay_spent loginCalls laterCalls _ _
      (Run.of_foldl apply empty loginCalls)).1 "code" rfl ?_
      (Run.of_foldl _ _ _)
    constructor <;> decide
  · refine ((spent_credentials_stay_spent loginCalls laterCalls _ _
      (Run.of_foldl apply empty loginCalls)).2 ?_ (Run.of_foldl _ _ _)
      "refresh" ⟨"access", default, ?_⟩ ?_).2 rfl ?_
    · constructor <;> decide
    · exact List.mem_cons_of_mem _ List.mem_cons_self
    · intro token found
      cases found
      rfl
    · simp [laterCalls]

end Kubauth.MemoryStore
