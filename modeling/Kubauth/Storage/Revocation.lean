import Kubauth.Run
import Kubauth.SlotRegistry
import Kubauth.Storage.Memory

/-!
# Revocation by request id

Access and refresh tokens are stored by signature, and two indexes map a
request id to one signature.  Each pair of tables is a registry with one slot
per owner: a token is live for the id of its request, and the index is the
slot.  Revocation by request id reaches the token in the slot, so it is
complete as long as no creation shadows a live token of the same request.
-/

namespace Kubauth.MemoryStore

/-- The id of the request that an active refresh token belongs to. -/
def liveRequest (token : StoreRefreshToken) : Option String :=
  if token.active then some token.requester.id else none

/-- The access tokens, by the id of their request. -/
def accessRegistry (store : MemoryStore) : SlotRegistry String String :=
  { owner := Option.map Requester.id ∘ GoMap.get store.accessTokens
    slot := GoMap.get store.accessTokenRequestIDs }

/-- The active refresh tokens, by the id of their request. -/
def refreshRegistry (store : MemoryStore) : SlotRegistry String String :=
  { owner := (Option.bind · liveRequest) ∘ GoMap.get store.refreshTokens
    slot := GoMap.get store.refreshTokenRequestIDs }

theorem accessRegistry_owner_iff (store : MemoryStore)
    (signature id : String) :
    store.accessRegistry.owner signature = some id ↔
      ∃ requester, GoMap.get store.accessTokens signature = some requester ∧
        requester.id = id := by
  simp [accessRegistry]

theorem refreshRegistry_owner_iff (store : MemoryStore)
    (signature id : String) :
    store.refreshRegistry.owner signature = some id ↔
      ∃ token, GoMap.get store.refreshTokens signature = some token ∧
        token.active = true ∧ token.requester.id = id := by
  simp [refreshRegistry, liveRequest, Option.bind_eq_some_iff]

/-! ## What each call does to the registries -/

theorem accessRegistry_createAccessTokenSession (store : MemoryStore)
    (signature : String) (requester : Requester) :
    (store.createAccessTokenSession signature requester).accessRegistry =
      store.accessRegistry.create signature requester.id := by
  simp [accessRegistry, createAccessTokenSession, SlotRegistry.create,
    GoMap.get_set_eq_update, Function.comp_update]

theorem accessRegistry_deleteAccessTokenSession (store : MemoryStore)
    (signature : String) :
    (store.deleteAccessTokenSession signature).accessRegistry =
      store.accessRegistry.remove signature := by
  simp [accessRegistry, deleteAccessTokenSession, SlotRegistry.remove,
    GoMap.get_delete_eq_update, Function.comp_update]

theorem accessRegistry_revokeAccessToken (store : MemoryStore)
    (requestID : String) :
    (store.revokeAccessToken requestID).accessRegistry =
      store.accessRegistry.revoke requestID := by
  have slot : store.accessRegistry.slot requestID =
      GoMap.get store.accessTokenRequestIDs requestID := rfl
  rw [revokeAccessToken, SlotRegistry.revoke, slot]
  cases GoMap.get store.accessTokenRequestIDs requestID with
  | none => rfl
  | some signature =>
      exact accessRegistry_deleteAccessTokenSession store signature

theorem refreshRegistry_createRefreshTokenSession (store : MemoryStore)
    (signature accessTokenSignature : String) (requester : Requester) :
    (store.createRefreshTokenSession signature accessTokenSignature
        requester).refreshRegistry =
      store.refreshRegistry.create signature requester.id := by
  simp [refreshRegistry, createRefreshTokenSession, SlotRegistry.create,
    GoMap.get_set_eq_update, Function.comp_update, liveRequest]

theorem refreshRegistry_deleteRefreshTokenSession (store : MemoryStore)
    (signature : String) :
    (store.deleteRefreshTokenSession signature).refreshRegistry =
      store.refreshRegistry.remove signature := by
  simp [refreshRegistry, deleteRefreshTokenSession, SlotRegistry.remove,
    GoMap.get_delete_eq_update, Function.comp_update]

/-- A revocation that fails, because the indexed token was deleted, has
nothing left to deactivate. -/
theorem refreshRegistry_revokeRefreshToken (store : MemoryStore)
    (requestID : String) :
    (store.revokeRefreshToken requestID).1.refreshRegistry =
      store.refreshRegistry.revoke requestID := by
  have slot : store.refreshRegistry.slot requestID =
      GoMap.get store.refreshTokenRequestIDs requestID := rfl
  rw [revokeRefreshToken, SlotRegistry.revoke, slot]
  cases GoMap.get store.refreshTokenRequestIDs requestID with
  | none => rfl
  | some signature =>
      cases stored : GoMap.get store.refreshTokens signature with
      | none =>
          have absent : store.refreshRegistry.owner signature = none := by
            simp [refreshRegistry, stored]
          simp [SlotRegistry.remove, stored, ← absent]
      | some token =>
          simp [refreshRegistry, SlotRegistry.remove, stored,
            GoMap.get_set_eq_update, Function.comp_update, liveRequest]

theorem accessRegistry_revokeRefreshToken (store : MemoryStore)
    (requestID : String) :
    (store.revokeRefreshToken requestID).1.accessRegistry =
      store.accessRegistry := by
  unfold revokeRefreshToken
  split
  · rfl
  · split <;> rfl

theorem refreshRegistry_revokeAccessToken (store : MemoryStore)
    (requestID : String) :
    (store.revokeAccessToken requestID).refreshRegistry =
      store.refreshRegistry := by
  unfold revokeAccessToken
  split <;> rfl

/-- Whatever signature is presented, rotation revokes the indexed token. -/
theorem refreshRegistry_rotateRefreshToken (store : MemoryStore)
    (requestID signature : String) :
    (store.rotateRefreshToken requestID signature).1.refreshRegistry =
      store.refreshRegistry.revoke requestID := by
  rw [← refreshRegistry_revokeRefreshToken]
  unfold rotateRefreshToken
  cases revoked : store.revokeRefreshToken requestID with
  | mk after failure =>
      cases failure with
      | none => exact refreshRegistry_revokeAccessToken after requestID
      | some failure => rfl

/-! ## Runs -/

/-- A creation shadows no live token of the same request.  Other calls are
not restricted. -/
def Unshadowing (store : MemoryStore) : Call → Prop
  | .createAccessTokenSession signature requester =>
      ∀ other existing, GoMap.get store.accessTokens other = some existing →
        existing.id = requester.id → other = signature
  | .createRefreshTokenSession signature _ requester =>
      ∀ other token, GoMap.get store.refreshTokens other = some token →
        token.active = true → token.requester.id = requester.id →
        other = signature
  | _ => True

private theorem accessRegistry_rotateRefreshToken_step (store : MemoryStore)
    (requestID signature : String) :
    store.accessRegistry.Step
      (store.rotateRefreshToken requestID signature).1.accessRegistry := by
  have kept := accessRegistry_revokeRefreshToken store requestID
  unfold rotateRefreshToken
  cases revoked : store.revokeRefreshToken requestID with
  | mk after failure =>
      rw [revoked] at kept
      cases failure with
      | none =>
          simp only
          rw [accessRegistry_revokeAccessToken, kept]
          exact .revoke requestID
      | some failure =>
          simp only
          rw [kept]
          exact .stay

private theorem accessRegistry_setClient (store : MemoryStore)
    (client : KubauthClient) :
    (store.setClient client).1.accessRegistry = store.accessRegistry ∧
      (store.setClient client).1.refreshRegistry = store.refreshRegistry := by
  unfold setClient
  simp only
  split
  · split <;> exact ⟨rfl, rfl⟩
  · exact ⟨rfl, rfl⟩

private theorem registries_invalidateAuthorizeCodeSession
    (store : MemoryStore) (code : String) :
    (store.invalidateAuthorizeCodeSession code).1.accessRegistry =
        store.accessRegistry ∧
      (store.invalidateAuthorizeCodeSession code).1.refreshRegistry =
        store.refreshRegistry := by
  unfold invalidateAuthorizeCodeSession
  split <;> exact ⟨rfl, rfl⟩

private theorem registries_setClientAssertionJWT (store : MemoryStore)
    (clock : String → Int) (jti : String) (exp : Int) :
    (store.setClientAssertionJWT clock jti exp).1.accessRegistry =
        store.accessRegistry ∧
      (store.setClientAssertionJWT clock jti exp).1.refreshRegistry =
        store.refreshRegistry := by
  unfold setClientAssertionJWT
  simp only
  split <;> exact ⟨rfl, rfl⟩

theorem registries_step {before : MemoryStore} {call : Call}
    (unshadowing : before.Unshadowing call) :
    before.accessRegistry.Step (before.apply call).accessRegistry ∧
      before.refreshRegistry.Step (before.apply call).refreshRegistry := by
  cases call with
  | createAccessTokenSession signature requester =>
      refine ⟨?_, .stay⟩
      rw [apply, accessRegistry_createAccessTokenSession]
      refine .create _ _ fun other live => ?_
      obtain ⟨existing, found, same⟩ :=
        (accessRegistry_owner_iff before other _).mp live
      exact unshadowing other existing found same
  | deleteAccessTokenSession signature =>
      refine ⟨?_, .stay⟩
      rw [apply, accessRegistry_deleteAccessTokenSession]
      exact .remove signature
  | revokeAccessToken requestID =>
      rw [apply, accessRegistry_revokeAccessToken,
        refreshRegistry_revokeAccessToken]
      exact ⟨.revoke requestID, .stay⟩
  | createRefreshTokenSession signature accessTokenSignature requester =>
      refine ⟨.stay, ?_⟩
      rw [apply, refreshRegistry_createRefreshTokenSession]
      refine .create _ _ fun other live => ?_
      obtain ⟨token, found, active, same⟩ :=
        (refreshRegistry_owner_iff before other _).mp live
      exact unshadowing other token found active same
  | deleteRefreshTokenSession signature =>
      refine ⟨.stay, ?_⟩
      rw [apply, refreshRegistry_deleteRefreshTokenSession]
      exact .remove signature
  | revokeRefreshToken requestID =>
      rw [apply, refreshRegistry_revokeRefreshToken,
        accessRegistry_revokeRefreshToken]
      exact ⟨.stay, .revoke requestID⟩
  | rotateRefreshToken requestID signature =>
      refine ⟨accessRegistry_rotateRefreshToken_step _ _ _, ?_⟩
      rw [apply, refreshRegistry_rotateRefreshToken]
      exact .revoke requestID
  | setClient client =>
      rw [apply, (accessRegistry_setClient before client).1,
        (accessRegistry_setClient before client).2]
      exact ⟨.stay, .stay⟩
  | invalidateAuthorizeCodeSession code =>
      rw [apply, (registries_invalidateAuthorizeCodeSession before code).1,
        (registries_invalidateAuthorizeCodeSession before code).2]
      exact ⟨.stay, .stay⟩
  | setClientAssertionJWT clock jti exp =>
      rw [apply, (registries_setClientAssertionJWT before clock jti exp).1,
        (registries_setClientAssertionJWT before clock jti exp).2]
      exact ⟨.stay, .stay⟩
  | _ => exact ⟨.stay, .stay⟩

theorem covered_of_run {calls : List Call} {store : MemoryStore}
    (run : Run (Guarded Unshadowing Step) empty calls store) (id : String) :
    store.accessRegistry.Covered id ∧ store.refreshRegistry.Covered id := by
  refine run.invariant
    (fun state =>
      state.accessRegistry.Covered id ∧ state.refreshRegistry.Covered id)
    ?_ ?_
  · rintro before call after - ⟨access, refresh⟩ ⟨unshadowing, rfl⟩
    obtain ⟨accessStep, refreshStep⟩ := registries_step unshadowing
    exact ⟨access.step accessStep, refresh.step refreshStep⟩
  · constructor <;> intro key live <;>
      simp [empty, accessRegistry, refreshRegistry] at live

/-! ## Completeness -/

/-- After `RevokeAccessToken`, no signature gives a token of the request. -/
def AccessRevocationComplete (store : MemoryStore) (requestID : String) :
    Prop :=
  ∀ signature requester,
    ((store.revokeAccessToken requestID).getAccessTokenSession signature).1 =
      some requester → requester.id ≠ requestID

/-- After a `RevokeRefreshToken` without error, no refresh token of the
request is active. -/
def RefreshRevocationComplete (store : MemoryStore) (requestID : String) :
    Prop :=
  (store.revokeRefreshToken requestID).2 = none →
    ∀ signature token,
      GoMap.get (store.revokeRefreshToken requestID).1.refreshTokens
        signature = some token →
      token.requester.id = requestID → token.active = false

/-- After `RevokeRefreshToken`, whether or not it returns an error, no refresh
token of the request is active. -/
def RefreshTokensRevoked (store : MemoryStore) (requestID : String) : Prop :=
  ∀ signature token,
    GoMap.get (store.revokeRefreshToken requestID).1.refreshTokens
      signature = some token →
    token.requester.id = requestID → token.active = false

theorem accessRevocationComplete_iff (store : MemoryStore)
    (requestID : String) :
    store.AccessRevocationComplete requestID ↔
      store.accessRegistry.Covered requestID := by
  rw [← SlotRegistry.clear_revoke_iff, ← accessRegistry_revokeAccessToken]
  constructor
  · intro complete signature live
    obtain ⟨requester, found, same⟩ :=
      (accessRegistry_owner_iff _ _ _).mp live
    exact complete signature requester
      (by simp [getAccessTokenSession, found]) same
  · intro clear signature requester returned same
    apply clear signature
    rw [accessRegistry_owner_iff]
    refine ⟨requester, ?_, same⟩
    unfold getAccessTokenSession at returned
    split at returned
    · cases returned
    · next stored found =>
        rw [found]
        exact returned

/-- The index entry of the request names a token that is no longer stored. -/
def RefreshIndexDangling (store : MemoryStore) (requestID : String) : Prop :=
  ∃ signature,
    GoMap.get store.refreshTokenRequestIDs requestID = some signature ∧
      GoMap.get store.refreshTokens signature = none

private theorem revokeRefreshToken_error_iff (store : MemoryStore)
    (requestID : String) :
    (store.revokeRefreshToken requestID).2 ≠ none ↔
      store.RefreshIndexDangling requestID := by
  unfold revokeRefreshToken RefreshIndexDangling
  cases GoMap.get store.refreshTokenRequestIDs requestID with
  | none => simp
  | some signature =>
      cases stored : GoMap.get store.refreshTokens signature <;> simp [stored]

theorem refreshTokensRevoked_iff (store : MemoryStore) (requestID : String) :
    store.RefreshTokensRevoked requestID ↔
      store.refreshRegistry.Covered requestID := by
  rw [← SlotRegistry.clear_revoke_iff, ← refreshRegistry_revokeRefreshToken]
  constructor
  · intro revoked signature live
    obtain ⟨token, found, active, same⟩ :=
      (refreshRegistry_owner_iff _ _ _).mp live
    have inactive := revoked signature token found same
    rw [active] at inactive
    cases inactive
  · intro clear signature token found same
    by_contra active
    apply clear signature
    rw [refreshRegistry_owner_iff]
    exact ⟨token, found, by simpa using active, same⟩

theorem refreshRevocationComplete_iff (store : MemoryStore)
    (requestID : String) :
    store.RefreshRevocationComplete requestID ↔
      store.RefreshIndexDangling requestID ∨
        store.refreshRegistry.Covered requestID := by
  rw [← refreshTokensRevoked_iff, ← revokeRefreshToken_error_iff]
  constructor
  · intro complete
    by_cases succeeded : (store.revokeRefreshToken requestID).2 = none
    · exact .inr (complete succeeded)
    · exact .inl succeeded
  · rintro (failed | revoked) succeeded
    · exact absurd succeeded failed
    · exact revoked

/-- Revocation by request id is complete exactly for the requests whose live
tokens are all indexed, and in a run in which no creation shadows a live token
of the same request that is every request. -/
theorem revocation_complete (store : MemoryStore) (requestID : String) :
    (store.AccessRevocationComplete requestID ↔
        store.accessRegistry.Covered requestID) ∧
      (store.RefreshRevocationComplete requestID ↔
        store.RefreshIndexDangling requestID ∨
          store.refreshRegistry.Covered requestID) ∧
      ∀ calls, Run (Guarded Unshadowing Step) empty calls store →
        store.AccessRevocationComplete requestID ∧
          store.RefreshRevocationComplete requestID := by
  have accessIff := accessRevocationComplete_iff store requestID
  have refreshIff := refreshRevocationComplete_iff store requestID
  refine ⟨accessIff, refreshIff, fun calls run => ?_⟩
  obtain ⟨access, refresh⟩ := covered_of_run run requestID
  exact ⟨accessIff.mpr access, refreshIff.mpr (.inr refresh)⟩

/-- One code exchange: nothing is shadowed. -/
theorem revocation_complete_codeExchange :
    ∃ store requester,
      Run (Guarded Unshadowing Step) empty
        [.createAccessTokenSession "access" requester,
          .createRefreshTokenSession "refresh" "access" requester] store ∧
        store.AccessRevocationComplete requester.id ∧
        store.RefreshRevocationComplete requester.id := by
  let requester : Requester := { (default : Requester) with id := "r" }
  have run : Run (Guarded Unshadowing Step) empty
      [.createAccessTokenSession "access" requester,
        .createRefreshTokenSession "refresh" "access" requester]
      ([Call.createAccessTokenSession "access" requester,
        .createRefreshTokenSession "refresh" "access" requester].foldl
          apply empty) := by
    refine .cons ⟨?_, rfl⟩ (.cons ⟨?_, rfl⟩ (.nil _))
    · intro other existing found
      cases found
    · intro other token found
      cases found
  exact ⟨_, requester, run,
    (revocation_complete _ requester.id).2.2 _ run⟩

/-- The tokens of one grant: an access token issued with the authorize
response, then the tokens of the code exchange and of one more exchange, all
under the request id `r` and each under its own signature. -/
def hybridGrant (requester : Requester) : List Call :=
  [.createAccessTokenSession "implicit" requester,
    .createAccessTokenSession "access1" requester,
    .createRefreshTokenSession "refresh1" "access1" requester,
    .createAccessTokenSession "access2" requester,
    .createRefreshTokenSession "refresh2" "access2" requester]

theorem revocation_incomplete_hybridGrant :
    ∃ store requester,
      Run Step empty (hybridGrant requester) store ∧
        ¬store.AccessRevocationComplete "r" ∧
        ¬store.RefreshRevocationComplete "r" := by
  let requester : Requester := { (default : Requester) with id := "r" }
  refine ⟨(hybridGrant requester).foldl apply empty, requester,
    Run.of_foldl apply empty _, ?_, ?_⟩
  · intro complete
    exact complete "implicit" requester rfl rfl
  · intro complete
    have inactive := complete rfl "refresh1" _ rfl rfl
    cases inactive

end Kubauth.MemoryStore
