import Kubauth.Storage.Revocation
import Kubauth.Storage.SpentCredentials

/-!
# Requests that create their tokens once

A run in which no request creates a second access token or a second refresh
token shadows nothing, in whatever order the calls of different requests are
made.  Every token of such a run can be revoked.
-/

namespace Kubauth.MemoryStore

/-- The id of the request for which the call creates an access token. -/
def Call.accessRequest : Call → Option String
  | .createAccessTokenSession _ requester => some requester.id
  | _ => none

/-- The id of the request for which the call creates a refresh token. -/
def Call.refreshRequest : Call → Option String
  | .createRefreshTokenSession _ _ requester => some requester.id
  | _ => none

/-- No request creates two tokens of one kind. -/
def SingleCreations (calls : List Call) : Prop :=
  (calls.filterMap Call.accessRequest).Nodup ∧
    (calls.filterMap Call.refreshRequest).Nodup

theorem SingleCreations.perm {calls others : List Call}
    (single : SingleCreations calls) (same : calls.Perm others) :
    SingleCreations others :=
  ⟨(same.filterMap Call.accessRequest).nodup_iff.mp single.1,
    (same.filterMap Call.refreshRequest).nodup_iff.mp single.2⟩

/-! ## Where tokens come from -/

theorem get_deleteAccessTokenSession {store : MemoryStore}
    {deleted signature : String} {requester : Requester}
    (found : GoMap.get (store.deleteAccessTokenSession deleted).accessTokens
      signature = some requester) :
    GoMap.get store.accessTokens signature = some requester := by
  rw [deleteAccessTokenSession, GoMap.get_delete] at found
  split at found
  · cases found
  · exact found

theorem get_revokeAccessToken {store : MemoryStore}
    {requestID signature : String} {requester : Requester}
    (found : GoMap.get (store.revokeAccessToken requestID).accessTokens
      signature = some requester) :
    GoMap.get store.accessTokens signature = some requester := by
  unfold revokeAccessToken at found
  split at found
  · exact found
  · exact get_deleteAccessTokenSession found

theorem accessTokens_revokeRefreshToken (store : MemoryStore)
    (requestID : String) :
    (store.revokeRefreshToken requestID).1.accessTokens =
      store.accessTokens := by
  unfold revokeRefreshToken
  split
  · rfl
  · split
    · rfl
    · rfl

theorem get_rotateRefreshToken {store : MemoryStore}
    {requestID presented signature : String} {requester : Requester}
    (found : GoMap.get
      (store.rotateRefreshToken requestID presented).1.accessTokens
      signature = some requester) :
    GoMap.get store.accessTokens signature = some requester := by
  have kept := accessTokens_revokeRefreshToken store requestID
  unfold rotateRefreshToken at found
  split at found
  · next called =>
      rw [called] at kept
      rwa [kept] at found
  · next called =>
      rw [called] at kept
      have stored := get_revokeAccessToken found
      rwa [kept] at stored

theorem idSessions_revokeAccessToken (store : MemoryStore)
    (requestID : String) :
    (store.revokeAccessToken requestID).idSessions = store.idSessions := by
  unfold revokeAccessToken
  split <;> rfl

theorem idSessions_revokeRefreshToken (store : MemoryStore)
    (requestID : String) :
    (store.revokeRefreshToken requestID).1.idSessions = store.idSessions := by
  unfold revokeRefreshToken
  split
  · rfl
  · split <;> rfl

theorem idSessions_rotateRefreshToken (store : MemoryStore)
    (requestID presented : String) :
    (store.rotateRefreshToken requestID presented).1.idSessions =
      store.idSessions := by
  have kept := idSessions_revokeRefreshToken store requestID
  unfold rotateRefreshToken
  split
  · next called =>
      rw [called] at kept
      exact kept
  · next called =>
      rw [called] at kept
      exact (idSessions_revokeAccessToken _ requestID).trans kept

/-- The calls on clients, codes and assertions leave the sessions of access
tokens and of ID tokens alone. -/
theorem other_setClient (store : MemoryStore) (client : KubauthClient) :
    (store.setClient client).1.accessTokens = store.accessTokens ∧
      (store.setClient client).1.idSessions = store.idSessions := by
  unfold setClient
  simp only
  split
  · split <;> exact ⟨rfl, rfl⟩
  · exact ⟨rfl, rfl⟩

theorem other_invalidateAuthorizeCodeSession (store : MemoryStore)
    (code : String) :
    (store.invalidateAuthorizeCodeSession code).1.accessTokens =
        store.accessTokens ∧
      (store.invalidateAuthorizeCodeSession code).1.idSessions =
        store.idSessions := by
  unfold invalidateAuthorizeCodeSession
  split <;> exact ⟨rfl, rfl⟩

theorem other_setClientAssertionJWT (store : MemoryStore)
    (clock : String → Int) (jti : String) (exp : Int) :
    (store.setClientAssertionJWT clock jti exp).1.accessTokens =
        store.accessTokens ∧
      (store.setClientAssertionJWT clock jti exp).1.idSessions =
        store.idSessions := by
  unfold setClientAssertionJWT
  simp only
  split <;> exact ⟨rfl, rfl⟩

/-- Step: an access token is one that the call creates or one that was there
before. -/
theorem accessTokens_step {store : MemoryStore} {call : Call}
    {signature : String} {requester : Requester}
    (found : GoMap.get (store.apply call).accessTokens signature =
      some requester) :
    call = .createAccessTokenSession signature requester ∨
      GoMap.get store.accessTokens signature = some requester := by
  cases call with
  | createAccessTokenSession created owner =>
      rw [apply, createAccessTokenSession, GoMap.get_set] at found
      split at found
      · next same =>
          cases found
          exact .inl (by rw [same])
      · exact .inr found
  | deleteAccessTokenSession deleted =>
      exact .inr (get_deleteAccessTokenSession found)
  | revokeAccessToken requestID => exact .inr (get_revokeAccessToken found)
  | rotateRefreshToken requestID presented =>
      exact .inr (get_rotateRefreshToken found)
  | revokeRefreshToken requestID =>
      rw [apply, accessTokens_revokeRefreshToken] at found
      exact .inr found
  | setClient client =>
      rw [apply, (other_setClient store client).1] at found
      exact .inr found
  | invalidateAuthorizeCodeSession code =>
      rw [apply, (other_invalidateAuthorizeCodeSession store code).1] at found
      exact .inr found
  | setClientAssertionJWT clock jti exp =>
      rw [apply, (other_setClientAssertionJWT store clock jti exp).1] at found
      exact .inr found
  | _ => exact .inr found

/-- Run: every stored access token was created, for the requester it is
stored with. -/
theorem access_created {calls : List Call} {store : MemoryStore}
    (run : Run Step empty calls store) {signature : String}
    {requester : Requester}
    (found : GoMap.get store.accessTokens signature = some requester) :
    .createAccessTokenSession signature requester ∈ calls := by
  refine run.invariant
    (fun reached => GoMap.get reached.accessTokens signature =
      some requester → .createAccessTokenSession signature requester ∈ calls)
    ?_ ?_ found
  · rintro before call after member created rfl stored
    cases accessTokens_step stored with
    | inl creates => exact creates ▸ member
    | inr earlier => exact created earlier
  · intro absent
    cases absent

/-- Of the calls that touch an ID token's session, one creates it and one
deletes it. -/
theorem idSessions_step {store : MemoryStore} {call : Call} {code : String}
    {requester : Requester}
    (found : GoMap.get (store.apply call).idSessions code = some requester) :
    call = .createOpenIDConnectSession code requester ∨
      GoMap.get store.idSessions code = some requester := by
  cases call with
  | createOpenIDConnectSession created owner =>
      rw [apply, createOpenIDConnectSession, GoMap.get_set] at found
      split at found
      · next same =>
          cases found
          exact .inl (by rw [same])
      · exact .inr found
  | deleteOpenIDConnectSession deleted =>
      rw [apply, deleteOpenIDConnectSession, GoMap.get_delete] at found
      split at found
      · cases found
      · exact .inr found
  | rotateRefreshToken requestID presented =>
      rw [apply, idSessions_rotateRefreshToken] at found
      exact .inr found
  | revokeAccessToken requestID =>
      rw [apply, idSessions_revokeAccessToken] at found
      exact .inr found
  | revokeRefreshToken requestID =>
      rw [apply, idSessions_revokeRefreshToken] at found
      exact .inr found
  | setClient client =>
      rw [apply, (other_setClient store client).2] at found
      exact .inr found
  | invalidateAuthorizeCodeSession code =>
      rw [apply, (other_invalidateAuthorizeCodeSession store code).2] at found
      exact .inr found
  | setClientAssertionJWT clock jti exp =>
      rw [apply, (other_setClientAssertionJWT store clock jti exp).2] at found
      exact .inr found
  | _ => exact .inr found

theorem idSession_created {calls : List Call} {store : MemoryStore}
    (run : Run Step empty calls store) {code : String}
    {requester : Requester}
    (found : GoMap.get store.idSessions code = some requester) :
    .createOpenIDConnectSession code requester ∈ calls := by
  refine run.invariant
    (fun reached => GoMap.get reached.idSessions code = some requester →
      .createOpenIDConnectSession code requester ∈ calls)
    ?_ ?_ found
  · rintro before call after member created rfl stored
    cases idSessions_step stored with
    | inl creates => exact creates ▸ member
    | inr earlier => exact created earlier
  · intro absent
    cases absent

/-- The session that the call stores for a token. -/
def Call.issuedSession : Call → Option Requester
  | .createAccessTokenSession _ requester => some requester
  | .createRefreshTokenSession _ _ requester => some requester
  | .createOpenIDConnectSession _ requester => some requester
  | _ => none

/-- The store keeps the session for some token. -/
def Keeps (store : MemoryStore) (requester : Requester) : Prop :=
  (∃ signature,
    GoMap.get store.accessTokens signature = some requester) ∨
  (∃ signature token,
    GoMap.get store.refreshTokens signature = some token ∧
      token.requester = requester) ∨
  ∃ code, GoMap.get store.idSessions code = some requester

theorem issued_of_keeps {calls : List Call} {store : MemoryStore}
    (run : Run Step empty calls store) {requester : Requester}
    (kept : store.Keeps requester) :
    ∃ call ∈ calls, call.issuedSession = some requester := by
  obtain ⟨signature, found⟩ | ⟨signature, token, found, rfl⟩ |
    ⟨code, found⟩ := kept
  · exact ⟨_, access_created run found, rfl⟩
  · obtain ⟨access, created⟩ := token_created run found
    exact ⟨_, created, rfl⟩
  · exact ⟨_, idSession_created run found, rfl⟩

/-! ## Nothing is shadowed -/

private theorem notMem_of_nodup_snoc {created : Call → Option String}
    {first : List Call} {call : Call} {id : String}
    (once : ((first ++ [call]).filterMap created).Nodup)
    (creates : created call = some id) : id ∉ first.filterMap created := by
  rw [List.filterMap_append, List.nodup_append] at once
  intro early
  refine once.2.2 id early id ?_ rfl
  exact List.mem_filterMap.mpr ⟨call, List.mem_singleton_self call, creates⟩

theorem SingleCreations.unshadowing {first : List Call} {call : Call}
    (single : SingleCreations (first ++ [call])) :
    (first.foldl apply empty).Unshadowing call := by
  have run := Run.of_foldl apply empty first
  cases call with
  | createAccessTokenSession signature requester =>
      intro other existing found same
      have created := access_created run found
      refine absurd ?_ (notMem_of_nodup_snoc single.1 rfl)
      exact List.mem_filterMap.mpr ⟨_, created, congrArg some same⟩
  | createRefreshTokenSession signature access requester =>
      intro other token found _ same
      obtain ⟨earlier, created⟩ := token_created run found
      refine absurd ?_ (notMem_of_nodup_snoc single.2 rfl)
      exact List.mem_filterMap.mpr ⟨_, created, congrArg some same⟩
  | _ => trivial

theorem SingleCreations.take {first calls : List Call}
    (single : SingleCreations calls) (taken : first <+: calls) :
    SingleCreations first :=
  ⟨single.1.sublist (taken.sublist.filterMap _),
    single.2.sublist (taken.sublist.filterMap _)⟩

theorem SingleCreations.revocable {calls : List Call}
    (single : SingleCreations calls) (requestID : String) :
    (calls.foldl apply empty).AccessRevocationComplete requestID ∧
      (calls.foldl apply empty).RefreshTokensRevoked requestID := by
  have run : Run (Guarded Unshadowing Step) empty calls
      (calls.foldl apply empty) :=
    Run.of_foldl_guarded fun before label taken =>
      (single.take taken).unshadowing
  obtain ⟨access, refresh⟩ := covered_of_run run requestID
  exact ⟨(accessRevocationComplete_iff _ _).mpr access,
    (refreshTokensRevoked_iff _ _).mpr refresh⟩

end Kubauth.MemoryStore
