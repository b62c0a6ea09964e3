import Kubauth.PasswordGrant.Issuance

/-!
# Password requests at the token endpoint

An attempt is granted or refused by the first half of the handler, and a
granted one is answered by its second half.  Attempts run concurrently: the
store sees their calls in any order, among the calls of other endpoints.
-/

namespace Kubauth

open MemoryStore (Call)

/-- A request for tokens with a password: when it is granted and answered, and
what the strategies generate for it. -/
structure PasswordAttempt where
  request : AccessRequester
  strategies : TokenStrategies
  grantedAt : Int
  answeredAt : Int

namespace PasswordAttempt

open InPlace (exec)

/-- How the endpoint ends for the attempt, and the calls that it makes on the
store.  The library runs no second half after an error of the first. -/
def outcome (attempt : PasswordAttempt) (issuer : TokenIssuer) :
    Except (GrantError ⊕ IssueError) AccessResponse × List Call :=
  match issuer.handleTokenEndpointRequest attempt.grantedAt
      attempt.request with
  | .error failure => (.error (.inl failure), [])
  | .ok granted =>
      match exec (issuer.populateTokenEndpointResponse attempt.strategies
          attempt.answeredAt granted) { calls := [], response := .empty } with
      | (.error failure, issuing) => (.error (.inr failure), issuing.calls)
      | (.ok (), issuing) => (.ok issuing.response, issuing.calls)

/-- The request was granted for the user whose name and password it holds. -/
structure Granted (attempt : PasswordAttempt) (issuer : TokenIssuer)
    (user : OidcUser) (granted : AccessRequester) : Prop where
  admitted : issuer.Admits attempt.request
  authenticated : issuer.authenticator.authenticate
      (attempt.request.form.first "username")
      (attempt.request.form.first "password") =
    (some user, none)
  granted : granted =
    issuer.grant attempt.grantedAt attempt.request user

variable {attempt : PasswordAttempt} {issuer : TokenIssuer}

/-- An attempt stores nothing, or it was granted and stores what was issued
for it. -/
theorem outcome_cases (attempt : PasswordAttempt) (issuer : TokenIssuer) :
    ((attempt.outcome issuer).2 = [] ∧
        ∃ failure, (attempt.outcome issuer).1 = .error failure ∧
          ∀ debug, failure ≠ .inr (.serverError debug)) ∨
      ∃ user granted, attempt.Granted issuer user granted ∧
        ∃ issued : IssuedTokens,
          issued.Generated issuer attempt.strategies granted.toRequester ∧
          (attempt.outcome issuer).2 = issued.calls granted.toRequester ∧
          (∀ response, (attempt.outcome issuer).1 = .ok response →
            issued.Complete issuer granted.toRequester response) ∧
          ∀ failure, (attempt.outcome issuer).1 = .error failure →
            ∃ debug, failure = .inr (.serverError debug) := by
  unfold outcome
  cases handled : issuer.handleTokenEndpointRequest attempt.grantedAt
      attempt.request with
  | error failure =>
      refine .inl ⟨rfl, _, rfl, ?_⟩
      rintro debug ⟨⟩
  | ok granted =>
      obtain ⟨admitted, user, authenticated, same⟩ :=
        PasswordGrantHandler.handleTokenEndpointRequest_ok handled
      have left := issuer.exec_populateTokenEndpointResponse
        attempt.strategies attempt.answeredAt granted
      simp only at left ⊢
      generalize exec (issuer.populateTokenEndpointResponse attempt.strategies
        attempt.answeredAt granted) { calls := [], response := .empty } =
        ended at left ⊢
      obtain ⟨result, issuing⟩ := ended
      obtain ⟨nothing, failure, failed, early⟩ |
        ⟨issued, generated, stored, complete, late⟩ := left
      · simp only at nothing failed
        subst failed
        refine .inl ⟨nothing, _, rfl, fun debug inside => ?_⟩
        exact early debug (Sum.inr.inj inside)
      · refine .inr ⟨user, granted, ⟨admitted, authenticated, same⟩, issued,
          generated, ?_⟩
        cases result with
        | error failure =>
            refine ⟨stored, ?_, ?_⟩
            · rintro _ ⟨⟩
            · rintro _ ⟨⟩
              obtain ⟨debug, rfl⟩ := late failure rfl
              exact ⟨debug, rfl⟩
        | ok done =>
            refine ⟨stored, ?_, ?_⟩
            · rintro _ ⟨⟩
              exact complete rfl
            · rintro _ ⟨⟩

/-- Grants every request of the user `alice`, whose password is `secret`. -/
def sampleIssuer : TokenIssuer :=
  { issuer := "https://idp"
    keyID := "key"
    allowPasswordGrant := true
    authenticator :=
      { identify := fun _ _ => (none, .userNotFound, none)
        authenticate := fun login password =>
          if login = "alice" ∧ password = "secret" then
            (some
              { login := "alice"
                claims := some [("team", .str "blue")]
                fullName := "" }, none)
          else (none, none) }
    scopeStrategy := fun allowed scope => allowed.contains scope
    audienceStrategy := fun _ _ => none
    accessTokenLifespan := 3600
    refreshTokenLifespan := 7200
    idTokenLifespan := 3600
    refreshTokenScopes := ["offline"] }

/-- The request `id` of `alice` for all three tokens, at a client that may use
passwords. -/
def sampleRequest (id : String) : AccessRequester :=
  let spec : OidcClientSpec :=
    { (default : OidcClientSpec) with
      grantTypes := ["password"]
      scopes := ["openid", "offline"] }
  { (default : AccessRequester) with
    id := id
    client :=
      { (default : KubauthClient) with
        clientId := "app"
        k8sObject := { (default : OidcClient) with spec := spec } }
    grantTypes := ["password"]
    requestedScopes := ["openid", "offline"]
    form := [("username", ["alice"]), ("password", ["secret"])] }

/-- Tokens named after the request; the ID token only if there is one. -/
def sampleStrategies (idToken : Except String String) : TokenStrategies :=
  { generateAccessToken := fun request =>
      .ok ("access " ++ request.id, "access signature " ++ request.id)
    generateRefreshToken := fun request =>
      .ok ("refresh " ++ request.id, "refresh signature " ++ request.id)
    generateIDToken := fun _ _ => idToken }

def sampleAttempt (id : String) (idToken : Except String String) :
    PasswordAttempt :=
  { request := sampleRequest id
    strategies := sampleStrategies idToken
    grantedAt := 0
    answeredAt := 1 }

/-! ## What an attempt leaves in the store -/

/-- The sessions under which the store knows the tokens. -/
structure Stored (issued : IssuedTokens) (session : Requester)
    (store : MemoryStore) : Prop where
  access : store.getAccessTokenSession issued.access.2 = (some session, none)
  refresh : ∀ token ∈ issued.refresh,
    store.getRefreshTokenSession token.2 = (some session, none)
  id : ∀ token ∈ issued.id,
    GoMap.get store.idSessions issued.access.2 = some session

theorem stored_calls (issued : IssuedTokens) (request : Requester)
    (store : MemoryStore) :
    Stored issued (request.sanitize [])
      ((issued.calls request).foldl MemoryStore.apply store) := by
  obtain ⟨access, refresh, id⟩ := issued
  cases refresh <;> cases id <;> constructor <;>
    simp [IssuedTokens.calls, MemoryStore.apply,
      MemoryStore.createAccessTokenSession,
      MemoryStore.createRefreshTokenSession,
      MemoryStore.createOpenIDConnectSession,
      MemoryStore.getAccessTokenSession, MemoryStore.getRefreshTokenSession]

/-- A successful answer goes to a request of an authenticated user.  It carries
the tokens that the granted scopes ask for, and the store knows each of them
with the granted session, whatever it held before. -/
theorem answer_backed {response : AccessResponse}
    (answered : (attempt.outcome issuer).1 = .ok response)
    (store : MemoryStore) :
    ∃ user granted issued,
      attempt.Granted issuer user granted ∧
      issued.Generated issuer attempt.strategies granted.toRequester ∧
      issued.Complete issuer granted.toRequester response ∧
      Stored issued (granted.sanitize [])
        ((attempt.outcome issuer).2.foldl MemoryStore.apply store) := by
  obtain ⟨-, failure, failed, -⟩ |
    ⟨user, granted, admitted, issued, generated, calls, complete, -⟩ :=
    attempt.outcome_cases issuer
  · rw [failed] at answered
    cases answered
  · refine ⟨user, granted, issued, admitted, generated,
      complete response answered, ?_⟩
    rw [calls]
    exact stored_calls issued granted.toRequester store

theorem answer_backed_alice :
    ∃ response,
      ((sampleAttempt "r" (.ok "id")).outcome sampleIssuer).1 =
          .ok response ∧
        ∃ user granted issued,
          (sampleAttempt "r" (.ok "id")).Granted sampleIssuer user granted ∧
          issued.Generated sampleIssuer (sampleStrategies (.ok "id"))
            granted.toRequester ∧
          issued.Complete sampleIssuer granted.toRequester response ∧
          Stored issued (granted.sanitize [])
            (((sampleAttempt "r" (.ok "id")).outcome sampleIssuer).2.foldl
              MemoryStore.apply .empty) :=
  ⟨_, rfl, answer_backed rfl .empty⟩

/-- A failed attempt leaves the store alone unless it is a refresh token or an
ID token that could not be generated.  Then the access token generated before
is stored, for a user who is never told of it. -/
theorem failure_leaves {failure : GrantError ⊕ IssueError}
    (failed : (attempt.outcome issuer).1 = .error failure)
    (store : MemoryStore) :
    ((∀ debug, failure ≠ .inr (.serverError debug)) →
      (attempt.outcome issuer).2.foldl MemoryStore.apply store = store) ∧
    ∀ debug, failure = .inr (.serverError debug) →
      ∃ user granted token,
        attempt.Granted issuer user granted ∧
        attempt.strategies.generateAccessToken granted.toRequester =
          .ok token ∧
        ((attempt.outcome issuer).2.foldl MemoryStore.apply
          store).getAccessTokenSession token.2 =
            (some (granted.sanitize []), none) := by
  obtain ⟨nothing, other, otherFailed, early⟩ |
    ⟨user, granted, admitted, issued, generated, calls, -, late⟩ :=
    attempt.outcome_cases issuer
  · rw [otherFailed] at failed
    cases failed
    refine ⟨fun _ => by rw [nothing]; rfl, ?_⟩
    intro debug server
    exact absurd server (early debug)
  · refine ⟨?_, ?_⟩
    · intro early
      obtain ⟨debug, server⟩ := late failure failed
      exact absurd server (early debug)
    · rintro debug -
      refine ⟨user, granted, issued.access, admitted, generated.access, ?_⟩
      rw [calls]
      exact (stored_calls issued granted.toRequester store).access

theorem failure_leaves_alice :
    ((sampleAttempt "r" (.error "no key")).outcome sampleIssuer).1 =
        .error (.inr (.serverError "no key")) ∧
      ∃ user granted token,
        (sampleAttempt "r" (.error "no key")).Granted sampleIssuer user
            granted ∧
          (sampleStrategies (.error "no key")).generateAccessToken
              granted.toRequester = .ok token ∧
          ((((sampleAttempt "r" (.error "no key")).outcome
            sampleIssuer).2.foldl MemoryStore.apply
              .empty).getAccessTokenSession token.2) =
            (some (granted.sanitize []), none) :=
  ⟨rfl, (failure_leaves rfl .empty).2 _ rfl⟩

end PasswordAttempt

/-! ## Runs -/

/-- Password attempts among other calls on the store, none of which issues a
token: revocations, deletions, and all that is done for clients, codes and
upstreams. -/
structure TokenRun (issuer : TokenIssuer) where
  attempts : List PasswordAttempt
  others : List Call
  othersIssueNone : ∀ call ∈ others, call.issuedSession = none
  calls : List Call
  interleaved : calls.Perm
    ((attempts.flatMap fun attempt => (attempt.outcome issuer).2) ++ others)

namespace TokenRun

variable {issuer : TokenIssuer} (run : TokenRun issuer)

def store : MemoryStore :=
  run.calls.foldl MemoryStore.apply .empty

open PasswordAttempt in
/-- Two attempts and a deletion, the calls of the second attempt first. -/
def sample : TokenRun sampleIssuer :=
  let first := sampleAttempt "1" (.ok "id")
  let second := sampleAttempt "2" (.ok "id")
  { attempts := [first, second]
    others := [.deleteAccessTokenSession "access signature 1"]
    othersIssueNone := by simp [Call.issuedSession]
    calls := (second.outcome sampleIssuer).2 ++
      ((first.outcome sampleIssuer).2 ++
        [.deleteAccessTokenSession "access signature 1"])
    interleaved := by
      simp only [List.flatMap_cons, List.flatMap_nil, List.append_nil]
      rw [← List.append_assoc]
      exact List.perm_append_comm.append_right _ }

theorem mem_calls_issuedSession {issued : IssuedTokens} {request : Requester}
    {call : Call} (member : call ∈ issued.calls request) :
    call.issuedSession = some (request.sanitize []) := by
  simp only [IssuedTokens.calls, List.cons_append, List.mem_cons,
    List.mem_append, List.mem_map] at member
  obtain rfl | ⟨token, -, rfl⟩ | ⟨token, -, rfl⟩ := member <;> rfl

theorem granted_of_keeps {requester : Requester}
    (kept : run.store.Keeps requester) :
    ∃ attempt ∈ run.attempts, ∃ user granted,
      attempt.Granted issuer user granted ∧
      requester = granted.sanitize [] := by
  obtain ⟨call, member, issued⟩ :=
    MemoryStore.issued_of_keeps (Run.of_foldl _ _ _) kept
  rw [run.interleaved.mem_iff, List.mem_append, List.mem_flatMap] at member
  obtain ⟨attempt, attempted, called⟩ | other := member
  · obtain ⟨nothing, -⟩ |
      ⟨user, granted, admitted, tokens, -, calls, -⟩ :=
      attempt.outcome_cases issuer
    · rw [nothing] at called
      cases called
    · rw [calls] at called
      rw [mem_calls_issuedSession called] at issued
      cases issued
      exact ⟨attempt, attempted, user, granted, admitted, rfl⟩
  · rw [run.othersIssueNone call other] at issued
    cases issued

/-- Every session that the store keeps was granted to a user whose password
was checked, and does not hold that password. -/
theorem sessions_granted {requester : Requester}
    (kept : run.store.Keeps requester) :
    GoMap.get requester.form "password" = none ∧
      ∃ attempt ∈ run.attempts, ∃ user granted,
        attempt.Granted issuer user granted ∧
        requester = granted.sanitize [] ∧
        requester.session.subject = user.login := by
  obtain ⟨attempt, attempted, user, granted, admitted, rfl⟩ :=
    run.granted_of_keeps kept
  have claims :=
    issuer.grant_session attempt.grantedAt attempt.request user
  rw [← admitted.granted] at claims
  -- the handler deletes the password before anything is stored
  have deleted : GoMap.get granted.form "password" = none := by
    rw [admitted.granted, PasswordGrantHandler.grant_form,
      GoMap.get_delete_self]
  exact ⟨granted.library.sanitize_adds_nothing deleted, attempt, attempted,
    user, granted, admitted, rfl, claims.2.2⟩

theorem sessions_granted_sample :
    ∃ requester, sample.store.Keeps requester ∧
      GoMap.get requester.form "password" = none ∧
        ∃ attempt ∈ sample.attempts, ∃ user granted,
          attempt.Granted PasswordAttempt.sampleIssuer user granted ∧
          requester = granted.sanitize [] ∧
          requester.session.subject = user.login := by
  have kept : sample.store.Keeps
      ((PasswordAttempt.sampleIssuer.grant 0
        (PasswordAttempt.sampleRequest "2")
        { login := "alice"
          claims := some [("team", .str "blue")]
          fullName := "" }).sanitize []) :=
    .inl ⟨"access signature 2", rfl⟩
  exact ⟨_, kept, sample.sessions_granted kept⟩

/-! ## Revocation -/

/-- The run, and then the revocation of what was issued for a request. -/
def revoke (requestID : String) : TokenRun issuer :=
  let revocations : List Call :=
    [.revokeRefreshToken requestID, .revokeAccessToken requestID]
  { attempts := run.attempts
    others := run.others ++ revocations
    othersIssueNone := by
      intro call member
      rcases List.mem_append.mp member with before | last
      · exact run.othersIssueNone call before
      · rcases List.mem_pair.mp last with rfl | rfl <;> rfl
    calls := run.calls ++ revocations
    interleaved := by
      rw [← List.append_assoc]
      exact run.interleaved.append_right revocations }

theorem store_revoke (requestID : String) :
    (run.revoke requestID).store =
      (run.store.revokeRefreshToken requestID).1.revokeAccessToken
        requestID := by
  unfold store revoke
  rw [List.foldl_append]
  rfl

theorem id_grant (handler : PasswordGrantHandler) (now : Int)
    (request : AccessRequester) (user : OidcUser) :
    (handler.grant now request user).id = request.id := by
  unfold PasswordGrantHandler.grant PasswordGrantHandler.grantedRequest
  simp only
  rw [Requester.handleAudience_keeps Requester.id fun _ _ => rfl,
    Requester.handleScopes_keeps Requester.id fun _ _ => rfl]

theorem accessRequests_calls (issued : IssuedTokens) (request : Requester) :
    (issued.calls request).filterMap Call.accessRequest = [request.id] := by
  obtain ⟨access, _ | refresh, _ | id⟩ := issued <;> rfl

theorem refreshRequests_calls (issued : IssuedTokens) (request : Requester) :
    (issued.calls request).filterMap Call.refreshRequest =
      issued.refresh.toList.map fun _ => request.id := by
  obtain ⟨access, _ | refresh, _ | id⟩ := issued <;> rfl

/-- An attempt creates at most one token of each kind, for its own request. -/
theorem requests_outcome (attempt : PasswordAttempt) :
    ((attempt.outcome issuer).2.filterMap Call.accessRequest).Sublist
        [attempt.request.id] ∧
      ((attempt.outcome issuer).2.filterMap Call.refreshRequest).Sublist
        [attempt.request.id] := by
  obtain ⟨nothing, -⟩ | ⟨user, granted, admitted, tokens, -, calls, -⟩ :=
    attempt.outcome_cases issuer
  · rw [nothing]
    exact ⟨List.nil_sublist _, List.nil_sublist _⟩
  · have same : granted.id = attempt.request.id := by
      rw [admitted.granted]
      exact id_grant _ _ _ _
    rw [calls, ← same]
    rw [accessRequests_calls, refreshRequests_calls]
    cases tokens.refresh with
    | none => exact ⟨.refl _, List.nil_sublist _⟩
    | some token => exact ⟨.refl _, .refl _⟩

private theorem filterMap_flatMap_sublist {created : Call → Option String}
    {attempts : List PasswordAttempt}
    (single : ∀ attempt ∈ attempts,
      ((attempt.outcome issuer).2.filterMap created).Sublist
        [attempt.request.id]) :
    ((attempts.flatMap fun attempt =>
      (attempt.outcome issuer).2).filterMap created).Sublist
        (attempts.map (·.request.id)) := by
  induction attempts with
  | nil => exact List.nil_sublist _
  | cons attempt attempts induction =>
      rw [List.flatMap_cons, List.filterMap_append, List.map_cons]
      exact (single attempt List.mem_cons_self).append
        (induction fun later member =>
          single later (List.mem_cons_of_mem attempt member))

private theorem filterMap_others {created : Call → Option String}
    (issues : ∀ call id, created call = some id →
      call.issuedSession ≠ none) :
    run.others.filterMap created = [] := by
  rw [List.filterMap_eq_nil_iff]
  intro call member
  by_contra creates
  obtain ⟨id, found⟩ := Option.ne_none_iff_exists'.mp creates
  exact issues call id found (run.othersIssueNone call member)

theorem singleCreations
    (distinct : (run.attempts.map (·.request.id)).Nodup) :
    MemoryStore.SingleCreations run.calls := by
  refine MemoryStore.SingleCreations.perm ⟨?_, ?_⟩ run.interleaved.symm
  · rw [List.filterMap_append, run.filterMap_others, List.append_nil]
    · exact distinct.sublist (filterMap_flatMap_sublist fun attempt _ =>
        (requests_outcome attempt).1)
    · rintro (_ | _) id ⟨⟩
      exact Option.some_ne_none _
  · rw [List.filterMap_append, run.filterMap_others, List.append_nil]
    · exact distinct.sublist (filterMap_flatMap_sublist fun attempt _ =>
        (requests_outcome attempt).2)
    · rintro (_ | _) id ⟨⟩
      exact Option.some_ne_none _

/-- However the attempts and the other calls interleave, revoking by request id
leaves no usable token of the request behind, as long as no two attempts share
an id. -/
theorem tokens_revocable
    (distinct : (run.attempts.map (·.request.id)).Nodup)
    (requestID : String) :
    run.store.AccessRevocationComplete requestID ∧
      run.store.RefreshTokensRevoked requestID :=
  (run.singleCreations distinct).revocable requestID

theorem tokens_revocable_sample :
    (sample.attempts.map (·.request.id)).Nodup ∧
      sample.store.AccessRevocationComplete "2" ∧
      sample.store.RefreshTokensRevoked "2" :=
  ⟨by decide, sample.tokens_revocable (by decide) "2"⟩

end TokenRun

end Kubauth
