import Kubauth.PasswordGrant.Attempts
import Kubauth.Server.Token

/-!
# What a token discloses

Two endpoints tell about the user behind a token: `/userinfo` gives the claims
of the session, and token introspection describes the whole request.  Both ask
the OAuth2 library which session a token stands for, and the library asks the
store.
-/

namespace Kubauth.Server

/-- A request with its `Authorization` header, which is empty if there is
none. -/
structure AuthorizedRequest extends HttpRequest where
  authorization : String
  deriving Repr, Inhabited

/-- The part of the OAuth2 library that looks tokens up, at a time, for a kind
of token that is tried first, and under scopes that the token has to have.
`newIntrospectionRequest` authenticates the caller, too, and may read more of
the body: `postForm` is what it leaves in `PostForm`. -/
structure TokenInspector where
  introspectToken : MemoryStore → Int → String → TokenType → OidcSession →
    List String → Except String (TokenType × Requester)
  newIntrospectionRequest : MemoryStore → Int → AuthorizedRequest →
    OidcSession → Except String (TokenType × Requester)
  postForm : AuthorizedRequest → Values

/-- The store vouches for the request: one of its tokens is valid. -/
def Vouches (store : MemoryStore) (requester : Requester) : Prop :=
  (∃ signature,
    store.getAccessTokenSession signature = (some requester, none)) ∨
  ∃ signature,
    store.getRefreshTokenSession signature = (some requester, none)

/-- The library returns only what a valid token of the store stands for, with
the scopes that were asked for. -/
structure TokenInspector.Sound (inspector : TokenInspector)
    (server : OidcServer) : Prop where
  introspectToken : ∀ {store now token use session scopes found requester},
    inspector.introspectToken store now token use session scopes =
      .ok (found, requester) →
    Vouches store requester ∧ ∀ scope ∈ scopes,
      server.config.scopeStrategy requester.grantedScopes scope = true
  newIntrospectionRequest : ∀ {store now request session found requester},
    inspector.newIntrospectionRequest store now request session =
      .ok (found, requester) →
    Vouches store requester

/-! ## User info -/

/-- `http.Error`, with the challenge of a 401, or the claims as JSON. -/
inductive UserInfoAnswer where
  | refused (challenge : String)
  | claims (claims : Claims)
  deriving Repr

/-- The token after `Bearer `. -/
def bearerToken (authorization : String) : Option String :=
  if authorization = "" ∨
      ¬"Bearer ".toList.isPrefixOf authorization.toList then none
  else some (String.ofList (authorization.toList.drop 7))

/-- The claims of a session that are disclosed: all but the authorized party,
and the subject. -/
def disclosed (idClaims : IDTokenClaims) : Claims :=
  GoMap.set
    (idClaims.extra.entries.filter fun entry => entry.1 ≠ "azp") "sub"
    (.str idClaims.subject)

/-- `handleUserInfo`. -/
def OidcServer.handleUserInfo (server : OidcServer)
    (inspector : TokenInspector) (now : Int) (request : AuthorizedRequest) :
    UserInfoAnswer :=
  match bearerToken request.authorization with
  | none =>
      .refused ("Bearer error=\"invalid_token\", " ++
        "error_description=\"missing bearer token\"")
  | some accessToken =>
      let session := server.newSession now none
        (server.getClientIdFromRequest request.toHttpRequest)
      match inspector.introspectToken server.storage now accessToken
          .accessToken session ["openid"] with
      | .error _ =>
          .refused ("Bearer error=\"invalid_token\", " ++
            "error_description=\"token invalid or expired\"")
      | .ok (_, requester) => .claims (disclosed requester.session.idTokenClaims)

/-! ## Introspection -/

/-- The library's response for an active token, the text for one that is not,
or the library's error response. -/
inductive IntrospectionAnswer where
  | active (use : TokenType) (requester : Requester)
  | inactive
  | failed (failure : String)

/-- The token kind that a hint asks for. -/
def tokenTypeOfHint (hint : String) : TokenType :=
  if hint = "refresh_token" then .refreshToken else .accessToken

/-- The public client that a request without `Authorization` header names in its
form, with a token to look at.  `ParseForm` was called before, and returns no
error the second time. -/
def OidcServer.publicClient (server : OidcServer)
    (request : AuthorizedRequest) (form : Values) : Option KubauthClient :=
  if request.authorization = "" ∧ form.first "client_id" ≠ "" ∧
      form.first "token" ≠ "" then
    match server.storage.getKubauthClient (form.first "client_id") with
    | (some client, none) => if client.isPublic then some client else none
    | _ => none
  else none

/-- `HandleTokenIntrospection`. -/
def OidcServer.handleTokenIntrospection (server : OidcServer)
    (inspector : TokenInspector) (now : Int) (request : AuthorizedRequest) :
    IntrospectionAnswer :=
  let session := server.newSession now none
    (server.getClientIdFromRequest request.toHttpRequest)
  match inspector.newIntrospectionRequest server.storage now request
      session with
  | .ok (use, requester) => .active use requester
  | .error failure =>
      let form := inspector.postForm request
      match server.publicClient request form with
      | none => .failed failure
      | some _ =>
          match inspector.introspectToken server.storage now
              (form.first "token")
              (tokenTypeOfHint (form.first "token_type_hint")) session [] with
          | .error _ => .inactive
          | .ok (use, requester) => .active use requester

/-! ## What is disclosed -/

theorem get_disclosed (idClaims : IDTokenClaims) (key : String) :
    GoMap.get (disclosed idClaims) key =
      if key = "sub" then some (.str idClaims.subject)
      else if key = "azp" then none
      else GoMap.get idClaims.extra.entries key := by
  change GoMap.get (GoMap.set (GoMap.delete idClaims.extra.entries "azp")
    "sub" (.str idClaims.subject)) key = _
  rw [GoMap.get_set, GoMap.get_delete]
  simp only [eq_comm]

theorem get_addAzp_of_ne {extra : ClaimSet} {clientId key : String}
    (other : key ≠ "azp") :
    GoMap.get (addAzp extra clientId).entries key =
      GoMap.get extra.entries key := by
  unfold addAzp
  split
  · exact GoMap.get_set_of_ne _ _ (Ne.symm other)
  · rfl

theorem Vouches.keeps {store : MemoryStore} {requester : Requester}
    (vouches : Vouches store requester) : store.Keeps requester := by
  rcases vouches with ⟨signature, found⟩ | ⟨signature, found⟩
  · unfold MemoryStore.getAccessTokenSession at found
    split at found
    · cases found
    · next stored =>
        cases found
        exact .inl ⟨signature, stored⟩
  · unfold MemoryStore.getRefreshTokenSession at found
    split at found
    · cases found
    · next token stored =>
        split at found
        · cases found
          exact .inr (.inl ⟨signature, token, stored, rfl⟩)
        · cases found

theorem OidcServer.handleUserInfo_eq {server : OidcServer}
    {inspector : TokenInspector} {now : Int} {request : AuthorizedRequest}
    {claims : Claims} (sound : inspector.Sound server)
    (answered : server.handleUserInfo inspector now request =
      .claims claims) :
    ∃ requester, Vouches server.storage requester ∧
      server.config.scopeStrategy requester.grantedScopes "openid" = true ∧
      claims = disclosed requester.session.idTokenClaims := by
  unfold OidcServer.handleUserInfo at answered
  split at answered
  · cases answered
  · simp only at answered
    split at answered
    · cases answered
    · next requester found =>
        cases answered
        obtain ⟨vouches, scopes⟩ := sound.introspectToken found
        exact ⟨requester, vouches, scopes "openid" List.mem_cons_self, rfl⟩

/-- A library that takes the signature of an access token for the token. -/
def sampleInspector : TokenInspector :=
  { introspectToken := fun store _ token _ _ _ =>
      match store.getAccessTokenSession token with
      | (some requester, none) => .ok (.accessToken, requester)
      | _ => .error "not found"
    newIntrospectionRequest := fun _ _ _ _ => .error "unauthorized"
    postForm := fun request => request.postForm ++ request.multipartForm }

theorem sampleInspector_sound (exchange : Exchange) (store : MemoryStore) :
    sampleInspector.Sound (sampleServer exchange store) := by
  constructor
  · intro store now token use session scopes found requester returned
    simp only [sampleInspector] at returned
    split at returned
    · next stored =>
        cases returned
        exact ⟨.inl ⟨token, stored⟩, fun scope _ => rfl⟩
    · cases returned
  · intro store now request session found requester returned
    cases returned

/-- What `/userinfo` says is what the authenticator said of a user whose
password was checked: the subject is the login, the authorized party is left
out, and every other claim is the user's. -/
theorem OidcServer.userInfo_tells {server : OidcServer}
    {inspector : TokenInspector} {issuer : TokenIssuer}
    {run : TokenRun issuer} {now : Int} {request : AuthorizedRequest}
    {claims : Claims} (sound : inspector.Sound server)
    (serves : server.storage = run.store)
    (answered : server.handleUserInfo inspector now request =
      .claims claims) :
    ∃ attempt ∈ run.attempts, ∃ user granted,
      attempt.Granted issuer user granted ∧
      server.config.scopeStrategy granted.grantedScopes "openid" = true ∧
      ∀ key, GoMap.get claims key =
        if key = "sub" then some (.str user.login)
        else if key = "azp" then none
        else GoMap.get user.claims.entries key := by
  obtain ⟨requester, vouches, scope, rfl⟩ := handleUserInfo_eq sound answered
  rw [serves] at vouches
  obtain ⟨attempt, attempted, user, granted, admitted, rfl⟩ :=
    run.granted_of_keeps vouches.keeps
  have session := issuer.grant_session attempt.grantedAt attempt.request user
  rw [← admitted.granted] at session
  refine ⟨attempt, attempted, user, granted, admitted, scope, fun key => ?_⟩
  rw [get_disclosed]
  change (if key = "sub" then some (.str granted.session.idTokenClaims.subject)
    else if key = "azp" then none
    else GoMap.get granted.session.idTokenClaims.extra.entries key) = _
  rw [session.1]
  split
  · rfl
  · split
    · rfl
    · next other => exact get_addAzp_of_ne other

/-- A request of `alice`, with the access token that was issued last. -/
def sampleBearer : AuthorizedRequest :=
  { (default : AuthorizedRequest) with
    authorization := "Bearer access signature 2" }

theorem OidcServer.userInfo_tells_sample :
    let server := sampleServer (sampleExchange .passwordChecked)
      TokenRun.sample.store
    ∃ claims,
      server.handleUserInfo sampleInspector 0 sampleBearer =
        .claims claims ∧
      ∃ attempt ∈ TokenRun.sample.attempts, ∃ user granted,
        attempt.Granted PasswordAttempt.sampleIssuer user granted ∧
        server.config.scopeStrategy granted.grantedScopes "openid" = true ∧
        ∀ key, GoMap.get claims key =
          if key = "sub" then some (.str user.login)
          else if key = "azp" then none
          else GoMap.get user.claims.entries key := by
  intro server
  have answered : ∃ claims, server.handleUserInfo sampleInspector 0
      sampleBearer = .claims claims := ⟨_, rfl⟩
  obtain ⟨claims, answered⟩ := answered
  exact ⟨claims, answered,
    userInfo_tells (sampleInspector_sound _ _) rfl answered⟩

theorem not_vouches_revoked {issuer : TokenIssuer} {run : TokenRun issuer}
    {requestID : String} {requester : Requester}
    (distinct : (run.attempts.map (·.request.id)).Nodup)
    (vouches : Vouches (run.revoke requestID).store requester) :
    requester.id ≠ requestID := by
  obtain ⟨access, refresh⟩ :=
    (run.singleCreations distinct).revocable requestID
  rw [run.store_revoke] at vouches
  rcases vouches with ⟨signature, found⟩ | ⟨signature, found⟩
  · have complete : (run.store.revokeRefreshToken
        requestID).1.AccessRevocationComplete requestID := by
      rw [MemoryStore.accessRevocationComplete_iff,
        MemoryStore.accessRegistry_revokeRefreshToken,
        ← MemoryStore.accessRevocationComplete_iff]
      exact access
    exact complete signature requester (congrArg Prod.fst found)
  · have kept : ∀ store : MemoryStore,
        (store.revokeAccessToken requestID).refreshTokens =
          store.refreshTokens := by
      intro store
      unfold MemoryStore.revokeAccessToken
      split <;> rfl
    unfold MemoryStore.getRefreshTokenSession at found
    rw [kept] at found
    split at found
    · cases found
    · next token stored =>
        split at found
        · next active =>
            cases found
            intro same
            have inactive := refresh signature token stored same
            rw [active] at inactive
            cases inactive
        · cases found

/-- Once the refresh token and the access token of a request are revoked, its
claims are not told any more. -/
theorem OidcServer.revoked_undisclosed {server : OidcServer}
    {inspector : TokenInspector} {issuer : TokenIssuer}
    {run : TokenRun issuer} {requestID : String} {now : Int}
    {request : AuthorizedRequest} {claims : Claims}
    (sound : inspector.Sound server)
    (distinct : (run.attempts.map (·.request.id)).Nodup)
    (serves : server.storage = (run.revoke requestID).store)
    (answered : server.handleUserInfo inspector now request =
      .claims claims) :
    ∃ attempt ∈ run.attempts, ∃ user granted,
      attempt.Granted issuer user granted ∧ granted.id ≠ requestID ∧
      claims = disclosed granted.session.idTokenClaims := by
  obtain ⟨requester, vouches, -, rfl⟩ := handleUserInfo_eq sound answered
  rw [serves] at vouches
  obtain ⟨attempt, attempted, user, granted, admitted, rfl⟩ :=
    (run.revoke requestID).granted_of_keeps vouches.keeps
  have other : (granted.sanitize []).id ≠ requestID :=
    not_vouches_revoked distinct vouches
  exact ⟨attempt, attempted, user, granted, admitted, other, rfl⟩

/-- The first request of the sample is revoked, and the second one is told
about. -/
theorem OidcServer.revoked_undisclosed_sample :
    let server := sampleServer (sampleExchange .passwordChecked)
      (TokenRun.sample.revoke "1").store
    ∃ claims,
      server.handleUserInfo sampleInspector 0 sampleBearer =
        .claims claims ∧
      ∃ attempt ∈ TokenRun.sample.attempts, ∃ user granted,
        attempt.Granted PasswordAttempt.sampleIssuer user granted ∧
        granted.id ≠ "1" ∧
        claims = disclosed granted.session.idTokenClaims := by
  intro server
  have answered : ∃ claims, server.handleUserInfo sampleInspector 0
      sampleBearer = .claims claims := ⟨_, rfl⟩
  obtain ⟨claims, answered⟩ := answered
  exact ⟨claims, answered, revoked_undisclosed (sampleInspector_sound _ _)
    (by decide) rfl answered⟩

theorem OidcServer.publicClient_eq_some {server : OidcServer}
    {request : AuthorizedRequest} {form : Values} {client : KubauthClient}
    (named : server.publicClient request form = some client) :
    request.authorization = "" ∧ client.isPublic = true ∧
      GoMap.get server.storage.clients (form.first "client_id") =
        some client := by
  unfold OidcServer.publicClient at named
  split at named
  · next asked =>
      split at named
      · next found =>
          split at named
          · next isPublic =>
              cases named
              refine ⟨asked.1, isPublic, ?_⟩
              unfold MemoryStore.getKubauthClient at found
              split at found
              · cases found
              · next stored =>
                  cases found
                  exact stored
          · cases named
      · cases named
  · cases named

/-- Introspection calls a token active only if the store vouches for it, and
tells it only to a caller that the library authenticates, or that sends no
credentials and names a registered public client. -/
theorem OidcServer.introspection_tells {server : OidcServer}
    {inspector : TokenInspector} {issuer : TokenIssuer}
    {run : TokenRun issuer} {now : Int} {request : AuthorizedRequest}
    {use : TokenType} {requester : Requester}
    (sound : inspector.Sound server) (serves : server.storage = run.store)
    (answered : server.handleTokenIntrospection inspector now request =
      .active use requester) :
    (∃ attempt ∈ run.attempts, ∃ user granted,
      attempt.Granted issuer user granted ∧
      requester = granted.sanitize []) ∧
    ((∃ found, inspector.newIntrospectionRequest server.storage now request
        (server.newSession now none
          (server.getClientIdFromRequest request.toHttpRequest)) =
        .ok found) ∨
      request.authorization = "" ∧
        ∃ client, client.isPublic = true ∧
          GoMap.get server.storage.clients
            ((inspector.postForm request).first "client_id") =
              some client) := by
  have granted : Vouches server.storage requester →
      ∃ attempt ∈ run.attempts, ∃ user granted,
        attempt.Granted issuer user granted ∧
        requester = granted.sanitize [] := by
    rw [serves]
    exact fun vouches => run.granted_of_keeps vouches.keeps
  unfold OidcServer.handleTokenIntrospection at answered
  simp only at answered
  split at answered
  · next accepted =>
      cases answered
      exact ⟨granted (sound.newIntrospectionRequest accepted),
        .inl ⟨_, accepted⟩⟩
  · split at answered
    · cases answered
    · next client named =>
        split at answered
        · cases answered
        · next found =>
            cases answered
            obtain ⟨bare, isPublic, registered⟩ := publicClient_eq_some named
            exact ⟨granted (sound.introspectToken found).1,
              .inr ⟨bare, client, isPublic, registered⟩⟩

/-- The sample after a public client is registered. -/
def publicSample : TokenRun PasswordAttempt.sampleIssuer :=
  let client : KubauthClient :=
    { (default : KubauthClient) with
      clientId := "cli"
      k8sObject :=
        { (default : OidcClient) with
          spec := { (default : OidcClientSpec) with isPublic := true } } }
  { TokenRun.sample with
    others := TokenRun.sample.others ++ [.setClient client]
    othersIssueNone := by
      intro call member
      rcases List.mem_append.mp member with before | last
      · exact TokenRun.sample.othersIssueNone call before
      · rw [List.mem_singleton.mp last]
        rfl
    calls := TokenRun.sample.calls ++ [.setClient client]
    interleaved := by
      rw [← List.append_assoc]
      exact TokenRun.sample.interleaved.append_right _ }

/-- The public client asks about the token that was issued last, in a multipart
body. -/
def sampleIntrospection : AuthorizedRequest :=
  { (default : AuthorizedRequest) with
    multipartForm :=
      [("client_id", ["cli"]), ("token", ["access signature 2"])] }

theorem OidcServer.introspection_tells_sample :
    let server := sampleServer (sampleExchange .passwordChecked)
      publicSample.store
    ∃ use requester,
      server.handleTokenIntrospection sampleInspector 0 sampleIntrospection =
        .active use requester ∧
      (∃ attempt ∈ publicSample.attempts, ∃ user granted,
        attempt.Granted PasswordAttempt.sampleIssuer user granted ∧
        requester = granted.sanitize []) ∧
      ∃ client, client.isPublic = true ∧
        GoMap.get server.storage.clients "cli" = some client := by
  intro server
  have answered : ∃ use requester,
      server.handleTokenIntrospection sampleInspector 0 sampleIntrospection =
        .active use requester := ⟨_, _, rfl⟩
  obtain ⟨use, requester, answered⟩ := answered
  obtain ⟨granted, ⟨found, authenticated⟩ | ⟨-, named⟩⟩ :=
    introspection_tells (sampleInspector_sound _ _) rfl answered
  · cases authenticated
  · exact ⟨use, requester, answered, granted, named⟩

end Kubauth.Server
