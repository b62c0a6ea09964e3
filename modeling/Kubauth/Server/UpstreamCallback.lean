import Kubauth.Server.Basic

/-!
# The end of an upstream login

`handleUpstreamCallback` receives the browser back from an upstream provider.
It checks the request, obtains and verifies the claims of the upstream, turns
them into a user, and resumes the authorize request that was left pending.

Every check before the claim pipeline returns after its error.  The two checks
after it, on the `sub` claim and on the outcome of `Identify`, report their
error and go on.
-/

namespace Kubauth.Server

def sessUpstreamState : String := "upstreamOAuthState"

def sessUpstreamNonce : String := "upstreamOAuthNonce"

def sessUpstreamVerifier : String := "upstreamPkceVerifier"

def sessUpstreamPKCE : String := "upstreamPkceUsed"

def sessUpstreamProvider : String := "upstreamOAuthProvider"

/-- What a callback goes on with once its checks have passed: the upstream,
the pending authorize request, and the claims before renaming. -/
structure UpstreamLogin where
  upstream : Upstream
  rawQuery : String
  baseClaims : ClaimSet

namespace UpstreamLogin

/-- The claims after renaming, then cleanup. -/
def idClaims (login : UpstreamLogin) : ClaimSet :=
  login.upstream.cleanupClaims
    (login.upstream.performRenaming login.baseClaims)

def sub (login : UpstreamLogin) : String :=
  Claims.getString login.idClaims.entries "sub"

theorem idClaims_of_sub (login : UpstreamLogin) (named : login.sub ≠ "") :
    ∃ entries, login.idClaims = some entries := by
  cases claims : login.idClaims with
  | some entries => exact ⟨entries, rfl⟩
  | none =>
      rw [sub, claims] at named
      exact absurd rfl named

/-- The user when there is no local one: built from the upstream claims. -/
def upstreamUser (login : UpstreamLogin) : OidcUser :=
  { login := login.sub
    claims := login.idClaims
    fullName := Claims.getString login.idClaims.entries "name" }

/-- A local user, whose claims are merged on top of those of the upstream. -/
def enrich (login : UpstreamLogin) (user : OidcUser) : OidcUser :=
  { user with
    claims := some (mergeMaps login.idClaims.entries
      user.claims.normalizeStringArray.entries) }

end UpstreamLogin

/-! ## The checks that return -/

/-- The authorization code is exchanged with the verifier of the flow, if the
flow has one. -/
def exchangeCode (endpoints : UpstreamEndpoints) (session : LoginSession)
    (settings : OAuth2AuthCodeSettings) (code : String) :
    Except HttpError Token :=
  let verifier :=
    if session.getString sessUpstreamPKCE = "1" then
      some (session.getString sessUpstreamVerifier)
    else none
  match endpoints.exchange settings code verifier with
  | .error _ => .error ⟨"token exchange failed", 502⟩
  | .ok token => .ok token

/-- The claims of the ID token, or the nil map when the token response has
none. -/
def verifyIDToken (endpoints : UpstreamEndpoints) (session : LoginSession)
    (upstream : Upstream) (token : Token) : Except HttpError ClaimSet :=
  let rawID := Claims.getString token.extra "id_token"
  if rawID = "" then .ok none
  else
    match upstream.parseAndVerifyIDToken endpoints rawID with
    | .error _ => .error ⟨"invalid id_token", 502⟩
    | .ok claims =>
        let idClaims := claims.normalizeStringArray
        let wantNonce := session.getString sessUpstreamNonce
        let gotNonce := Claims.getString idClaims.entries "nonce"
        if wantNonce ≠ "" ∧ gotNonce ≠ wantNonce then
          .error ⟨"invalid nonce", 400⟩
        else .ok idClaims

/-- With `UseUserInfo`, the userinfo claims are merged on top. -/
def mergeUserInfo (endpoints : UpstreamEndpoints) (upstream : Upstream)
    (token : Token) (idClaims : ClaimSet) : Except HttpError ClaimSet :=
  if upstream.useUserInfo then
    match upstream.fetchUserInfoClaims endpoints token with
    | .error _ => .error ⟨"userinfo failed", 502⟩
    | .ok uiClaims =>
        .ok (some (mergeMaps idClaims.entries
          uiClaims.normalizeStringArray.entries))
  else .ok idClaims

namespace OidcServer

/-- The checks on the request and on the login session, up to the upstream
that the flow was started with. -/
def callbackUpstream (server : OidcServer) (request : HttpRequest)
    (session : LoginSession) :
    Except HttpError (Upstream × OAuth2AuthCodeSettings) :=
  let query := server.query request
  let code := query.first "code"
  let state := query.first "state"
  let wantState := session.getString sessUpstreamState
  let name := session.getString sessUpstreamProvider
  let rawQuery := session.getString "authQuery"
  if request.method ≠ "GET" then .error ⟨"method not allowed", 405⟩
  else if query.first "error" ≠ "" then .error ⟨"upstream login failed", 400⟩
  else if code = "" ∨ state = "" then .error ⟨"missing code or state", 400⟩
  else if wantState = "" ∨ wantState ≠ state then
    .error ⟨"invalid state", 400⟩
  else if name = "" ∨ rawQuery = "" then .error ⟨"session expired", 400⟩
  else
    match server.storage.getUpstream name with
    | none => .error ⟨"unknown upstream", 400⟩
    | some upstream =>
        match upstream.oAuth2AuthCodeSettings with
        | none => .error ⟨"upstream misconfigured", 400⟩
        | some settings => .ok (upstream, settings)

/-- Everything that `handleUpstreamCallback` does before it looks at the
claims. -/
def startUpstreamLogin (server : OidcServer) (endpoints : UpstreamEndpoints)
    (request : HttpRequest) (session : LoginSession) :
    Except HttpError UpstreamLogin := do
  let (upstream, settings) ← server.callbackUpstream request session
  let token ← exchangeCode endpoints session settings
    ((server.query request).first "code")
  let idClaims ← verifyIDToken endpoints session upstream token
  let baseClaims ← mergeUserInfo endpoints upstream token idClaims
  return {
    upstream := upstream
    rawQuery := session.getString "authQuery"
    baseClaims := baseClaims }

/-! ## The rest of the callback -/

/-- `Identify`, when the upstream asks for local enrichment: the local user
and the error.  The status that comes between them is dropped. -/
def identifyLocally (server : OidcServer) (login : UpstreamLogin) :
    Option OidcUser × Option String :=
  if login.upstream.localEnrichment then
    match server.authenticator.identify login.sub "" with
    | (user, _, failure) => (user.map login.enrich, failure)
  else (none, none)

def upstreamLoginUser (server : OidcServer) (login : UpstreamLogin) :
    OidcUser :=
  (server.identifyLocally login).1.getD login.upstreamUser

/-- The errors that are written without returning. -/
def lateErrors (server : OidcServer) (login : UpstreamLogin) : List Effect :=
  (if login.sub = "" then [.httpError "Missing sub claim" 502] else []) ++
    match (server.identifyLocally login).2 with
    | some _ => [.httpError "Error authenticating user" 500]
    | none => []

/-- `completeUpstreamAuthorize`. -/
def completeUpstreamAuthorize (server : OidcServer) (now : Int)
    (rawQuery : String) (user : OidcUser) : List Effect :=
  .completeUpstreamAuthorize rawQuery user ::
    server.answerAuthorize now rawQuery user
      (server.clientIDFromRawQuery rawQuery)

/-- The sessions are updated and the authorize request resumed, at once or
after the confirmation of the user.  Encoding a user as JSON cannot fail:
claims are trees of JSON values. -/
def finishUpstreamLogin (server : OidcServer) (now : Int) (rawQuery : String)
    (user : OidcUser) : List Effect :=
  [.renewSsoToken,
    .removeLogin sessUpstreamState,
    .removeLogin sessUpstreamNonce,
    .removeLogin sessUpstreamVerifier,
    .removeLogin sessUpstreamPKCE,
    .removeLogin sessUpstreamProvider] ++
    match server.ssoMode with
    | .onDemand =>
        [.putPendingUpstreamUser user, .redirect "/upstream/welcome" 302]
    | .always =>
        .putSsoUser user ::
          server.completeUpstreamAuthorize now rawQuery user
    | .never => server.completeUpstreamAuthorize now rawQuery user

/-- `handleUpstreamCallback`. -/
def handleUpstreamCallback (server : OidcServer)
    (endpoints : UpstreamEndpoints) (now : Int) (request : HttpRequest)
    (session : LoginSession) : List Effect :=
  match server.startUpstreamLogin endpoints request session with
  | .error failure => [failure.effect]
  | .ok login =>
      server.lateErrors login ++
        server.finishUpstreamLogin now login.rawQuery
          (server.upstreamLoginUser login)

/-! ## The errors that do not stop the handler -/

theorem lateErrors_isHttpError (server : OidcServer) (login : UpstreamLogin) :
    ∀ effect ∈ server.lateErrors login, effect.IsHttpError := by
  intro effect member
  rcases List.mem_append.mp member with missing | failed
  · split at missing
    · rw [List.mem_singleton.mp missing]
      trivial
    · cases missing
  · split at failed
    · rw [List.mem_singleton.mp failed]
      trivial
    · cases failed

theorem completeUpstreamAuthorize_concerns (server : OidcServer) (now : Int)
    (rawQuery : String) (user : OidcUser) :
    ∀ effect ∈ server.completeUpstreamAuthorize now rawQuery user,
      effect.Concerns user := by
  intro effect member
  rcases List.mem_cons.mp member with rfl | member
  · exact .of_user rfl
  · exact server.answerAuthorize_concerns now rawQuery user _ effect member

/-- The sessions are updated, and the authorize request is resumed unless the
user is left pending. -/
theorem mem_finishUpstreamLogin {server : OidcServer} {now : Int}
    {rawQuery : String} {user : OidcUser} {effect : Effect}
    (member : effect ∈ server.finishUpstreamLogin now rawQuery user) :
    effect = .renewSsoToken ∨
      (∃ key, effect = .removeLogin key) ∨
      effect = .putPendingUpstreamUser user ∨
      effect = .redirect "/upstream/welcome" 302 ∨
      effect = .putSsoUser user ∨
      effect ∈ server.completeUpstreamAuthorize now rawQuery user := by
  rcases List.mem_append.mp member with session | member
  · simp only [List.mem_cons, List.not_mem_nil, or_false] at session
    rcases session with renewed | removed | removed | removed | removed |
      removed
    · exact .inl renewed
    all_goals exact .inr (.inl ⟨_, removed⟩)
  · cases mode : server.ssoMode with
    | onDemand =>
        simp only [mode] at member
        rcases List.mem_pair.mp member with pending | redirected
        · exact .inr (.inr (.inl pending))
        · exact .inr (.inr (.inr (.inl redirected)))
    | always =>
        simp only [mode, List.mem_cons] at member
        rcases member with stored | completed
        · exact .inr (.inr (.inr (.inr (.inl stored))))
        · exact .inr (.inr (.inr (.inr (.inr completed))))
    | never =>
        simp only [mode] at member
        exact .inr (.inr (.inr (.inr (.inr member))))

theorem finishUpstreamLogin_concerns (server : OidcServer) (now : Int)
    (rawQuery : String) (user : OidcUser) :
    ∀ effect ∈ server.finishUpstreamLogin now rawQuery user,
      effect.Concerns user := by
  intro effect member
  rcases mem_finishUpstreamLogin member with
    rfl | ⟨key, rfl⟩ | rfl | rfl | rfl | completed
  · exact .of_nobody user rfl
  · exact .of_nobody user rfl
  · exact .of_user rfl
  · exact .of_nobody user rfl
  · exact .of_user rfl
  · exact server.completeUpstreamAuthorize_concerns now rawQuery user effect
      completed

theorem finishUpstreamLogin_hands_over (server : OidcServer) (now : Int)
    (rawQuery : String) (user : OidcUser) :
    ∃ effect ∈ server.finishUpstreamLogin now rawQuery user,
      effect.user? = some user := by
  cases mode : server.ssoMode with
  | onDemand =>
      exact ⟨.putPendingUpstreamUser user,
        by simp [finishUpstreamLogin, mode], rfl⟩
  | always =>
      exact ⟨.putSsoUser user, by simp [finishUpstreamLogin, mode], rfl⟩
  | never =>
      exact ⟨.completeUpstreamAuthorize rawQuery user,
        by simp [finishUpstreamLogin, mode, completeUpstreamAuthorize], rfl⟩

/-- Everything that the callback does is done for the user of the login that
passed the checks, if one did. -/
theorem handleUpstreamCallback_concerns {server : OidcServer}
    {endpoints : UpstreamEndpoints} {now : Int} {request : HttpRequest}
    {session : LoginSession} {effect : Effect}
    (member : effect ∈
      server.handleUpstreamCallback endpoints now request session) :
    effect.login? = none ∨
      ∃ login,
        server.startUpstreamLogin endpoints request session = .ok login ∧
          effect.Concerns (server.upstreamLoginUser login) := by
  unfold handleUpstreamCallback at member
  split at member
  · rw [List.mem_singleton.mp member]
    exact .inl rfl
  · next login started =>
      rcases List.mem_append.mp member with late | finished
      · exact .inl
          (server.lateErrors_isHttpError login effect late).login?_eq_none
      · exact .inr ⟨login, started, server.finishUpstreamLogin_concerns now
          login.rawQuery _ effect finished⟩

theorem handleUpstreamCallback_hands_over {server : OidcServer}
    {endpoints : UpstreamEndpoints} {request : HttpRequest}
    {session : LoginSession} {login : UpstreamLogin}
    (started : server.startUpstreamLogin endpoints request session =
      .ok login) (now : Int) :
    ∃ effect ∈ server.handleUpstreamCallback endpoints now request session,
      effect.user? = some (server.upstreamLoginUser login) := by
  obtain ⟨effect, member, handed⟩ :=
    server.finishUpstreamLogin_hands_over now login.rawQuery
      (server.upstreamLoginUser login)
  rw [handleUpstreamCallback, started]
  exact ⟨effect, List.mem_append_right _ member, handed⟩

/-! ## Fail-stop -/

/-- An upstream with a userinfo endpoint that the callback does not query. -/
def sampleUpstream : Upstream :=
  { (default : Upstream) with
    name := "idp"
    provider := some
      { (default : OidcProvider) with
        userInfoEndpoint := "https://idp/userinfo" } }

/-- A server that knows one upstream. -/
def upstreamServer (upstream : Upstream) (exchange : Exchange) : OidcServer :=
  sampleServer exchange
    { MemoryStore.empty with upstreams := [(upstream.name, upstream)] }

/-- The upstream answers with an ID token and with userinfo claims. -/
def sampleEndpoints (idToken : String) (idClaims userInfo : Claims) :
    UpstreamEndpoints :=
  { exchange := fun _ _ _ =>
      .ok { accessToken := "access", extra := [("id_token", .str idToken)] }
    verify := fun _ _ _ => .ok (some idClaims)
    userInfo := fun _ _ => .ok (some userInfo) }

def sampleCallback : HttpRequest :=
  { method := "GET"
    rawQuery := "code=c&state=s"
    postForm := []
    parseFormError := none }

def sampleSession : LoginSession :=
  { values :=
      [(sessUpstreamState, "s"), (sessUpstreamProvider, "idp"),
        ("authQuery", "client_id=app")]
    pendingUpstreamUser := none }

end OidcServer

end Kubauth.Server
