import Kubauth.Fosite

/-!
# The password grant

The server's own handler for the grant type `password`.  It replaces the one
of the OAuth2 library, so that the session of the request is built from the
claims of the user.
-/

namespace Kubauth

/-- The errors of the handler: those of the OAuth2 library, with their hint or
debug text. -/
inductive GrantError where
  | unknownRequest
  | requestForbidden (hint : String)
  | unauthorizedClient (hint : String)
  | invalidScope (hint : String)
  | audience (failure : String)
  | invalidRequest (hint : String)
  | serverError (debug : String)
  | invalidGrant (hint : String)
  deriving Repr, DecidableEq

/-- The hint or debug text, beside the library's own description. -/
def GrantError.message : GrantError → String
  | .unknownRequest => ""
  | .requestForbidden hint => hint
  | .unauthorizedClient hint => hint
  | .invalidScope hint => hint
  | .audience failure => failure
  | .invalidRequest hint => hint
  | .serverError debug => debug
  | .invalidGrant hint => hint

/-- `ResourceOwnerPasswordCredentialsGrantHandler`: what it reads from its
storage, then from its configuration. -/
structure PasswordGrantHandler where
  issuer : String
  keyID : String
  allowPasswordGrant : Bool
  authenticator : OidcAuthenticator
  scopeStrategy : List String → String → Bool
  audienceStrategy : List String → List String → Option String
  accessTokenLifespan : Int
  refreshTokenLifespan : Int
  idTokenLifespan : Int

/-- `Add("azp", clientId)` on the extra claims, creating the map if needed. -/
def addAzp (extra : ClaimSet) (clientId : String) : ClaimSet :=
  if clientId ≠ "" then
    some (GoMap.set extra.entries "azp" (.str clientId))
  else extra

/-- `Round(time.Second)`, on nanoseconds: half a second rounds up. -/
def roundToSecond (time : Int) : Int :=
  (time + 500000000) / 1000000000 * 1000000000

namespace PasswordGrantHandler

/-- `createSessionWithUserClaims`.  Only the ID token claims are given the
authorized party, but a map that the user brings is shared by both records. -/
def createSessionWithUserClaims (handler : PasswordGrantHandler) (now : Int)
    (user : Option OidcUser) (clientId : String) : OidcSession :=
  let subject := (user.map OidcUser.login).getD ""
  let extra := user.bind OidcUser.claims
  { idTokenClaims :=
      { issuer := handler.issuer
        subject := subject
        audience := [clientId]
        issuedAt := now
        requestedAt := now
        authTime := now
        extra := addAzp extra clientId }
    jwtClaims :=
      { issuer := handler.issuer
        subject := subject
        audience := [clientId]
        issuedAt := now
        expiresAt := none
        extra := extra.bind fun _ => addAzp extra clientId }
    kid := handler.keyID
    expiresAt := []
    username := subject
    subject := subject }

/-- The times at which the tokens of a granted request expire. -/
def setExpiries (handler : PasswordGrantHandler) (now : Int)
    (request : Requester) : OidcSession :=
  let lifespan := request.client.getEffectiveLifespan
  let access := lifespan .accessToken handler.accessTokenLifespan
  let refresh := lifespan .refreshToken handler.refreshTokenLifespan
  let id := lifespan .idToken handler.idTokenLifespan
  let session :=
    request.session.setExpiresAt .accessToken (roundToSecond (now + access))
  let session :=
    if refresh > -1 then
      session.setExpiresAt .refreshToken (roundToSecond (now + refresh))
    else session
  if request.library.has request.grantedScopes "openid" then
    session.setExpiresAt .idToken (roundToSecond (now + id))
  else session

/-- The request of a user whose password is right, with its new session and
its grants. -/
def grantedRequest (handler : PasswordGrantHandler) (now : Int)
    (request : AccessRequester) (user : OidcUser) : Requester :=
  let clientId := request.form.first "client_id"
  Requester.handleAudience (Requester.handleScopes
    { request.toRequester with
      session := handler.createSessionWithUserClaims now (some user) clientId
      form := GoMap.delete request.form "password" })

def grant (handler : PasswordGrantHandler) (now : Int)
    (request : AccessRequester) (user : OidcUser) : AccessRequester :=
  let granted := handler.grantedRequest now request user
  { request with
    toRequester :=
      { granted with session := handler.setExpiries now granted } }

def canHandleTokenEndpointRequest (request : AccessRequester) : Bool :=
  request.exactOne "password"

/-- `HandleTokenEndpointRequest`. -/
def handleTokenEndpointRequest (handler : PasswordGrantHandler) (now : Int)
    (request : AccessRequester) : Except GrantError AccessRequester :=
  let client := request.client
  if ¬canHandleTokenEndpointRequest request then .error .unknownRequest
  else if ¬handler.allowPasswordGrant then
    .error (.requestForbidden
      ("This server does not  allow to use authorization grant 'password'. " ++
        "Check server configuration"))
  else if ¬request.library.has client.getGrantTypes "password" then
    .error (.unauthorizedClient
      "The client is not allowed to use authorization grant 'password'.")
  else
    match request.requestedScopes.find? fun scope =>
        ¬handler.scopeStrategy client.getScopes scope with
    | some scope =>
        .error (.invalidScope
          ("The OAuth 2.0 Client is not allowed to request scope '" ++
            scope ++ "'."))
    | none =>
        match handler.audienceStrategy client.getAudience
            request.requestedAudience with
        | some failure => .error (.audience failure)
        | none =>
            let username := request.form.first "username"
            let password := request.form.first "password"
            if username = "" ∨ password = "" then
              .error (.invalidRequest
                "Username or password are missing from the POST body.")
            else
              match handler.authenticator.authenticate username password with
              | (_, some failure) => .error (.serverError failure)
              | (none, none) =>
                  .error (.invalidGrant
                    ("Unable to authenticate the provided username and " ++
                      "password credentials."))
              | (some user, none) => .ok (handler.grant now request user)

theorem setExpiries_sameClaims (handler : PasswordGrantHandler) (now : Int)
    (request : Requester) :
    (handler.setExpiries now request).SameClaims request.session := by
  simp only [setExpiries]
  split <;> split <;> exact ⟨rfl, rfl, rfl⟩

theorem grant_session (handler : PasswordGrantHandler) (now : Int)
    (request : AccessRequester) (user : OidcUser) :
    (handler.grant now request user).session.SameClaims
      (handler.createSessionWithUserClaims now (some user)
        (request.form.first "client_id")) := by
  have claims := handler.setExpiries_sameClaims now
    (handler.grantedRequest now request user)
  have session : (handler.grantedRequest now request user).session =
      handler.createSessionWithUserClaims now (some user)
        (request.form.first "client_id") := by
    simp [grantedRequest]
  rw [session] at claims
  exact claims

theorem grant_form (handler : PasswordGrantHandler) (now : Int)
    (request : AccessRequester) (user : OidcUser) :
    (handler.grant now request user).form =
      GoMap.delete request.form "password" := by
  simp only [grant, grantedRequest]
  rw [Requester.handleAudience_keeps Requester.form (fun _ _ => rfl),
    Requester.handleScopes_keeps Requester.form (fun _ _ => rfl)]

/-- What the handler asks of a request before it looks at the user. -/
structure Admits (handler : PasswordGrantHandler)
    (request : AccessRequester) : Prop where
  grantType : request.grantTypes = ["password"]
  server : handler.allowPasswordGrant = true
  client : request.library.has request.client.getGrantTypes "password" = true
  scopes : ∀ scope ∈ request.requestedScopes,
    handler.scopeStrategy request.client.getScopes scope = true
  audience : handler.audienceStrategy request.client.getAudience
    request.requestedAudience = none
  username : request.form.first "username" ≠ ""
  password : request.form.first "password" ≠ ""

/-- A password is granted only to an admitted request, for a user that the
authenticator returns. -/
theorem handleTokenEndpointRequest_ok {handler : PasswordGrantHandler}
    {now : Int} {request granted : AccessRequester}
    (handled : handler.handleTokenEndpointRequest now request =
      .ok granted) :
    handler.Admits request ∧
      ∃ user,
        handler.authenticator.authenticate (request.form.first "username")
            (request.form.first "password") = (some user, none) ∧
          granted = handler.grant now request user := by
  simp only [handleTokenEndpointRequest] at handled
  split at handled
  · cases handled
  next grantType =>
  split at handled
  · cases handled
  next server =>
  split at handled
  · cases handled
  next client =>
  split at handled
  · cases handled
  next scopes =>
  split at handled
  · cases handled
  next audience =>
  split at handled
  · cases handled
  next present =>
  split at handled
  · cases handled
  · cases handled
  next user authenticated =>
  cases handled
  refine ⟨?_, user, authenticated, rfl⟩
  rw [List.find?_eq_none] at scopes
  constructor
  case grantType => simpa [canHandleTokenEndpointRequest,
    AccessRequester.exactOne] using grantType
  case server => exact not_not.mp server
  case client => exact not_not.mp client
  case scopes =>
    intro scope member
    simpa using scopes scope member
  case audience => exact audience
  case username => exact fun missing => present (Or.inl missing)
  case password => exact fun missing => present (Or.inr missing)

theorem handleTokenEndpointRequest_of_admits {handler : PasswordGrantHandler}
    {request : AccessRequester} {user : OidcUser}
    (admitted : handler.Admits request)
    (authenticated : handler.authenticator.authenticate
        (request.form.first "username") (request.form.first "password") =
      (some user, none)) (now : Int) :
    handler.handleTokenEndpointRequest now request =
      .ok (handler.grant now request user) := by
  have password : canHandleTokenEndpointRequest request = true := by
    simp [canHandleTokenEndpointRequest, AccessRequester.exactOne,
      admitted.grantType]
  have scopes : request.requestedScopes.find? (fun scope =>
      ¬handler.scopeStrategy request.client.getScopes scope) = none := by
    rw [List.find?_eq_none]
    intro scope member
    simp [admitted.scopes scope member]
  have present : ¬(request.form.first "username" = "" ∨
      request.form.first "password" = "") :=
    not_or.mpr ⟨admitted.username, admitted.password⟩
  simp only [handleTokenEndpointRequest]
  rw [if_neg (not_not_intro password),
    if_neg (not_not_intro admitted.server),
    if_neg (not_not_intro admitted.client), scopes, admitted.audience]
  dsimp only
  rw [if_neg present, authenticated]

end PasswordGrantHandler

end Kubauth
