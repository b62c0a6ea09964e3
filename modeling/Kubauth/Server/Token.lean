import Kubauth.Server.Basic

/-!
# The token endpoint

The OAuth2 library parses the request and authenticates the client, from the
HTTP Basic header when there is one, and then runs the handler of the grant.
The session of the request is built on this side, by `newSession` before the
library is called and anew by the password handler.  Both builders take the
client from a form, the first one from what `ParseForm` reads and the second
one from the form of the library.
-/

namespace Kubauth.Server

/-- The part of the OAuth2 library that serves the token endpoint.  `parse`
yields the request, with the form that it reads from the body and the client
that it authenticates, and `handleGrant` runs the handler of any grant but
`password`. -/
structure AccessProvider where
  parse : HttpRequest → Except String AccessRequester
  handleGrant : AccessRequester → Except String AccessRequester
  newAccessResponse : AccessRequester → Option String

namespace AccessProvider

/-- The library's handler for client credentials keeps the request, up to the
times at which its tokens expire. -/
def KeepsClientCredentials (access : AccessProvider) : Prop :=
  ∀ request granted, request.exactOne "client_credentials" = true →
    access.handleGrant request = .ok granted →
      granted.session.SameClaims request.session

end AccessProvider

namespace OidcServer

/-- The handler that `Setup` composes into the library, over a store that
received the server's own settings. -/
def passwordGrantHandler (server : OidcServer) : PasswordGrantHandler :=
  { issuer := server.issuer
    keyID := server.keyID
    allowPasswordGrant := server.allowPasswordGrant
    authenticator := server.authenticator
    scopeStrategy := server.config.scopeStrategy
    audienceStrategy := server.config.audienceStrategy
    accessTokenLifespan := server.accessTokenLifespan
    refreshTokenLifespan := server.refreshTokenLifespan
    idTokenLifespan := server.config.idTokenLifespan }

/-- `NewAccessRequest`, for the session that the caller passes. -/
def newAccessRequest (server : OidcServer) (access : AccessProvider)
    (now : Int) (request : HttpRequest) (session : OidcSession) :
    Except String AccessRequester :=
  match access.parse request with
  | .error failure => .error failure
  | .ok parsed =>
      let accessRequest := { parsed with session := session }
      if parsed.exactOne "password" then
        match server.passwordGrantHandler.handleTokenEndpointRequest now
            accessRequest with
        | .error failure => .error failure.message
        | .ok granted => .ok granted
      else access.handleGrant accessRequest

/-- Client credentials are granted all that they ask for. -/
def grantClientCredentials (request : AccessRequester) : AccessRequester :=
  if request.exactOne "client_credentials" then
    { request with
      toRequester := request.toRequester.handleScopes.handleAudience }
  else request

/-- `handleToken`. -/
def handleToken (server : OidcServer) (access : AccessProvider) (now : Int)
    (request : HttpRequest) : List Effect :=
  let session :=
    server.newSession now none (server.getClientIdFromRequest request)
  match server.newAccessRequest access now request session with
  | .error failure => [.writeAccessError failure]
  | .ok accessRequest =>
      let granted := grantClientCredentials accessRequest
      match access.newAccessResponse granted with
      | some failure =>
          [.newAccessResponse granted, .writeAccessError failure]
      | none => [.newAccessResponse granted, .writeAccessResponse]

/-! ## What the endpoint does -/

@[simp] theorem grantClientCredentials_session (request : AccessRequester) :
    (grantClientCredentials request).session = request.session := by
  unfold grantClientCredentials
  split <;> simp

/-- Besides writing its answer, the endpoint only asks for a response to the
request that the library accepted. -/
theorem mem_handleToken {server : OidcServer} {access : AccessProvider}
    {now : Int} {request : HttpRequest} {effect : Effect}
    (member : effect ∈ server.handleToken access now request) :
    (∃ failure, effect = .writeAccessError failure) ∨
      effect = .writeAccessResponse ∨
      ∃ accessRequest,
        server.newAccessRequest access now request
            (server.newSession now none
              (server.getClientIdFromRequest request)) =
          .ok accessRequest ∧
        effect =
          .newAccessResponse (grantClientCredentials accessRequest) := by
  simp only [handleToken] at member
  split at member
  · exact .inl ⟨_, List.mem_singleton.mp member⟩
  · next accessRequest accepted =>
      split at member <;>
        simp only [List.mem_cons, List.not_mem_nil, or_false] at member <;>
        rcases member with asked | written
      · exact .inr (.inr ⟨accessRequest, accepted, asked⟩)
      · exact .inl ⟨_, written⟩
      · exact .inr (.inr ⟨accessRequest, accepted, asked⟩)
      · exact .inr (.inl written)

theorem newAccessRequest_password {server : OidcServer}
    {access : AccessProvider} {now : Int} {request : HttpRequest}
    {session : OidcSession} {parsed accessRequest : AccessRequester}
    (authenticated : access.parse request = .ok parsed)
    (password : parsed.exactOne "password" = true)
    (accepted : server.newAccessRequest access now request session =
      .ok accessRequest) :
    ∃ user,
      server.authenticator.authenticate (parsed.form.first "username")
          (parsed.form.first "password") = (some user, none) ∧
        accessRequest.session.SameClaims
          (server.passwordGrantHandler.createSessionWithUserClaims now
            (some user) (parsed.form.first "client_id")) := by
  simp only [newAccessRequest, authenticated] at accepted
  rw [if_pos password] at accepted
  split at accepted
  · cases accepted
  · next handled =>
      cases accepted
      obtain ⟨-, user, returned, rfl⟩ :=
        PasswordGrantHandler.handleTokenEndpointRequest_ok handled
      exact ⟨user, returned, PasswordGrantHandler.grant_session _ _ _ _⟩

theorem newAccessRequest_clientCredentials {server : OidcServer}
    {access : AccessProvider} (keeps : access.KeepsClientCredentials)
    {now : Int} {request : HttpRequest} {session : OidcSession}
    {parsed accessRequest : AccessRequester}
    (authenticated : access.parse request = .ok parsed)
    (credentials : parsed.exactOne "client_credentials" = true)
    (accepted : server.newAccessRequest access now request session =
      .ok accessRequest) :
    accessRequest.session.SameClaims session := by
  have other : parsed.exactOne "password" = false := by
    simp only [AccessRequester.exactOne, decide_eq_true_eq] at credentials
    simp [AccessRequester.exactOne, credentials]
  simp only [newAccessRequest, authenticated] at accepted
  rw [if_neg (Bool.eq_false_iff.mp other)] at accepted
  exact keeps { parsed with session := session } accessRequest credentials
    accepted

/-! ## The client of a session -/

/-- The tokens made from the session are for this client alone. -/
def BoundTo (session : OidcSession) (clientId : String) : Prop :=
  session.idTokenClaims.audience = [clientId] ∧
    session.jwtClaims.audience = [clientId] ∧
    session.azp = some (.str clientId)

theorem boundTo_congr {first second : OidcSession}
    (same : first.SameClaims second) (clientId : String) :
    BoundTo first clientId ↔ BoundTo second clientId := by
  unfold BoundTo OidcSession.azp
  rw [same.1, same.2.1]

/-- The identifier in the form is that of the client.  When it is empty no
authorized party is added, and only a claim of the user can name it. -/
def FormNames (clientId : String) (client : KubauthClient)
    (claims : ClaimSet) : Prop :=
  clientId = client.clientId ∧
    (client.clientId = "" →
      GoMap.get claims.entries "azp" = some (.str ""))

theorem get_addAzp (extra : ClaimSet) (clientId : String) :
    GoMap.get (addAzp extra clientId).entries "azp" =
      if clientId = "" then GoMap.get extra.entries "azp"
      else some (.str clientId) := by
  by_cases empty : clientId = ""
  · simp [addAzp, empty]
  · simp [addAzp, empty]

/-- Both builders give the session the audience and the authorized party that
the form names. -/
theorem boundTo_iff_formNames {session : OidcSession} {formId : String}
    {claims : ClaimSet}
    (idAudience : session.idTokenClaims.audience = [formId])
    (jwtAudience : session.jwtClaims.audience = [formId])
    (extra : session.idTokenClaims.extra = addAzp claims formId)
    (client : KubauthClient) :
    BoundTo session client.clientId ↔ FormNames formId client claims := by
  unfold BoundTo FormNames OidcSession.azp
  rw [idAudience, jwtAudience, extra, get_addAzp, List.cons.injEq]
  constructor
  · rintro ⟨⟨rfl, -⟩, -, party⟩
    refine ⟨rfl, fun empty => ?_⟩
    rw [if_pos empty, empty] at party
    exact party
  · rintro ⟨rfl, party⟩
    refine ⟨⟨rfl, rfl⟩, ⟨rfl, rfl⟩, ?_⟩
    split
    · next empty => rw [party empty, empty]
    · rfl

/-- A session is bound to the authenticated client exactly when the form that
its builder looks at happens to name that client. -/
theorem token_session_boundTo_iff {server : OidcServer}
    {access : AccessProvider} (keeps : access.KeepsClientCredentials)
    {now : Int} {request : HttpRequest} {parsed granted : AccessRequester}
    (authenticated : access.parse request = .ok parsed)
    (asked : .newAccessResponse granted ∈
      server.handleToken access now request) :
    (parsed.exactOne "password" = true →
      ∃ user,
        server.authenticator.authenticate (parsed.form.first "username")
            (parsed.form.first "password") = (some user, none) ∧
          (BoundTo granted.session parsed.client.clientId ↔
            FormNames (parsed.form.first "client_id") parsed.client
              user.claims)) ∧
      (parsed.exactOne "client_credentials" = true →
        (BoundTo granted.session parsed.client.clientId ↔
          FormNames (server.getClientIdFromRequest request) parsed.client
            none)) := by
  obtain ⟨failure, written⟩ | written | ⟨accessRequest, accepted, same⟩ :=
    mem_handleToken asked
  · cases written
  · cases written
  cases same
  rw [grantClientCredentials_session]
  constructor
  · intro password
    obtain ⟨user, returned, claims⟩ :=
      newAccessRequest_password authenticated password accepted
    refine ⟨user, returned, ?_⟩
    rw [boundTo_congr claims]
    exact boundTo_iff_formNames rfl rfl rfl parsed.client
  · intro credentials
    have claims := newAccessRequest_clientCredentials keeps authenticated
      credentials accepted
    rw [boundTo_congr claims]
    exact boundTo_iff_formNames rfl rfl rfl parsed.client

/-- A client that may use both grants. -/
def sampleClient : KubauthClient :=
  { (default : KubauthClient) with
    clientId := "app"
    k8sObject :=
      { (default : OidcClient) with
        spec :=
          { (default : OidcClientSpec) with
            grantTypes := ["password", "client_credentials"] } } }

/-- A library that authenticates every request as that client, from its
header. -/
def sampleAccess : AccessProvider :=
  { parse := fun request =>
      let form := request.postForm ++ request.multipartForm
      .ok
        { (default : AccessRequester) with
          client := sampleClient
          form := form
          grantTypes := [form.first "grant_type"] }
    handleGrant := fun request =>
      .ok
        { request with
          session := request.session.setExpiresAt .accessToken hour }
    newAccessResponse := fun _ => none }

theorem sampleAccess_keeps : sampleAccess.KeepsClientCredentials := by
  intro request granted _ handled
  cases handled
  exact ⟨rfl, rfl, rfl⟩

def tokenRequest (form : Values) : HttpRequest :=
  { method := "POST"
    rawQuery := ""
    postForm := form
    parseFormError := none }

def passwordRequest (clientId : String) : HttpRequest :=
  tokenRequest
    [("grant_type", ["password"]), ("username", ["alice"]),
      ("password", ["secret"]), ("client_id", [clientId])]

def sampleTokenTrace (request : HttpRequest) : List Effect :=
  (sampleServer (sampleExchange Status.passwordChecked)
    MemoryStore.empty).handleToken sampleAccess 0 request

theorem token_session_boundTo_iff_named :
    ∃ granted,
      .newAccessResponse granted ∈ sampleTokenTrace (passwordRequest "app") ∧
        BoundTo granted.session "app" := by
  have asked : .newAccessResponse _ ∈
      sampleTokenTrace (passwordRequest "app") :=
    List.mem_of_getElem? (i := 0) rfl
  refine ⟨_, asked, ?_⟩
  obtain ⟨user, -, bound⟩ :=
    (token_session_boundTo_iff sampleAccess_keeps rfl asked).1 rfl
  exact bound.mpr ⟨rfl, fun empty => absurd empty (by decide)⟩

/-- A request for client credentials whose body is multipart. -/
def multipartRequest : HttpRequest :=
  { tokenRequest [] with
    multipartForm :=
      [("grant_type", ["client_credentials"]), ("client_id", ["app"])] }

/-- The client of the form takes the place of the authenticated one.  When the
form has none, or is multipart, the session is for no client at all. -/
theorem token_session_boundTo_formClient :
    (∃ granted,
      .newAccessResponse granted ∈
          sampleTokenTrace (passwordRequest "other") ∧
        granted.client.clientId = "app" ∧ BoundTo granted.session "other") ∧
      ∀ request ∈
          [tokenRequest [("grant_type", ["client_credentials"])],
            multipartRequest],
        ∃ granted,
          .newAccessResponse granted ∈ sampleTokenTrace request ∧
            granted.client.clientId = "app" ∧
            granted.session.idTokenClaims.audience = [""] ∧
            granted.session.azp = none := by
  refine ⟨⟨_, List.mem_of_getElem? (i := 0) rfl, rfl, rfl, rfl, rfl⟩, ?_⟩
  intro request member
  rcases List.mem_pair.mp member with rfl | rfl
  · exact ⟨_, List.mem_of_getElem? (i := 0) rfl, rfl, rfl, rfl⟩
  · exact ⟨_, List.mem_of_getElem? (i := 0) rfl, rfl, rfl, rfl⟩

end OidcServer

end Kubauth.Server
