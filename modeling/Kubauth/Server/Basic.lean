import Kubauth.PasswordGrant
import Kubauth.Storage.Memory
import Kubauth.Trace

/-!
# The OIDC server

The server's settings, the sessions of a browser, and the effects of its
handlers.  A handler is a function of its request and of the sessions it finds;
its result is the list of effects that it performs, in order.
-/

namespace Kubauth.Server

/-- `SsoMode`, one of the three values that the command line accepts. -/
inductive SsoMode where
  | always
  | onDemand
  | never
  deriving Repr, DecidableEq

/-- A request.  `postForm` is what `ParseForm` reads of the body, and
`parseFormError` its outcome.  The fields of a multipart body are read by the
OAuth2 library only. -/
structure HttpRequest where
  method : String
  rawQuery : String
  postForm : Values
  parseFormError : Option String
  multipartForm : Values := []
  deriving Repr, DecidableEq, Inhabited

/-- What is stored in the login session: texts under keys, and the user of an
upstream login that awaits confirmation. -/
structure LoginSession where
  values : GoMap String String
  pendingUpstreamUser : Option OidcUser
  deriving Repr, Inhabited

/-- `GetString`: the empty string when the key is absent. -/
def LoginSession.getString (session : LoginSession) (key : String) : String :=
  (GoMap.get session.values key).getD ""

/-- The part of the OAuth2 library that answers authorize requests.  `ar` is
rebuilt from the raw query of the original request. -/
structure Oauth2Provider where
  newRequest : String → Option String
  newAuthorizeRequest : String → Except String Requester
  newAuthorizeResponse : Requester → OidcSession → Option String

/-- The settings of the OAuth2 library that the server leaves at their
defaults. -/
structure FositeConfig where
  scopeStrategy : List String → String → Bool
  audienceStrategy : List String → List String → Option String
  idTokenLifespan : Int

structure OidcServer where
  issuer : String
  keyID : String
  accessTokenLifespan : Int
  refreshTokenLifespan : Int
  allowPasswordGrant : Bool
  postLogoutURL : String
  defaultStyle : String
  defaultLoginLabel : String
  config : FositeConfig
  ssoMode : SsoMode
  storage : MemoryStore
  authenticator : OidcAuthenticator
  oauth2 : Oauth2Provider
  /-- `url.ParseQuery`: the pairs that parse, and the first error. -/
  parseQuery : String → Values × Option String

/-- What a handler does to the response and to the sessions. -/
inductive Effect where
  | httpError (message : String) (status : Nat)
  | redirect (location : String) (status : Nat)
  | displayLogin (clientId : String) (invalidLogin : Bool)
  | displayWelcome (userName style : String)
  | panic (reason : String)
  | putLogin (key value : String)
  | removeLogin (key : String)
  | putPendingUpstreamUser (user : OidcUser)
  | removePendingUpstreamUser
  | destroyLogin
  | renewSsoToken
  | putSsoUser (user : OidcUser)
  | destroySso
  | completeUpstreamAuthorize (rawQuery : String) (user : OidcUser)
  | newAuthorizeResponse (request : Requester) (session : OidcSession)
  | writeAuthorizeError (failure : String)
  | writeAuthorizeResponse
  | newAccessResponse (request : AccessRequester)
  | writeAccessError (failure : String)
  | writeAccessResponse

namespace Effect

/-- `http.Error`. -/
def IsHttpError : Effect → Prop
  | .httpError _ _ => True
  | _ => False

/-- The user that the effect stores in a session or hands to the end of an
upstream login. -/
def user? : Effect → Option OidcUser
  | .putPendingUpstreamUser user => some user
  | .putSsoUser user => some user
  | .completeUpstreamAuthorize _ user => some user
  | _ => none

/-- The login on whose behalf something is stored or a response asked for. -/
def login? : Effect → Option String
  | .putPendingUpstreamUser user => some user.login
  | .putSsoUser user => some user.login
  | .completeUpstreamAuthorize _ user => some user.login
  | .newAuthorizeResponse _ session => some session.subject
  | .newAccessResponse request => some request.session.subject
  | _ => none

theorem login?_of_user? {effect : Effect} {user : OidcUser}
    (handed : effect.user? = some user) :
    effect.login? = some user.login := by
  cases effect <;> cases handed <;> rfl

/-- The effect is about nobody else than the user. -/
def Concerns (user : OidcUser) (effect : Effect) : Prop :=
  (∀ other, effect.user? = some other → other = user) ∧
    ∀ login, effect.login? = some login → login = user.login

theorem Concerns.of_nobody {effect : Effect} (user : OidcUser)
    (nobody : effect.login? = none) : effect.Concerns user := by
  constructor
  · intro other handed
    rw [login?_of_user? handed] at nobody
    cases nobody
  · intro login behalf
    rw [nobody] at behalf
    cases behalf

theorem Concerns.of_user {effect : Effect} {user : OidcUser}
    (handed : effect.user? = some user) : effect.Concerns user := by
  constructor
  · intro other same
    exact Option.some.inj (same.symm.trans handed)
  · intro login behalf
    exact Option.some.inj (behalf.symm.trans (login?_of_user? handed))

theorem IsHttpError.exists_eq {effect : Effect} (ended : effect.IsHttpError) :
    ∃ message status, effect = .httpError message status := by
  cases effect with
  | httpError message status => exact ⟨message, status, rfl⟩
  | _ => cases ended

theorem IsHttpError.login?_eq_none {effect : Effect}
    (ended : effect.IsHttpError) : effect.login? = none := by
  obtain ⟨message, status, rfl⟩ := ended.exists_eq
  rfl

end Effect

/-- A message and a status for `http.Error`. -/
structure HttpError where
  message : String
  status : Nat
  deriving Repr, DecidableEq

def HttpError.effect (failure : HttpError) : Effect :=
  .httpError failure.message failure.status

namespace OidcServer

/-- `r.URL.Query()`, which drops what does not parse. -/
def query (server : OidcServer) (request : HttpRequest) : Values :=
  (server.parseQuery request.rawQuery).1

/-- `r.Form.Get`: the values of the body come before those of the URL. -/
def formValue (server : OidcServer) (request : HttpRequest) (key : String) :
    String :=
  match GoMap.get request.postForm key with
  | some (first :: _) => first
  | _ => (server.query request).first key

def getClientIdFromRequest (server : OidcServer) (request : HttpRequest) :
    String :=
  match request.parseFormError with
  | some _ => ""
  | none => server.formValue request "client_id"

def clientIDFromRawQuery (server : OidcServer) (rawQuery : String) : String :=
  if rawQuery = "" then ""
  else
    match server.parseQuery rawQuery with
    | (_, some _) => ""
    | (values, none) => values.first "client_id"

end OidcServer

/-- `newSession`. -/
def OidcServer.newSession (server : OidcServer) (now : Int)
    (user : Option OidcUser) (clientId : String) : OidcSession :=
  let subject := (user.map OidcUser.login).getD ""
  let extra := addAzp (user.bind OidcUser.claims) clientId
  { idTokenClaims :=
      { issuer := server.issuer
        subject := subject
        audience := [clientId]
        issuedAt := now
        requestedAt := now
        authTime := now
        extra := extra }
    jwtClaims :=
      { issuer := server.issuer
        subject := subject
        audience := [clientId]
        issuedAt := now
        expiresAt := some (now + server.accessTokenLifespan)
        extra := extra }
    kid := server.keyID
    expiresAt := []
    username := subject
    subject := subject }

/-- The common end of the login routes: rebuild the authorize request, grant,
and answer. -/
def OidcServer.answerAuthorize (server : OidcServer) (now : Int)
    (rawQuery : String) (user : OidcUser) (clientId : String) :
    List Effect :=
  match server.oauth2.newRequest ("/oauth2/auth?" ++ rawQuery) with
  | some _ => [.httpError "internal error" 500]
  | none =>
      match server.oauth2.newAuthorizeRequest rawQuery with
      | .error failure => [.writeAuthorizeError failure]
      | .ok request =>
          let granted := request.handleScopes.handleAudience
          let session := server.newSession now (some user) clientId
          match server.oauth2.newAuthorizeResponse granted session with
          | some failure =>
              [.newAuthorizeResponse granted session,
                .writeAuthorizeError failure]
          | none =>
              [.newAuthorizeResponse granted session, .writeAuthorizeResponse]

theorem OidcServer.mem_answerAuthorize {server : OidcServer} {now : Int}
    {rawQuery : String} {user : OidcUser} {clientId : String}
    {effect : Effect}
    (member : effect ∈ server.answerAuthorize now rawQuery user clientId) :
    (∃ granted, effect = .newAuthorizeResponse granted
        (server.newSession now (some user) clientId)) ∨
      effect = .httpError "internal error" 500 ∨
      (∃ failure, effect = .writeAuthorizeError failure) ∨
      effect = .writeAuthorizeResponse := by
  unfold OidcServer.answerAuthorize at member
  split at member
  · exact .inr (.inl (List.mem_singleton.mp member))
  · split at member
    · next failure _ =>
        exact .inr (.inr (.inl ⟨failure, List.mem_singleton.mp member⟩))
    · simp only at member
      split at member
      · next failure _ =>
          rcases List.mem_pair.mp member with asked | written
          · exact .inl ⟨_, asked⟩
          · exact .inr (.inr (.inl ⟨failure, written⟩))
      · rcases List.mem_pair.mp member with asked | written
        · exact .inl ⟨_, asked⟩
        · exact .inr (.inr (.inr written))

theorem OidcServer.answerAuthorize_concerns (server : OidcServer) (now : Int)
    (rawQuery : String) (user : OidcUser) (clientId : String) :
    ∀ effect ∈ server.answerAuthorize now rawQuery user clientId,
      effect.Concerns user := by
  intro effect member
  rcases OidcServer.mem_answerAuthorize member with
    ⟨granted, rfl⟩ | rfl | ⟨failure, rfl⟩ | rfl
  · refine ⟨fun other handed => ?_, fun login behalf => ?_⟩
    · cases handed
    · exact (Option.some.inj behalf).symm
  · exact .of_nobody user rfl
  · exact .of_nobody user rfl
  · exact .of_nobody user rfl

/-! ## A small server -/

/-- An identity service that answers the same status for everybody. -/
def sampleExchange (status : Status) : Exchange := fun request =>
  .ok
    { user := initUser request.login
      status := status
      details := []
      authority := "" }

/-- In nanoseconds. -/
def hour : Int := 3600000000000

/-- A server without clients, so that no authorize request is valid, which is
sent two query strings. -/
def sampleServer (exchange : Exchange) (store : MemoryStore) : OidcServer :=
  { issuer := "https://kubauth"
    keyID := "key"
    accessTokenLifespan := hour
    refreshTokenLifespan := 24 * hour
    allowPasswordGrant := true
    postLogoutURL := "/index"
    defaultStyle := "default"
    defaultLoginLabel := ""
    config :=
      { scopeStrategy := fun _ _ => true
        audienceStrategy := fun _ _ => none
        idTokenLifespan := hour }
    ssoMode := .always
    storage := store
    authenticator := httpProvider exchange
    oauth2 :=
      { newRequest := fun _ => none
        newAuthorizeRequest := fun _ => .error "invalid_client"
        newAuthorizeResponse := fun _ _ => none }
    parseQuery := fun text =>
      if text = "" then ([], none)
      else if text = "code=c&state=s" then
        ([("code", ["c"]), ("state", ["s"])], none)
      else ([("client_id", ["app"])], none) }

end Kubauth.Server
