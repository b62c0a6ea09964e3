import Kubauth.Server.Basic

/-!
# The login page

`handleLogin` renders the login page and receives its form.  A browser that
already has an SSO session is logged in by the rendering request itself.
-/

namespace Kubauth.Server

/-- What the SSO session tells about its user.  The session is decoded from
JSON, and the claims are asserted to be an object without a check. -/
inductive SsoUser where
  | absent
  | broken
  | known (login : String) (claims : Claims)

/-- `v`, `u["Login"]` and `u["Claims"]`. -/
def readSsoUser : Option Value → SsoUser
  | some (.map user) =>
      let login := Claims.getString user "Login"
      if login = "" then .absent
      else
        match GoMap.get user "Claims" with
        | some (.map claims) => .known login claims
        | _ => .broken
  | _ => .absent

namespace OidcServer

/-- The authorize response for the user of an SSO session, and whether it was
written.  Every error is swallowed. -/
def resumeSso (server : OidcServer) (now : Int)
    (rawQuery clientId login : String) (claims : Claims) :
    List Effect × Bool :=
  if rawQuery = "" then ([], false)
  else
    match server.oauth2.newRequest ("/oauth2/auth?" ++ rawQuery),
        server.oauth2.newAuthorizeRequest rawQuery with
    | none, .ok request =>
        let user := { login := login, claims := some claims, fullName := "" }
        let granted := request.handleScopes.handleAudience
        let session := server.newSession now (some user) clientId
        match server.oauth2.newAuthorizeResponse granted session with
        | some _ => ([.newAuthorizeResponse granted session], false)
        | none =>
            ([.newAuthorizeResponse granted session,
              .writeAuthorizeResponse], true)
    | _, _ => ([], false)

/-- The `GET` branch of `handleLogin`. -/
def renderLogin (server : OidcServer) (now : Int) (request : HttpRequest)
    (ssoUser : Option Value) : List Effect :=
  let rawQuery := request.rawQuery
  let clientId := (server.query request).first "client_id"
  let page := .displayLogin clientId false
  [.putLogin "authQuery" rawQuery, .putLogin "clientId" clientId] ++
    match readSsoUser ssoUser with
    | .absent => [page]
    | .broken => [.panic "interface conversion"]
    | .known login claims =>
        match server.resumeSso now rawQuery clientId login claims with
        | (effects, true) => effects
        | (effects, false) => effects ++ [page]

/-- In the mode on demand the user decides with a check box. -/
def remembers (server : OidcServer) (request : HttpRequest) : Bool :=
  server.ssoMode = .always ∨
    server.ssoMode = .onDemand ∧ request.postForm.first "remember" = "on"

/-- The `POST` branch of `handleLogin`. -/
def submitLogin (server : OidcServer) (now : Int) (request : HttpRequest)
    (session : LoginSession) : List Effect :=
  match request.parseFormError with
  | some _ => [.httpError "bad request" 400]
  | none =>
      let login := request.postForm.first "login"
      let password := request.postForm.first "password"
      let rawQuery := session.getString "authQuery"
      if rawQuery = "" then
        [.httpError "Session expired. Please restart the login flow." 400]
      else
        -- the raw query of the session takes the place of the request's own
        let clientId := (server.parseQuery rawQuery).1.first "client_id"
        match server.authenticator.authenticate login password with
        | (_, some _) =>
            [.httpError
              ("Internal error on ID provider subsystem. " ++
                "Contact your system administrator") 500]
        | (none, none) => [.displayLogin clientId true]
        | (some user, none) =>
            .renewSsoToken ::
              (if server.remembers request then [.putSsoUser user] else []) ++
              server.answerAuthorize now rawQuery user clientId

/-- `handleLogin`. -/
def handleLogin (server : OidcServer) (now : Int) (request : HttpRequest)
    (session : LoginSession) (ssoUser : Option Value) : List Effect :=
  if request.method = "GET" then server.renderLogin now request ssoUser
  else if request.method = "POST" then server.submitLogin now request session
  else [.httpError "method not allowed" 405]

/-! ## What the login page does -/

theorem mem_resumeSso {server : OidcServer} {now : Int}
    {rawQuery clientId login : String} {claims : Claims} {effect : Effect}
    (member : effect ∈
      (server.resumeSso now rawQuery clientId login claims).1) :
    (∃ granted, effect = .newAuthorizeResponse granted
        (server.newSession now
          (some { login := login, claims := some claims, fullName := "" })
          clientId)) ∨
      effect = .writeAuthorizeResponse := by
  unfold resumeSso at member
  split at member
  · cases member
  · split at member
    · simp only at member
      split at member
      · exact .inl ⟨_, List.mem_singleton.mp member⟩
      · rcases List.mem_pair.mp member with asked | written
        · exact .inl ⟨_, asked⟩
        · exact .inr written
    · cases member

/-- Rendering the page asks for a response only on behalf of the SSO user, and
panics only over the claims of that user. -/
theorem mem_renderLogin {server : OidcServer} {now : Int}
    {request : HttpRequest} {ssoUser : Option Value} {effect : Effect}
    (member : effect ∈ server.renderLogin now request ssoUser) :
    (∃ key value, effect = .putLogin key value) ∨
      (∃ clientId, effect = .displayLogin clientId false) ∨
      (readSsoUser ssoUser = .broken ∧ ∃ reason, effect = .panic reason) ∨
      effect = .writeAuthorizeResponse ∨
      ∃ login claims granted clientId,
        readSsoUser ssoUser = .known login claims ∧
          effect = .newAuthorizeResponse granted
            (server.newSession now
              (some { login := login, claims := some claims, fullName := "" })
              clientId) := by
  rcases List.mem_append.mp member with stored | member
  · rcases List.mem_pair.mp stored with rfl | rfl
    · exact .inl ⟨_, _, rfl⟩
    · exact .inl ⟨_, _, rfl⟩
  split at member
  · exact .inr (.inl ⟨_, List.mem_singleton.mp member⟩)
  · next broken =>
      exact .inr (.inr (.inl ⟨broken, _, List.mem_singleton.mp member⟩))
  · next login claims known =>
      have resumed (there : effect ∈ (server.resumeSso now request.rawQuery
          ((server.query request).first "client_id") login claims).1) :
          effect = .writeAuthorizeResponse ∨
            ∃ login claims granted clientId,
              readSsoUser ssoUser = .known login claims ∧
                effect = .newAuthorizeResponse granted
                  (server.newSession now
                    (some
                      { login := login
                        claims := some claims
                        fullName := "" })
                    clientId) := by
        rcases mem_resumeSso there with ⟨granted, asked⟩ | written
        · exact .inr ⟨login, claims, granted, _, known, asked⟩
        · exact .inl written
      split at member
      · next effects answer =>
          rw [answer] at resumed
          exact .inr (.inr (.inr (resumed member)))
      · next effects answer =>
          rw [answer] at resumed
          rcases List.mem_append.mp member with there | page
          · exact .inr (.inr (.inr (resumed there)))
          · exact .inr (.inl ⟨_, List.mem_singleton.mp page⟩)

/-- Past its errors, submitting the form acts for the user that the
authenticator returns. -/
theorem mem_submitLogin {server : OidcServer} {now : Int}
    {request : HttpRequest} {session : LoginSession} {effect : Effect}
    (member : effect ∈ server.submitLogin now request session) :
    (∃ message status, effect = .httpError message status) ∨
      (∃ clientId, effect = .displayLogin clientId true) ∨
      ∃ user,
        request.parseFormError = none ∧
          session.getString "authQuery" ≠ "" ∧
          server.authenticator.authenticate (request.postForm.first "login")
            (request.postForm.first "password") = (some user, none) ∧
          (effect = .renewSsoToken ∨ effect = .putSsoUser user ∨
            effect ∈ server.answerAuthorize now
              (session.getString "authQuery") user
              ((server.parseQuery (session.getString "authQuery")).1.first
                "client_id")) := by
  unfold submitLogin at member
  split at member
  · exact .inl ⟨_, _, List.mem_singleton.mp member⟩
  next parsed =>
  simp only at member
  split at member
  · exact .inl ⟨_, _, List.mem_singleton.mp member⟩
  next alive =>
  split at member
  · exact .inl ⟨_, _, List.mem_singleton.mp member⟩
  · exact .inr (.inl ⟨_, List.mem_singleton.mp member⟩)
  · next user authenticated =>
      refine .inr (.inr ⟨user, parsed, alive, authenticated, ?_⟩)
      rcases List.mem_append.mp member with stored | answered
      · rcases List.mem_cons.mp stored with renewed | stored
        · exact .inl renewed
        · split at stored
          · exact .inr (.inl (List.mem_singleton.mp stored))
          · cases stored
      · exact .inr (.inr answered)

end OidcServer

end Kubauth.Server
