import Kubauth.Server.Login
import Kubauth.Server.LoginPage
import Kubauth.Server.UpstreamCallback

/-!
# The start of an upstream login

`handleUpstreamGo` sends the browser to the upstream provider that it names
and stores the parameters of the flow in the login session, where the callback
finds them.  The name comes from the browser.  It is looked up among the
registered upstreams, and not compared with what the login page offers.
-/

namespace Kubauth.Server

/-- The keys of the login session that belong to a flow. -/
def flowKeys : List String :=
  [sessUpstreamState, sessUpstreamNonce, sessUpstreamVerifier,
    sessUpstreamPKCE, sessUpstreamProvider]

/-- What a flow draws from the random source and from the OAuth2 library: the
outcomes of the two calls of `randomURLSafeString`, the verifier, and the URL
of the authorization endpoint for a state, a nonce and the verifier that a
challenge is made from. -/
structure FlowSource where
  state : Except String String
  nonce : Except String String
  verifier : String
  authCodeURL : OAuth2AuthCodeSettings → String → String → Option String →
    String

/-- The parameters of a flow.  It has a verifier when the provider supports
PKCE. -/
structure UpstreamFlow where
  provider : String
  settings : OAuth2AuthCodeSettings
  state : String
  nonce : String
  verifier : Option String

namespace UpstreamFlow

/-- The flag of the flow, `"1"` or empty. -/
def pkce (flow : UpstreamFlow) : String :=
  if flow.verifier.isSome then "1" else ""

/-- The writes to the login session, in order. -/
def puts (flow : UpstreamFlow) : List Effect :=
  [.putLogin sessUpstreamState flow.state,
    .putLogin sessUpstreamNonce flow.nonce,
    .putLogin sessUpstreamProvider flow.provider,
    .putLogin sessUpstreamPKCE ""] ++
    match flow.verifier with
    | some verifier =>
        [.putLogin sessUpstreamVerifier verifier,
          .putLogin sessUpstreamPKCE "1"]
    | none => []

theorem mem_puts {flow : UpstreamFlow} {effect : Effect}
    (member : effect ∈ flow.puts) :
    ∃ key ∈ flowKeys, ∃ value, effect = .putLogin key value := by
  unfold puts at member
  cases present : flow.verifier with
  | none =>
      simp only [present, List.append_nil, List.mem_cons, List.not_mem_nil,
        or_false] at member
      rcases member with rfl | rfl | rfl | rfl <;>
        exact ⟨_, by decide, _, rfl⟩
  | some verifier =>
      simp only [present, List.cons_append, List.nil_append, List.mem_cons,
        List.not_mem_nil, or_false] at member
      rcases member with rfl | rfl | rfl | rfl | rfl | rfl <;>
        exact ⟨_, by decide, _, rfl⟩

end UpstreamFlow

namespace OidcServer

/-- Everything that `handleUpstreamGo` does before it writes. -/
def startFlow (server : OidcServer) (source : FlowSource)
    (request : HttpRequest) (session : LoginSession) :
    Except HttpError UpstreamFlow :=
  let name := (server.query request).first "upstreamProvider"
  let rawQuery := session.getString "authQuery"
  if request.method ≠ "GET" then .error ⟨"method not allowed", 405⟩
  else if name = "" then
    .error ⟨"missing upstreamProvider parameter", 400⟩
  else if rawQuery = "" then
    .error
      ⟨"session expired: restart login from the client application", 400⟩
  else
    match server.storage.getUpstream name with
    | none => .error ⟨"unknown upstream provider", 404⟩
    | some upstream =>
        match upstream.oAuth2AuthCodeSettings with
        | none =>
            .error ⟨"upstream does not support external OIDC login", 400⟩
        | some settings =>
            match source.state, source.nonce with
            | .ok state, .ok nonce =>
                .ok
                  { provider := name
                    settings := settings
                    state := state
                    nonce := nonce
                    verifier :=
                      if settings.supportsPKCES256 then some source.verifier
                      else none }
            | _, _ => .error ⟨"internal error", 500⟩

/-- `handleUpstreamGo`. -/
def handleUpstreamGo (server : OidcServer) (source : FlowSource)
    (request : HttpRequest) (session : LoginSession) : List Effect :=
  match server.startFlow source request session with
  | .error failure => [failure.effect]
  | .ok flow =>
      flow.puts ++
        [.redirect (source.authCodeURL flow.settings flow.state flow.nonce
          flow.verifier) 302]

/-! ## When a flow starts, and when a password is accepted -/

theorem startFlow_isOk_iff (server : OidcServer) (source : FlowSource)
    (request : HttpRequest) (session : LoginSession) :
    (∃ flow, server.startFlow source request session = .ok flow) ↔
      request.method = "GET" ∧
        (server.query request).first "upstreamProvider" ≠ "" ∧
        session.getString "authQuery" ≠ "" ∧
        (∃ upstream settings,
          server.storage.getUpstream
              ((server.query request).first "upstreamProvider") =
            some upstream ∧
          upstream.oAuth2AuthCodeSettings = some settings) ∧
        (∃ state, source.state = .ok state) ∧
        ∃ nonce, source.nonce = .ok nonce := by
  unfold startFlow
  by_cases method : request.method = "GET"
  · by_cases named : (server.query request).first "upstreamProvider" = ""
    · simp [method, named]
    · by_cases alive : session.getString "authQuery" = ""
      · simp [method, named, alive]
      · simp only [method, named, alive, ne_eq, not_true_eq_false, if_false,
          not_false_eq_true, true_and]
        cases server.storage.getUpstream
          ((server.query request).first "upstreamProvider") with
        | none => simp
        | some upstream =>
            cases settings : upstream.oAuth2AuthCodeSettings with
            | none => simp [settings]
            | some _ =>
                cases source.state with
                | error failure => simp [settings]
                | ok state => cases source.nonce <;> simp [settings]
  · simp [method]

/-- A browser that reaches `/upstream/go` is redirected when a flow starts, and
gets an error otherwise. -/
theorem handleUpstreamGo_redirects_iff (server : OidcServer)
    (source : FlowSource) (request : HttpRequest) (session : LoginSession) :
    (∃ location, Effect.redirect location 302 ∈
        server.handleUpstreamGo source request session) ↔
      ∃ flow, server.startFlow source request session = .ok flow := by
  unfold handleUpstreamGo
  cases server.startFlow source request session with
  | error failure => simp [HttpError.effect]
  | ok flow =>
      refine iff_of_true ⟨source.authCodeURL flow.settings flow.state
        flow.nonce flow.verifier, ?_⟩ ⟨flow, rfl⟩
      exact List.mem_append_right _ (List.mem_singleton.mpr rfl)

/-- The session is renewed once the authenticator has returned a user, and for
no other reason. -/
theorem submitLogin_renews_iff (server : OidcServer) (now : Int)
    (request : HttpRequest) (session : LoginSession) :
    Effect.renewSsoToken ∈ server.submitLogin now request session ↔
      request.parseFormError = none ∧
        session.getString "authQuery" ≠ "" ∧
        ∃ user,
          server.authenticator.authenticate (request.postForm.first "login")
            (request.postForm.first "password") = (some user, none) := by
  unfold submitLogin
  cases request.parseFormError with
  | some failure => simp
  | none =>
      by_cases alive : session.getString "authQuery" = ""
      · simp [alive]
      · simp only [alive, if_false, ne_eq, not_false_eq_true, true_and]
        obtain ⟨user, failure⟩ := server.authenticator.authenticate
          (request.postForm.first "login") (request.postForm.first "password")
        cases failure with
        | some failure => simp
        | none => cases user <;> simp

/-- The page presents the upstreams that the client lists, or else those that
are not specific to a client, and the login form when one of them is internal
or when no upstream is registered.  None of this is enforced: `/upstream/go`
takes every registered upstream that has an external provider, and the form is
accepted whenever the authenticator returns a user. -/
theorem login_page_presents_only (server : OidcServer)
    (client : KubauthClient) (clientId : String) (invalidLogin : Bool)
    (named : clientId ≠ "")
    (registered :
      server.storage.getKubauthClient clientId = (some client, none)) :
    (∀ shown,
        shown ∈
            (server.loginModel clientId invalidLogin).1.upstreamButtons ↔
          ∃ upstream, server.Presents client upstream ∧
            upstream.spec.type ≠ .internal ∧
            shown = Offer.button upstream) ∧
      ((server.loginModel clientId invalidLogin).1.showLoginForm ↔
        (∃ upstream, server.Presents client upstream ∧
            upstream.spec.type = .internal) ∨
          client.getUpstreamProviders = [] ∧
            server.storage.getUpstreams = []) ∧
      (∀ source request session,
        (∃ location, Effect.redirect location 302 ∈
            server.handleUpstreamGo source request session) ↔
          request.method = "GET" ∧
            (server.query request).first "upstreamProvider" ≠ "" ∧
            session.getString "authQuery" ≠ "" ∧
            (∃ upstream settings,
              server.storage.getUpstream
                  ((server.query request).first "upstreamProvider") =
                some upstream ∧
              upstream.oAuth2AuthCodeSettings = some settings) ∧
            (∃ state, source.state = .ok state) ∧
            ∃ nonce, source.nonce = .ok nonce) ∧
      ∀ now request session ssoUser, request.method = "POST" →
        (Effect.renewSsoToken ∈
            server.handleLogin now request session ssoUser ↔
          request.parseFormError = none ∧
            session.getString "authQuery" ≠ "" ∧
            ∃ user,
              server.authenticator.authenticate
                  (request.postForm.first "login")
                  (request.postForm.first "password") =
                (some user, none)) := by
  obtain ⟨buttons, form⟩ :=
    loginModel_of_client invalidLogin named registered
  obtain ⟨offeredButtons, offeredForm⟩ := server.offer_iff client
  refine ⟨?_, ?_, ?_, ?_⟩
  · intro shown
    rw [buttons]
    exact offeredButtons shown
  · rw [form]
    exact offeredForm
  · intro source request session
    rw [handleUpstreamGo_redirects_iff]
    exact server.startFlow_isOk_iff source request session
  · intro now request session ssoUser posted
    have submitted : server.handleLogin now request session ssoUser =
        server.submitLogin now request session := by
      simp [handleLogin, posted]
    rw [submitted]
    exact server.submitLogin_renews_iff now request session

/-! ## A choice that the page does not offer -/

/-- A client that lists these upstreams. -/
def choosyClient (upstreamProviders : List String) : KubauthClient :=
  { (default : KubauthClient) with
    clientId := "app"
    k8sObject :=
      { (default : OidcClient) with
        spec :=
          { (default : OidcClientSpec) with
            upstreamProviders := upstreamProviders } } }

/-- A server with one client and the upstream `idp`, which is for the clients
that list it.  Every query string is read as the same two parameters. -/
def choosyServer (upstreamProviders : List String) : OidcServer :=
  { sampleServer (sampleExchange Status.passwordChecked)
      { MemoryStore.empty with
        clients := [("app", choosyClient upstreamProviders)]
        upstreams :=
          [("idp",
            { sampleUpstream with
              spec := { sampleUpstream.spec with clientSpecific := true } })] }
    with
    parseQuery := fun _ =>
      ([("client_id", ["app"]), ("upstreamProvider", ["idp"])], none) }

def sampleSource : FlowSource :=
  { state := .ok "s"
    nonce := .ok "n"
    verifier := "v"
    authCodeURL := fun _ _ _ _ => "https://idp/auth" }

theorem login_page_presents_only_choosy :
    ((choosyServer ["idp"]).loginModel "app" false).1.upstreamButtons =
        [⟨"idp", "idp"⟩] ∧
      ∃ upstream,
        (choosyServer ["idp"]).Presents (choosyClient ["idp"]) upstream ∧
          upstream.spec.type ≠ .internal ∧
          ⟨"idp", "idp"⟩ = Offer.button upstream := by
  have presented := (login_page_presents_only (choosyServer ["idp"])
    (choosyClient ["idp"]) "app" false (by decide) rfl).1 ⟨"idp", "idp"⟩
  have shown : ((choosyServer ["idp"]).loginModel "app"
      false).1.upstreamButtons = [⟨"idp", "idp"⟩] := rfl
  refine ⟨shown, presented.mp ?_⟩
  rw [shown]
  exact List.mem_singleton.mpr rfl

/-- A client that lists nothing is not offered `idp`, and one that lists `idp`
is not offered the login form.  Both are accepted. -/
theorem login_page_not_enforced :
    (((choosyServer []).loginModel "app" false).1.upstreamButtons = [] ∧
        (choosyServer []).handleUpstreamGo sampleSource
            { sampleCallback with rawQuery := "upstreamProvider=idp" }
            { sampleSession with values := [("authQuery", "client_id=app")] } =
          [.putLogin sessUpstreamState "s", .putLogin sessUpstreamNonce "n",
            .putLogin sessUpstreamProvider "idp",
            .putLogin sessUpstreamPKCE "",
            .redirect "https://idp/auth" 302]) ∧
      ((choosyServer ["idp"]).loginModel "app" false).1.showLoginForm =
          false ∧
        Effect.renewSsoToken ∈ (choosyServer ["idp"]).handleLogin 0
          { method := "POST"
            rawQuery := ""
            postForm := [("login", ["alice"]), ("password", ["secret"])]
            parseFormError := none }
          { sampleSession with values := [("authQuery", "client_id=app")] }
          none := by
  refine ⟨⟨rfl, rfl⟩, rfl, ?_⟩
  exact List.mem_cons_self

end OidcServer

end Kubauth.Server
