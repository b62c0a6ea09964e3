import Kubauth.Server.Login
import Kubauth.Server.UpstreamGo
import Kubauth.Server.UpstreamWelcome

/-!
# A browser and its sessions

A browser has two sessions on the server: the login session, which carries a
login from one request to the next, and the SSO session, which remembers who
logged in.  They are loaded before a handler runs and stored when it begins
its response.

A history lists the requests of one browser, the latest first.  Everything
around the browser may change from one request to the next, so each request
comes with the server that it meets.
-/

namespace Kubauth.Server

namespace LoginSession

def empty : LoginSession :=
  { values := [], pendingUpstreamUser := none }

def put (session : LoginSession) (key value : String) : LoginSession :=
  { session with values := GoMap.set session.values key value }

def remove (session : LoginSession) (key : String) : LoginSession :=
  { session with values := GoMap.delete session.values key }

@[simp] theorem getString_empty (key : String) :
    empty.getString key = "" := rfl

@[simp] theorem pendingUpstreamUser_empty :
    empty.pendingUpstreamUser = none := rfl

@[simp] theorem getString_put (session : LoginSession)
    (written value key : String) :
    (session.put written value).getString key =
      if written = key then value else session.getString key := by
  simp only [put, getString, GoMap.get_set]
  split <;> rfl

@[simp] theorem getString_remove (session : LoginSession)
    (removed key : String) :
    (session.remove removed).getString key =
      if removed = key then "" else session.getString key := by
  simp only [remove, getString, GoMap.get_delete]
  split <;> rfl

@[simp] theorem pendingUpstreamUser_put (session : LoginSession)
    (key value : String) :
    (session.put key value).pendingUpstreamUser =
      session.pendingUpstreamUser := rfl

@[simp] theorem pendingUpstreamUser_remove (session : LoginSession)
    (key : String) :
    (session.remove key).pendingUpstreamUser =
      session.pendingUpstreamUser := rfl

end LoginSession

/-- The URL in the query comes before that of the client, and this one before
the URL of the server. -/
def OidcServer.getPostLogoutURL (server : OidcServer)
    (request : HttpRequest) : String :=
  let clientId := (server.query request).first "client_id"
  let plo := (server.query request).first "post_logout_redirect_uri"
  if plo ≠ "" then plo
  else if clientId = "" then server.postLogoutURL
  else
    match server.storage.getKubauthClient clientId with
    | (some client, none) =>
        if client.getPostLogoutURL ≠ "" then client.getPostLogoutURL
        else server.postLogoutURL
    | _ => server.postLogoutURL

/-- `handleLogout`.  The client id is kept for the style of the index page. -/
def OidcServer.handleLogout (server : OidcServer) (request : HttpRequest)
    (session : LoginSession) : List Effect :=
  [.destroySso,
    .destroyLogin,
    .putLogin "clientId" (session.getString "clientId"),
    .redirect (server.getPostLogoutURL request) 302]

/-! ## What is stored -/

namespace Effect

/-- The effect writes to the response. -/
def writes : Effect → Bool
  | .httpError _ _ => true
  | .redirect _ _ => true
  | .displayLogin _ _ => true
  | .displayWelcome _ _ => true
  | .writeAuthorizeError _ => true
  | .writeAuthorizeResponse => true
  | .writeAccessError _ => true
  | .writeAccessResponse => true
  | _ => false

def isPanic : Effect → Bool
  | .panic _ => true
  | _ => false

/-- The effect changes the values of a session, or ends the request. -/
def touches : Effect → Bool
  | .panic _ => true
  | .putLogin _ _ => true
  | .removeLogin _ => true
  | .putPendingUpstreamUser _ => true
  | .removePendingUpstreamUser => true
  | .destroyLogin => true
  | .putSsoUser _ => true
  | .destroySso => true
  | _ => false

end Effect

/-- What a handler does before it writes to the response. -/
def beforeWrite : List Effect → List Effect
  | [] => []
  | effect :: effects =>
      if effect.writes then [] else effect :: beforeWrite effects

theorem beforeWrite_idem (effects : List Effect) :
    beforeWrite (beforeWrite effects) = beforeWrite effects := by
  induction effects with
  | nil => rfl
  | cons effect effects induction =>
      cases written : effect.writes with
      | true => simp [beforeWrite, written]
      | false => simp [beforeWrite, written, induction]

theorem beforeWrite_subset (effects : List Effect) :
    beforeWrite effects ⊆ effects := by
  induction effects with
  | nil => exact List.Subset.refl _
  | cons effect effects induction =>
      unfold beforeWrite
      split
      · exact List.nil_subset _
      · exact List.cons_subset_cons effect induction

/-- What it does to the sessions by then. -/
def sessionEffects (effects : List Effect) : List Effect :=
  (beforeWrite effects).filter Effect.touches

theorem sessionEffects_cons (effect : Effect) (effects : List Effect) :
    sessionEffects (effect :: effects) =
      if effect.writes then []
      else if effect.touches then effect :: sessionEffects effects
      else sessionEffects effects := by
  unfold sessionEffects
  cases written : effect.writes with
  | true => simp [beforeWrite, written]
  | false =>
      cases touched : effect.touches <;>
        simp [beforeWrite, written, touched]

theorem sessionEffects_of_untouched {effects : List Effect}
    (untouched : ∀ effect ∈ effects, effect.touches = false) :
    sessionEffects effects = [] := by
  unfold sessionEffects
  rw [List.filter_eq_nil_iff]
  intro effect member
  have kept := untouched effect (beforeWrite_subset effects member)
  simp [kept]

/-- The values of the two sessions.  The SSO user is a decoded document. -/
structure Browser where
  login : LoginSession
  ssoUser : Option Value

namespace Browser

def new : Browser :=
  { login := .empty, ssoUser := none }

def perform (browser : Browser) : Effect → Browser
  | .putLogin key value => { browser with login := browser.login.put key value }
  | .removeLogin key => { browser with login := browser.login.remove key }
  | .putPendingUpstreamUser user =>
      { browser with
        login := { browser.login with pendingUpstreamUser := some user } }
  | .removePendingUpstreamUser =>
      { browser with
        login := { browser.login with pendingUpstreamUser := none } }
  | .destroyLogin => { browser with login := .empty }
  | .putSsoUser user => { browser with ssoUser := some user.decodedValue }
  | .destroySso => { browser with ssoUser := none }
  | _ => browser

/-- A handler that panics stores nothing. -/
def commit (browser : Browser) (effects : List Effect) : Browser :=
  if effects.any Effect.isPanic then browser
  else effects.foldl perform browser

theorem perform_of_untouched {effect : Effect}
    (untouched : effect.touches = false) (browser : Browser) :
    browser.perform effect = browser := by
  cases effect <;> first | rfl | cases untouched

theorem foldl_perform_filter (effects : List Effect) (browser : Browser) :
    (effects.filter Effect.touches).foldl perform browser =
      effects.foldl perform browser := by
  induction effects generalizing browser with
  | nil => rfl
  | cons effect effects induction =>
      cases touched : effect.touches with
      | true => simp [touched, induction]
      | false => simp [touched, induction, perform_of_untouched touched]

end Browser

theorem any_isPanic_filter (effects : List Effect) :
    (effects.filter Effect.touches).any Effect.isPanic =
      effects.any Effect.isPanic := by
  rw [List.any_filter]
  refine congrArg effects.any (funext fun effect => ?_)
  cases effect <;> rfl

/-- The session manager around the handlers, of which the source has the calls
only.  It stores the sessions when the response begins. -/
structure SessionManager where
  store : Browser → List Effect → Browser
  store_beforeWrite : ∀ browser effects,
    store browser effects = store browser (beforeWrite effects)
  store_panic : ∀ browser effects, beforeWrite effects = effects →
    effects.any Effect.isPanic = true → store browser effects = browser
  store_updates : ∀ browser effects, beforeWrite effects = effects →
    effects.any Effect.isPanic = false →
    store browser effects = effects.foldl Browser.perform browser

namespace SessionManager

theorem store_eq (manager : SessionManager) (browser : Browser)
    (effects : List Effect) :
    manager.store browser effects =
      browser.commit (sessionEffects effects) := by
  have quiet := beforeWrite_idem effects
  rw [manager.store_beforeWrite]
  unfold Browser.commit sessionEffects
  rw [any_isPanic_filter, Browser.foldl_perform_filter]
  split
  · next panics => exact manager.store_panic browser _ quiet panics
  · next calm =>
      exact manager.store_updates browser _ quiet
        (Bool.eq_false_of_not_eq_true calm)

/-- The manager that does no more than that. -/
def plain : SessionManager where
  store := fun browser effects => browser.commit (sessionEffects effects)
  store_beforeWrite := by
    intro browser effects
    unfold sessionEffects
    rw [beforeWrite_idem]
  store_panic := by
    intro browser effects quiet panics
    unfold sessionEffects Browser.commit
    rw [quiet, any_isPanic_filter, if_pos panics]
  store_updates := by
    intro browser effects quiet calm
    unfold sessionEffects Browser.commit
    rw [quiet, any_isPanic_filter, calm, Browser.foldl_perform_filter]
    rfl

end SessionManager

/-- The SSO session is an object of the cluster.  It may not be stored, and it
may be gone before the next request. -/
inductive SsoOutcome where
  | stored
  | kept
  | lost
  deriving Repr, DecidableEq

inductive Route where
  | login
  | upstreamGo (source : FlowSource)
  | upstreamCallback (endpoints : UpstreamEndpoints)
  | upstreamWelcome
  | logout

/-- A request of the browser, the server that handles it, and what becomes of
the sessions afterwards. -/
structure Visit where
  server : OidcServer
  now : Int
  request : HttpRequest
  route : Route
  loginExpires : Bool
  ssoOutcome : SsoOutcome
  manager : SessionManager := .plain

namespace Visit

def effects (visit : Visit) (browser : Browser) : List Effect :=
  match visit.route with
  | .login =>
      visit.server.handleLogin visit.now visit.request browser.login
        browser.ssoUser
  | .upstreamGo source =>
      visit.server.handleUpstreamGo source visit.request browser.login
  | .upstreamCallback endpoints =>
      visit.server.handleUpstreamCallback endpoints visit.now visit.request
        browser.login
  | .upstreamWelcome =>
      visit.server.handleUpstreamWelcome visit.now visit.request browser.login
  | .logout => visit.server.handleLogout visit.request browser.login

def sessionEffects (visit : Visit) (browser : Browser) : List Effect :=
  Server.sessionEffects (visit.effects browser)

def next (visit : Visit) (browser : Browser) : Browser :=
  let committed := visit.manager.store browser (visit.effects browser)
  { login := if visit.loginExpires then .empty else committed.login
    ssoUser :=
      match visit.ssoOutcome with
      | .stored => committed.ssoUser
      | .kept => browser.ssoUser
      | .lost => none }

/-- The flow that the request starts. -/
def flow? (visit : Visit) (browser : Browser) : Option UpstreamFlow :=
  match visit.route with
  | .upstreamGo source =>
      (visit.server.startFlow source visit.request browser.login).toOption
  | _ => none

/-- The user that the request authenticates, by a password or by an upstream
login that passes its checks. -/
def authenticated? (visit : Visit) (browser : Browser) : Option OidcUser :=
  match visit.route with
  | .login =>
      let form := visit.request.postForm
      if visit.request.method = "POST" ∧
          visit.request.parseFormError = none ∧
          browser.login.getString "authQuery" ≠ "" then
        match visit.server.authenticator.authenticate (form.first "login")
            (form.first "password") with
        | (user, none) => user
        | (_, some _) => none
      else none
  | .upstreamCallback endpoints =>
      match visit.server.startUpstreamLogin endpoints visit.request
          browser.login with
      | .ok login => some (visit.server.upstreamLoginUser login)
      | .error _ => none
  | _ => none

end Visit

/-- The browser after the requests of a history. -/
def reach : List Visit → Browser
  | [] => .new
  | visit :: past => visit.next (reach past)

theorem Visit.store_effects (visit : Visit) (browser : Browser) :
    visit.manager.store browser (visit.effects browser) =
      browser.commit (visit.sessionEffects browser) :=
  visit.manager.store_eq browser (visit.effects browser)

theorem Visit.next_login (visit : Visit) (browser : Browser) :
    (visit.next browser).login = .empty ∨
      (visit.next browser).login =
        (browser.commit (visit.sessionEffects browser)).login := by
  cases expires : visit.loginExpires <;>
    simp [Visit.next, expires, Visit.store_effects]

/-! ## What each request does to the sessions -/

/-- The end of an upstream flow in the login session. -/
def flowEnd : List Effect :=
  [.removeLogin sessUpstreamState,
    .removeLogin sessUpstreamNonce,
    .removeLogin sessUpstreamVerifier,
    .removeLogin sessUpstreamPKCE,
    .removeLogin sessUpstreamProvider]

/-- What an accepted callback does with its user. -/
def keepUser (mode : SsoMode) (user : OidcUser) : List Effect :=
  match mode with
  | .always => [.putSsoUser user]
  | .onDemand => [.putPendingUpstreamUser user]
  | .never => []

/-- `Acts visit browser effects`: the effects on the sessions, and how the
request came to have them. -/
inductive Acts (visit : Visit) (browser : Browser) : List Effect → Prop where
  | idle : visit.flow? browser = none → Acts visit browser []
  | rendered :
      visit.route = .login → visit.request.method = "GET" →
      Acts visit browser
        [.putLogin "authQuery" visit.request.rawQuery,
          .putLogin "clientId"
            ((visit.server.query visit.request).first "client_id")]
  | panicked {reason : String} :
      visit.route = .login →
      Acts visit browser
        [.putLogin "authQuery" visit.request.rawQuery,
          .putLogin "clientId"
            ((visit.server.query visit.request).first "client_id"),
          .panic reason]
  | remembered {user : OidcUser} :
      visit.route = .login → visit.request.method = "POST" →
      visit.authenticated? browser = some user →
      visit.server.remembers visit.request = true →
      Acts visit browser [.putSsoUser user]
  | started {flow : UpstreamFlow} :
      visit.flow? browser = some flow → Acts visit browser flow.puts
  | accepted {endpoints : UpstreamEndpoints} {login : UpstreamLogin} :
      visit.route = .upstreamCallback endpoints →
      visit.server.startUpstreamLogin endpoints visit.request
        browser.login = .ok login →
      Acts visit browser
        (flowEnd ++ keepUser visit.server.ssoMode
          (visit.server.upstreamLoginUser login))
  | confirmed {user : OidcUser} :
      visit.route = .upstreamWelcome → visit.request.method = "POST" →
      visit.server.ssoMode = .onDemand →
      loadPendingUpstreamUser browser.login = some user →
      Acts visit browser
        (.removePendingUpstreamUser ::
          if visit.request.postForm.first "remember" = "on" then
            [.putSsoUser user]
          else [])
  | loggedOut :
      visit.route = .logout →
      Acts visit browser
        [.destroySso, .destroyLogin,
          .putLogin "clientId" (browser.login.getString "clientId")]

theorem sessionEffects_append {first second : List Effect}
    (untouched : ∀ effect ∈ second, effect.touches = false) :
    sessionEffects (first ++ second) = sessionEffects first := by
  induction first with
  | nil => exact sessionEffects_of_untouched untouched
  | cons effect first induction =>
      rw [List.cons_append, sessionEffects_cons, sessionEffects_cons,
        induction]

theorem OidcServer.answerAuthorize_untouched (server : OidcServer)
    (now : Int) (rawQuery : String) (user : OidcUser) (clientId : String) :
    ∀ effect ∈ server.answerAuthorize now rawQuery user clientId,
      effect.touches = false := by
  intro effect member
  rcases OidcServer.mem_answerAuthorize member with
    ⟨granted, rfl⟩ | rfl | ⟨failure, rfl⟩ | rfl <;> rfl

theorem OidcServer.completeUpstreamAuthorize_untouched (server : OidcServer)
    (now : Int) (rawQuery : String) (user : OidcUser) :
    ∀ effect ∈ server.completeUpstreamAuthorize now rawQuery user,
      effect.touches = false := by
  intro effect member
  rcases List.mem_cons.mp member with rfl | member
  · rfl
  · exact server.answerAuthorize_untouched now rawQuery user _ effect member

theorem OidcServer.resumeSso_untouched (server : OidcServer) (now : Int)
    (rawQuery clientId login : String) (claims : Claims) :
    ∀ effect ∈ (server.resumeSso now rawQuery clientId login claims).1,
      effect.touches = false := by
  intro effect member
  rcases OidcServer.mem_resumeSso member with ⟨granted, rfl⟩ | rfl <;> rfl

theorem acts_renderLogin {visit : Visit} {browser : Browser}
    (route : visit.route = .login) (get : visit.request.method = "GET") :
    Acts visit browser (sessionEffects (visit.server.renderLogin visit.now
      visit.request browser.ssoUser)) := by
  unfold OidcServer.renderLogin
  simp only
  split
  · rw [sessionEffects_append (by simp [Effect.touches])]
    exact .rendered route get
  · exact .panicked route
  · next login claims _ =>
      have untouched := visit.server.resumeSso_untouched visit.now
        visit.request.rawQuery
        ((visit.server.query visit.request).first "client_id") login claims
      split
      · next effects resumed =>
          rw [resumed] at untouched
          rw [sessionEffects_append untouched]
          exact .rendered route get
      · next effects resumed =>
          rw [resumed] at untouched
          rw [← List.append_assoc,
            sessionEffects_append (by simp [Effect.touches]),
            sessionEffects_append untouched]
          exact .rendered route get

theorem acts_submitLogin {visit : Visit} {browser : Browser}
    (route : visit.route = .login) (post : visit.request.method = "POST") :
    Acts visit browser (sessionEffects (visit.server.submitLogin visit.now
      visit.request browser.login)) := by
  have idle : visit.flow? browser = none := by simp [Visit.flow?, route]
  unfold OidcServer.submitLogin
  cases parsed : visit.request.parseFormError with
  | some failure => exact .idle idle
  | none =>
      by_cases alive : browser.login.getString "authQuery" = ""
      · simp only [alive, if_true]
        exact .idle idle
      · simp only [alive, if_false]
        split
        · exact .idle idle
        · exact .idle idle
        · next user returned =>
            have authenticated : visit.authenticated? browser = some user := by
              simp [Visit.authenticated?, route, post, parsed, alive, returned]
            rw [sessionEffects_append (visit.server.answerAuthorize_untouched
              visit.now _ user _)]
            cases remembers : visit.server.remembers visit.request with
            | true => exact .remembered route post authenticated remembers
            | false => exact .idle idle

theorem acts_handleUpstreamGo {visit : Visit} {browser : Browser}
    {source : FlowSource} (route : visit.route = .upstreamGo source) :
    Acts visit browser (sessionEffects (visit.server.handleUpstreamGo source
      visit.request browser.login)) := by
  unfold OidcServer.handleUpstreamGo
  cases started : visit.server.startFlow source visit.request
      browser.login with
  | error failure =>
      refine .idle ?_
      simp [Visit.flow?, route, started, Except.toOption]
  | ok flow =>
      have drawn : visit.flow? browser = some flow := by
        simp [Visit.flow?, route, started, Except.toOption]
      have stored : sessionEffects flow.puts = flow.puts := by
        unfold UpstreamFlow.puts
        cases flow.verifier <;> rfl
      rw [sessionEffects_append (by simp [Effect.touches])]
      rw [stored]
      exact .started drawn

theorem sessionEffects_finishUpstreamLogin (server : OidcServer) (now : Int)
    (rawQuery : String) (user : OidcUser) :
    sessionEffects (server.finishUpstreamLogin now rawQuery user) =
      flowEnd ++ keepUser server.ssoMode user := by
  have untouched :=
    server.completeUpstreamAuthorize_untouched now rawQuery user
  unfold OidcServer.finishUpstreamLogin
  cases server.ssoMode with
  | onDemand => rfl
  | always =>
      rw [← List.singleton_append (x := Effect.putSsoUser user)]
      rw [← List.append_assoc, sessionEffects_append untouched]
      rfl
  | never =>
      rw [sessionEffects_append untouched]
      rfl

theorem acts_handleUpstreamCallback {visit : Visit} {browser : Browser}
    {endpoints : UpstreamEndpoints}
    (route : visit.route = .upstreamCallback endpoints) :
    Acts visit browser (sessionEffects (visit.server.handleUpstreamCallback
      endpoints visit.now visit.request browser.login)) := by
  have idle : visit.flow? browser = none := by simp [Visit.flow?, route]
  unfold OidcServer.handleUpstreamCallback
  cases started : visit.server.startUpstreamLogin endpoints visit.request
      browser.login with
  | error failure => exact .idle idle
  | ok login =>
      simp only
      cases late : visit.server.lateErrors login with
      | nil =>
          rw [List.nil_append, sessionEffects_finishUpstreamLogin]
          exact .accepted route started
      | cons failure rest =>
          -- the error is the first write, and the rest comes too late
          obtain ⟨message, status, rfl⟩ :=
            (visit.server.lateErrors_isHttpError login failure
              (by rw [late]; exact List.mem_cons_self)).exists_eq
          exact .idle idle

theorem acts_handleUpstreamWelcome {visit : Visit} {browser : Browser}
    (route : visit.route = .upstreamWelcome) :
    Acts visit browser (sessionEffects (visit.server.handleUpstreamWelcome
      visit.now visit.request browser.login)) := by
  have idle : visit.flow? browser = none := by simp [Visit.flow?, route]
  rcases visit.server.handleUpstreamWelcome_cases visit.now visit.request
      browser.login with
    ⟨message, status, answer⟩ | ⟨userName, style, answer⟩ |
      ⟨user, mode, post, loaded, answer⟩
  · rw [answer]
    exact .idle idle
  · rw [answer]
    exact .idle idle
  · have acted := Acts.confirmed route post mode loaded
    rw [answer, sessionEffects_append
      (visit.server.completeUpstreamAuthorize_untouched visit.now _ user)]
    revert acted
    split <;> exact id

theorem Visit.acts (visit : Visit) (browser : Browser) :
    Acts visit browser (visit.sessionEffects browser) := by
  unfold Visit.sessionEffects Visit.effects
  cases route : visit.route with
  | login =>
      simp only [OidcServer.handleLogin]
      by_cases get : visit.request.method = "GET"
      · rw [if_pos get]
        exact acts_renderLogin route get
      · by_cases post : visit.request.method = "POST"
        · rw [if_neg get, if_pos post]
          exact acts_submitLogin route post
        · rw [if_neg get, if_neg post]
          exact .idle (by simp [Visit.flow?, route])
  | upstreamGo source => exact acts_handleUpstreamGo route
  | upstreamCallback endpoints => exact acts_handleUpstreamCallback route
  | upstreamWelcome => exact acts_handleUpstreamWelcome route
  | logout => exact .loggedOut route

/-! ## On whose behalf a response is asked for -/

/-- The effect resumes an authorize request or asks for its response. -/
def Effect.responds : Effect → Bool
  | .completeUpstreamAuthorize _ _ => true
  | .newAuthorizeResponse _ _ => true
  | _ => false

/-- `Responds visit browser effect`: how a request comes to respond to an
authorize request. -/
inductive Responds (visit : Visit) (browser : Browser) : Effect → Prop where
  | sso {login : String} {claims : Claims} {granted : Requester}
      {clientId : String} :
      visit.authenticated? browser = none →
      readSsoUser browser.ssoUser = .known login claims →
      Responds visit browser
        (.newAuthorizeResponse granted
          (visit.server.newSession visit.now
            (some { login := login, claims := some claims, fullName := "" })
            clientId))
  | password {user : OidcUser} {rawQuery clientId : String}
      {effect : Effect} :
      visit.authenticated? browser = some user →
      effect ∈ visit.server.answerAuthorize visit.now rawQuery user
        clientId →
      Responds visit browser effect
  | upstream {endpoints : UpstreamEndpoints} {login : UpstreamLogin}
      {effect : Effect} :
      visit.route = .upstreamCallback endpoints →
      visit.server.startUpstreamLogin endpoints visit.request
        browser.login = .ok login →
      effect ∈ visit.server.completeUpstreamAuthorize visit.now
        login.rawQuery (visit.server.upstreamLoginUser login) →
      Responds visit browser effect
  | confirmation {user : OidcUser} {effect : Effect} :
      visit.route = .upstreamWelcome →
      loadPendingUpstreamUser browser.login = some user →
      effect ∈ visit.server.completeUpstreamAuthorize visit.now
        (browser.login.getString "authQuery") user →
      Responds visit browser effect

theorem responds_handleLogin {visit : Visit} {browser : Browser}
    {effect : Effect} (route : visit.route = .login)
    (member : effect ∈ visit.server.handleLogin visit.now visit.request
      browser.login browser.ssoUser)
    (responding : effect.responds = true) : Responds visit browser effect := by
  unfold OidcServer.handleLogin at member
  split at member
  · next get =>
      rcases OidcServer.mem_renderLogin member with
        ⟨key, value, rfl⟩ | ⟨clientId, rfl⟩ | ⟨-, reason, rfl⟩ | rfl |
          ⟨login, claims, granted, clientId, known, rfl⟩
      case inr.inr.inr.inr =>
        exact .sso (by simp [Visit.authenticated?, route, get]) known
      all_goals cases responding
  · split at member
    · next post =>
        rcases OidcServer.mem_submitLogin member with
          ⟨message, status, rfl⟩ | ⟨clientId, rfl⟩ |
            ⟨user, parsed, alive, returned, rfl | rfl | answered⟩
        case inr.inr.inr.inr =>
          refine .password ?_ answered
          simp [Visit.authenticated?, route, post, parsed, alive, returned]
        all_goals cases responding
    · rw [List.mem_singleton.mp member] at responding
      cases responding

theorem responds_handleUpstreamCallback {visit : Visit} {browser : Browser}
    {endpoints : UpstreamEndpoints} {effect : Effect}
    (route : visit.route = .upstreamCallback endpoints)
    (member : effect ∈ visit.server.handleUpstreamCallback endpoints visit.now
      visit.request browser.login)
    (responding : effect.responds = true) : Responds visit browser effect := by
  unfold OidcServer.handleUpstreamCallback at member
  split at member
  · rw [List.mem_singleton.mp member] at responding
    cases responding
  · next login started =>
      rcases List.mem_append.mp member with late | finished
      · obtain ⟨message, status, rfl⟩ :=
          (visit.server.lateErrors_isHttpError login effect late).exists_eq
        cases responding
      · rcases OidcServer.mem_finishUpstreamLogin finished with
          rfl | ⟨key, rfl⟩ | rfl | rfl | rfl | completed
        case inr.inr.inr.inr.inr => exact .upstream route started completed
        all_goals cases responding

theorem responds_handleUpstreamWelcome {visit : Visit} {browser : Browser}
    {effect : Effect} (route : visit.route = .upstreamWelcome)
    (member : effect ∈ visit.server.handleUpstreamWelcome visit.now
      visit.request browser.login)
    (responding : effect.responds = true) : Responds visit browser effect := by
  rcases visit.server.handleUpstreamWelcome_cases visit.now visit.request
      browser.login with
    ⟨message, status, answer⟩ | ⟨userName, style, answer⟩ |
      ⟨user, -, -, loaded, answer⟩
  · rw [answer, List.mem_singleton] at member
    rw [member] at responding
    cases responding
  · rw [answer, List.mem_singleton] at member
    rw [member] at responding
    cases responding
  · rw [answer] at member
    rcases List.mem_append.mp member with stored | completed
    · rcases List.mem_cons.mp stored with rfl | stored
      · cases responding
      · split at stored
        · rw [List.mem_singleton.mp stored] at responding
          cases responding
        · cases stored
    · exact .confirmation route loaded completed

theorem Visit.responds {visit : Visit} {browser : Browser} {effect : Effect}
    (member : effect ∈ visit.effects browser)
    (responding : effect.responds = true) : Responds visit browser effect := by
  unfold Visit.effects at member
  cases route : visit.route with
  | login =>
      simp only [route] at member
      exact responds_handleLogin route member responding
  | upstreamGo source =>
      simp only [route, OidcServer.handleUpstreamGo] at member
      split at member
      · rw [List.mem_singleton.mp member] at responding
        cases responding
      · rcases List.mem_append.mp member with stored | redirected
        · obtain ⟨key, -, value, rfl⟩ := UpstreamFlow.mem_puts stored
          cases responding
        · rw [List.mem_singleton.mp redirected] at responding
          cases responding
  | upstreamCallback endpoints =>
      simp only [route] at member
      exact responds_handleUpstreamCallback route member responding
  | upstreamWelcome =>
      simp only [route] at member
      exact responds_handleUpstreamWelcome route member responding
  | logout =>
      simp only [route, OidcServer.handleLogout, List.mem_cons,
        List.not_mem_nil, or_false] at member
      rcases member with rfl | rfl | rfl | rfl <;> cases responding

/-! ## A small browser -/

/-- A server with the upstream `idp`, which is sent the query of a callback
and any other query. -/
def flowServer (mode : SsoMode) : OidcServer :=
  { OidcServer.choosyServer ["idp"] with
    ssoMode := mode
    parseQuery := fun text =>
      if text = "code=c&state=s" then
        ([("code", ["c"]), ("state", ["s"])], none)
      else ([("client_id", ["app"]), ("upstreamProvider", ["idp"])], none) }

/-- A `GET` request whose sessions are kept. -/
def sampleVisit (mode : SsoMode) (route : Route) (rawQuery : String) : Visit :=
  { server := flowServer mode
    now := 0
    request := { OidcServer.sampleCallback with rawQuery := rawQuery }
    route := route
    loginExpires := false
    ssoOutcome := .stored }

def samplePost (mode : SsoMode) (route : Route) (postForm : Values) : Visit :=
  { sampleVisit mode route "" with
    request :=
      { method := "POST"
        rawQuery := ""
        postForm := postForm
        parseFormError := none } }

/-- The login page, and its form. -/
def sampleLogin (mode : SsoMode) : List Visit :=
  [samplePost mode .login
      [("login", ["alice"]), ("password", ["secret"]), ("remember", ["on"])],
    sampleVisit mode .login "client_id=app"]

end Kubauth.Server
