import Kubauth.Server.Browser
import Kubauth.Server.UpstreamPrincipal

/-!
# The parameters of upstream flows

A flow is started by `/upstream/go`, which stores its parameters under five
keys of the login session, and is ended by the callback that it leads to.  The
login session has room for one flow.  This module follows the keys through the
histories of a browser: a callback that passes the state check finds the
parameters of the flow that its state was drawn for, and does so once.
-/

namespace Kubauth.Server

/-! ## The state check -/

/-- The request gets past the state check of the callback. -/
def OidcServer.PassesStateCheck (server : OidcServer) (request : HttpRequest)
    (session : LoginSession) (state : String) : Prop :=
  request.method = "GET" ∧
    (server.query request).first "error" = "" ∧
    (server.query request).first "code" ≠ "" ∧
    (server.query request).first "state" = state ∧
    state ≠ "" ∧
    session.getString sessUpstreamState = state

/-- The errors of the callback up to the state check. -/
def stateCheckErrors : List HttpError :=
  [⟨"method not allowed", 405⟩, ⟨"upstream login failed", 400⟩,
    ⟨"missing code or state", 400⟩, ⟨"invalid state", 400⟩]

/-- The check is passed exactly when none of these errors is written. -/
theorem OidcServer.passesStateCheck_iff (server : OidcServer)
    (request : HttpRequest) (session : LoginSession) :
    (∃ state, server.PassesStateCheck request session state) ↔
      ∀ failure ∈ stateCheckErrors,
        server.callbackUpstream request session ≠ .error failure := by
  unfold OidcServer.PassesStateCheck OidcServer.callbackUpstream
    stateCheckErrors
  by_cases method : request.method = "GET"
  · by_cases refused : (server.query request).first "error" = ""
    · by_cases code : (server.query request).first "code" = ""
      · simp [method, refused, code]
      · by_cases state : (server.query request).first "state" = ""
        · simp [method, refused, code, state]
        · by_cases wanted : session.getString sessUpstreamState =
              (server.query request).first "state"
          · refine iff_of_true
              ⟨_, method, refused, code, rfl, state, wanted⟩ ?_
            -- what can go wrong later has other messages
            simp only [method, refused, code, state, wanted, ne_eq,
              not_true_eq_false, if_false, or_self]
            intro failure member answer
            split at answer
            · cases answer
              simp at member
            · split at answer
              · cases answer
                simp at member
              · split at answer <;> cases answer
                simp at member
          · simp [method, refused, code, state, wanted]
    · simp [method, refused]
  · simp [method]

theorem OidcServer.callbackUpstream_ok_passes {server : OidcServer}
    {request : HttpRequest} {session : LoginSession}
    {found : Upstream × OAuth2AuthCodeSettings}
    (accepted : server.callbackUpstream request session = .ok found) :
    server.PassesStateCheck request session
      ((server.query request).first "state") := by
  have passes : ∃ state, server.PassesStateCheck request session state := by
    rw [OidcServer.passesStateCheck_iff]
    intro failure _ answer
    rw [accepted] at answer
    cases answer
  obtain ⟨state, method, refused, code, rfl, nonempty, wanted⟩ := passes
  exact ⟨method, refused, code, rfl, nonempty, wanted⟩

theorem OidcServer.startUpstreamLogin_passes {server : OidcServer}
    {endpoints : UpstreamEndpoints} {request : HttpRequest}
    {session : LoginSession} {login : UpstreamLogin}
    (started : server.startUpstreamLogin endpoints request session =
      .ok login) :
    server.PassesStateCheck request session
      ((server.query request).first "state") := by
  obtain ⟨settings, token, idClaims, accepted, -⟩ :=
    OidcServer.startUpstreamLogin_ok started
  exact OidcServer.callbackUpstream_ok_passes accepted

theorem OidcServer.startFlow_state {server : OidcServer}
    {source : FlowSource} {request : HttpRequest} {session : LoginSession}
    {flow : UpstreamFlow}
    (started : server.startFlow source request session = .ok flow) :
    source.state = .ok flow.state := by
  simp only [OidcServer.startFlow] at started
  split_ifs at started
  split at started
  · cases started
  · split at started
    · cases started
    · split at started
      · next drawn _ =>
          cases started
          exact drawn
      · cases started

namespace Visit

/-- The request is a callback that passes the state check with `state`. -/
def Passes (visit : Visit) (browser : Browser) (state : String) : Prop :=
  (∃ endpoints, visit.route = .upstreamCallback endpoints) ∧
    visit.server.PassesStateCheck visit.request browser.login state

/-- The state that the request draws, whether or not it comes to use. -/
def drawnState? (visit : Visit) : Option String :=
  match visit.route with
  | .upstreamGo source => source.state.toOption
  | _ => none

theorem drawnState?_of_flow? {visit : Visit} {browser : Browser}
    {flow : UpstreamFlow} (started : visit.flow? browser = some flow) :
    visit.drawnState? = some flow.state := by
  unfold flow? at started
  unfold drawnState?
  cases route : visit.route with
  | upstreamGo source =>
      simp only [route] at started ⊢
      cases begun : visit.server.startFlow source visit.request
          browser.login with
      | error failure =>
          rw [begun] at started
          cases started
      | ok built =>
          rw [begun] at started
          obtain rfl : built = flow := Option.some.inj started
          rw [OidcServer.startFlow_state begun]
          rfl
  | _ => simp [route] at started

end Visit

/-- The states that are drawn are all different. -/
def FreshStates (history : List Visit) : Prop :=
  (history.filterMap Visit.drawnState?).Nodup

/-- The flow that a state was drawn for, with the login session that
`handleUpstreamGo` found. -/
def generated (state : String) : List Visit → Option (UpstreamFlow × LoginSession)
  | [] => none
  | visit :: past =>
      match visit.flow? (reach past) with
      | some flow =>
          if flow.state = state then some (flow, (reach past).login)
          else generated state past
      | none => generated state past

theorem mem_drawn_cons {state : String} {past : List Visit} (visit : Visit)
    (member : state ∈ past.filterMap Visit.drawnState?) :
    state ∈ (visit :: past).filterMap Visit.drawnState? :=
  ((List.sublist_cons_self visit past).filterMap _).mem member

theorem mem_drawn_of_flow? {visit : Visit} {browser : Browser}
    {flow : UpstreamFlow} (past : List Visit)
    (started : visit.flow? browser = some flow) :
    flow.state ∈ (visit :: past).filterMap Visit.drawnState? := by
  rw [List.mem_filterMap]
  exact ⟨visit, List.mem_cons_self, Visit.drawnState?_of_flow? started⟩

theorem mem_drawn_of_generated {state : String} {history : List Visit}
    {start : UpstreamFlow × LoginSession}
    (drawn : generated state history = some start) :
    state ∈ history.filterMap Visit.drawnState? := by
  induction history with
  | nil => cases drawn
  | cons visit past induction =>
      have earlier : generated state past = some start →
          state ∈ (visit :: past).filterMap Visit.drawnState? := by
        intro found
        exact mem_drawn_cons visit (induction found)
      unfold generated at drawn
      split at drawn
      · next flow started =>
          split at drawn
          · next same =>
              rw [← same]
              exact mem_drawn_of_flow? past started
          · exact earlier drawn
      · exact earlier drawn

/-! ## The keys of a flow -/

/-- The session holds the parameters of the flow. -/
structure UpstreamFlow.HeldBy (flow : UpstreamFlow) (session : LoginSession) :
    Prop where
  state : session.getString sessUpstreamState = flow.state
  nonce : session.getString sessUpstreamNonce = flow.nonce
  provider : session.getString sessUpstreamProvider = flow.provider
  pkce : session.getString sessUpstreamPKCE = flow.pkce
  verifier : ∀ verifier, flow.verifier = some verifier →
    session.getString sessUpstreamVerifier = verifier

theorem UpstreamFlow.HeldBy.of_same {flow : UpstreamFlow}
    {before after : LoginSession} (held : flow.HeldBy before)
    (same : ∀ key ∈ flowKeys,
      after.getString key = before.getString key) : flow.HeldBy after where
  state := (same _ (by decide)).trans held.state
  nonce := (same _ (by decide)).trans held.nonce
  provider := (same _ (by decide)).trans held.provider
  pkce := (same _ (by decide)).trans held.pkce
  verifier := by
    intro verifier present
    exact (same _ (by decide)).trans (held.verifier verifier present)

namespace Effect

/-- The effect may change what the login session holds under the key. -/
def changesKey (key : String) : Effect → Bool
  | .putLogin written _ => written = key
  | .removeLogin removed => removed = key
  | .destroyLogin => true
  | _ => false

end Effect

namespace Browser

theorem getString_perform {effect : Effect} {key : String}
    (other : effect.changesKey key = false) (browser : Browser) :
    (browser.perform effect).login.getString key =
      browser.login.getString key := by
  cases effect with
  | putLogin written value =>
      have different : written ≠ key := by
        simpa [Effect.changesKey] using other
      simp [perform, different]
  | removeLogin removed =>
      have different : removed ≠ key := by
        simpa [Effect.changesKey] using other
      simp [perform, different]
  | destroyLogin => cases other
  | _ => rfl

theorem getString_commit {effects : List Effect} {key : String}
    (others : ∀ effect ∈ effects, effect.changesKey key = false)
    (browser : Browser) :
    (browser.commit effects).login.getString key =
      browser.login.getString key := by
  have performed : (effects.foldl perform browser).login.getString key =
      browser.login.getString key := by
    induction effects generalizing browser with
    | nil => rfl
    | cons effect effects induction =>
        rw [List.foldl_cons, induction fun later member =>
          others later (List.mem_cons_of_mem effect member)]
        exact getString_perform (others effect List.mem_cons_self) browser
  unfold commit
  split
  · rfl
  · exact performed

end Browser

theorem UpstreamFlow.heldBy_commit_puts (flow : UpstreamFlow)
    (browser : Browser) :
    flow.HeldBy (browser.commit flow.puts).login := by
  unfold UpstreamFlow.puts
  cases present : flow.verifier with
  | none =>
      constructor <;>
        simp [Browser.commit, Browser.perform, Effect.isPanic, present,
          UpstreamFlow.pkce, sessUpstreamState, sessUpstreamNonce,
          sessUpstreamProvider, sessUpstreamPKCE]
  | some verifier =>
      constructor <;>
        simp [Browser.commit, Browser.perform, Effect.isPanic, present,
          UpstreamFlow.pkce, sessUpstreamState, sessUpstreamNonce,
          sessUpstreamProvider, sessUpstreamPKCE, sessUpstreamVerifier]

theorem Browser.commit_flowEnd_state (browser : Browser) (mode : SsoMode)
    (user : OidcUser) :
    (browser.commit (flowEnd ++ keepUser mode user)).login.getString
      sessUpstreamState = "" := by
  cases mode <;>
    simp [flowEnd, keepUser, Browser.commit, Browser.perform, Effect.isPanic,
      LoginSession.getString, LoginSession.remove, GoMap.get_delete,
      sessUpstreamState, sessUpstreamNonce, sessUpstreamVerifier,
      sessUpstreamPKCE, sessUpstreamProvider]

/-- A request leaves no flow behind, or the flow that was there, or the flow
that it starts. -/
theorem Visit.next_flow_cases (visit : Visit) (browser : Browser) :
    (visit.next browser).login.getString sessUpstreamState = "" ∨
      (visit.flow? browser = none ∧
        ∀ key ∈ flowKeys, (visit.next browser).login.getString key =
          browser.login.getString key) ∨
      ∃ flow, visit.flow? browser = some flow ∧
        flow.HeldBy (visit.next browser).login := by
  rcases visit.next_login browser with expired | stored
  · rw [expired]
    exact .inl rfl
  rw [stored]
  have acts := visit.acts browser
  generalize visit.sessionEffects browser = effects at acts ⊢
  have unchanged (idle : visit.flow? browser = none)
      (others : ∀ key ∈ flowKeys, ∀ effect ∈ effects,
        effect.changesKey key = false) :
      visit.flow? browser = none ∧
        ∀ key ∈ flowKeys, (browser.commit effects).login.getString key =
          browser.login.getString key := by
    refine ⟨idle, fun key member => ?_⟩
    exact Browser.getString_commit (others key member) browser
  cases acts with
  | idle idle => exact .inr (.inl (unchanged idle (by simp)))
  | rendered route get =>
      refine .inr (.inl (unchanged (by simp [Visit.flow?, route]) ?_))
      simp [flowKeys, Effect.changesKey, sessUpstreamState,
        sessUpstreamNonce, sessUpstreamVerifier, sessUpstreamPKCE,
        sessUpstreamProvider]
  | panicked route =>
      refine .inr (.inl ⟨by simp [Visit.flow?, route], fun key _ => ?_⟩)
      simp [Browser.commit, Effect.isPanic]
  | remembered route post authenticated remembers =>
      refine .inr (.inl (unchanged (by simp [Visit.flow?, route]) ?_))
      simp [Effect.changesKey]
  | @started flow started =>
      exact .inr (.inr ⟨flow, started, flow.heldBy_commit_puts browser⟩)
  | accepted route started => exact .inl (Browser.commit_flowEnd_state _ _ _)
  | confirmed route post mode loaded =>
      refine .inr (.inl (unchanged (by simp [Visit.flow?, route]) ?_))
      split <;> simp [Effect.changesKey]
  | loggedOut route => exact .inl rfl

/-! ## Along a history -/

/-- A state in the session was drawn for the flow whose parameters are
there. -/
theorem generated_of_reach (history : List Visit)
    (present : (reach history).login.getString sessUpstreamState ≠ "") :
    ∃ flow session,
      generated ((reach history).login.getString sessUpstreamState)
          history = some (flow, session) ∧
        flow.HeldBy (reach history).login := by
  induction history with
  | nil => exact absurd rfl present
  | cons visit past induction =>
      rcases visit.next_flow_cases (reach past) with
        ended | ⟨idle, same⟩ | ⟨flow, started, held⟩
      · exact absurd ended present
      · have kept : (reach (visit :: past)).login.getString
            sessUpstreamState =
              (reach past).login.getString sessUpstreamState :=
          same _ (by decide)
        rw [kept] at present ⊢
        obtain ⟨flow, session, drawn, held⟩ := induction present
        refine ⟨flow, session, ?_, held.of_same same⟩
        simpa [generated, idle] using drawn
      · refine ⟨flow, (reach past).login, ?_, held⟩
        have now : (reach (visit :: past)).login.getString
            sessUpstreamState = flow.state := held.state
        rw [now]
        simp [generated, started]

/-- A state that has left the session and is not drawn again does not come
back. -/
theorem state_stays_away {state : String} {earlier later : List Visit}
    (nonempty : state ≠ "")
    (gone : (reach earlier).login.getString sessUpstreamState ≠ state)
    (notAgain : state ∉ later.filterMap Visit.drawnState?) :
    (reach (later ++ earlier)).login.getString sessUpstreamState ≠ state := by
  induction later with
  | nil => exact gone
  | cons visit later induction =>
      have before := induction fun member =>
        notAgain (mem_drawn_cons visit member)
      rcases visit.next_flow_cases (reach (later ++ earlier)) with
        ended | ⟨-, same⟩ | ⟨flow, started, held⟩
      · intro back
        exact nonempty (back.symm.trans ended)
      · intro back
        exact before ((same _ (by decide)).symm.trans back)
      · intro back
        apply notAgain
        rw [← back, List.cons_append]
        exact held.state ▸ mem_drawn_of_flow? later started

theorem Visit.next_state_of_quiet {visit : Visit} {browser : Browser}
    {endpoints : UpstreamEndpoints}
    (route : visit.route = .upstreamCallback endpoints)
    (quiet : ∀ effect ∈ visit.effects browser, ¬effect.IsHttpError) :
    (visit.next browser).login.getString sessUpstreamState = "" := by
  rcases visit.next_login browser with expired | stored
  · rw [expired]
    rfl
  rw [stored]
  unfold Visit.sessionEffects
  unfold Visit.effects at quiet ⊢
  simp only [route, OidcServer.handleUpstreamCallback] at quiet ⊢
  cases started : visit.server.startUpstreamLogin endpoints visit.request
      browser.login with
  | error failure =>
      simp only [started] at quiet
      exact absurd trivial (quiet failure.effect List.mem_cons_self)
  | ok login =>
      simp only [started] at quiet
      have silent : visit.server.lateErrors login = [] := by
        rw [List.eq_nil_iff_forall_not_mem]
        intro effect member
        exact quiet effect (List.mem_append_left _ member)
          (visit.server.lateErrors_isHttpError login effect member)
      simp only [silent, List.nil_append, sessionEffects_finishUpstreamLogin]
      exact Browser.commit_flowEnd_state _ _ _

/-- In every history that draws fresh states, a callback that passes the state
check reads the parameters that were stored with its state, and no earlier
callback with that state has ended without an error. -/
theorem flow_parameters_together (past : List Visit) (visit : Visit)
    (state : String) (fresh : FreshStates past)
    (passes : visit.Passes (reach past) state) :
    (∃ flow session,
        generated state past = some (flow, session) ∧
          (reach past).login.getString sessUpstreamProvider =
            flow.provider ∧
          (reach past).login.getString sessUpstreamNonce = flow.nonce ∧
          (reach past).login.getString sessUpstreamPKCE = flow.pkce ∧
          ((reach past).login.getString sessUpstreamPKCE = "1" →
            flow.verifier =
              some ((reach past).login.getString sessUpstreamVerifier))) ∧
      ∀ later callback earlier, past = later ++ callback :: earlier →
        callback.Passes (reach earlier) state →
        ∃ effect ∈ callback.effects (reach earlier),
          effect.IsHttpError := by
  obtain ⟨-, -, -, -, -, nonempty, wanted⟩ := passes
  constructor
  · rw [← wanted] at nonempty
    obtain ⟨flow, session, drawn, held⟩ := generated_of_reach past nonempty
    refine ⟨flow, session, wanted ▸ drawn, held.provider, held.nonce,
      held.pkce, fun flagged => ?_⟩
    rw [held.pkce] at flagged
    cases present : flow.verifier with
    | none => simp [UpstreamFlow.pkce, present] at flagged
    | some verifier => rw [held.verifier verifier present]
  · rintro later callback earlier rfl ⟨⟨endpoints, route⟩, -, -, -, -, -, had⟩
    by_contra quiet
    push Not at quiet
    have away : (reach (callback :: earlier)).login.getString
        sessUpstreamState ≠ state := by
      have ended := Visit.next_state_of_quiet route quiet
      exact fun back => nonempty (back.symm.trans ended)
    have drawn : state ∈ earlier.filterMap Visit.drawnState? := by
      have present : (reach earlier).login.getString sessUpstreamState ≠
          "" := by
        rw [had]
        exact nonempty
      obtain ⟨flow, session, drawn, -⟩ := generated_of_reach earlier present
      rw [had] at drawn
      exact mem_drawn_of_generated drawn
    have notAgain : state ∉ later.filterMap Visit.drawnState? := by
      intro again
      unfold FreshStates at fresh
      rw [List.filterMap_append, List.nodup_append] at fresh
      exact fresh.2.2 state again state (mem_drawn_cons callback drawn) rfl
    exact state_stays_away nonempty away notAgain wanted

/-! ## A flow -/

/-- The login page for a query, and the start of a flow. -/
def sampleStart (mode : SsoMode) (rawQuery : String) : List Visit :=
  [sampleVisit mode (.upstreamGo OidcServer.sampleSource)
      "upstreamProvider=idp",
    sampleVisit mode .login rawQuery]

/-- The upstream says that the user is `bob`. -/
def sampleReturn (mode : SsoMode) : Visit :=
  sampleVisit mode
    (.upstreamCallback
      (OidcServer.sampleEndpoints "token"
        [("sub", .str "bob"), ("nonce", .str "n")] []))
    "code=c&state=s"

theorem flow_parameters_together_sample :
    FreshStates (sampleStart .always "client_id=app") ∧
      ∃ flow session,
        generated "s" (sampleStart .always "client_id=app") =
            some (flow, session) ∧
          (reach (sampleStart .always "client_id=app")).login.getString
            sessUpstreamNonce = flow.nonce := by
  have fresh : FreshStates (sampleStart .always "client_id=app") := by
    unfold FreshStates
    decide
  obtain ⟨⟨flow, session, drawn, -, nonce, -⟩, -⟩ :=
    flow_parameters_together (sampleStart .always "client_id=app")
      (sampleReturn .always) "s" fresh
      ⟨⟨_, rfl⟩, rfl, rfl, by decide, rfl, by decide, rfl⟩
  exact ⟨fresh, flow, session, drawn, nonce⟩

end Kubauth.Server
