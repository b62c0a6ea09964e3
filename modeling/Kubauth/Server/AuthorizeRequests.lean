import Kubauth.Server.UpstreamFlows

/-!
# The authorize request of an upstream login

An upstream login resumes the authorize request that the login session holds
when the login ends.  There is one place for it, which every rendering of the
login page writes.  A second login page in the same browser therefore gives
its authorize request to the flow that the first one started.  As long as no
login page with another query is rendered while a flow is under way, a flow
resumes the request that it was started for.
-/

namespace Kubauth.Server

/-! ## Which requests resume an authorize request -/

namespace OidcServer

theorem startUpstreamLogin_rawQuery {server : OidcServer}
    {endpoints : UpstreamEndpoints} {request : HttpRequest}
    {session : LoginSession} {login : UpstreamLogin}
    (started : server.startUpstreamLogin endpoints request session =
      .ok login) :
    login.rawQuery = session.getString "authQuery" := by
  simp only [startUpstreamLogin, bind, Except.bind] at started
  split at started
  · cases started
  · split at started
    · cases started
    · split at started
      · cases started
      · split at started
        · cases started
        · cases started
          rfl

theorem completed_of_mem_completeUpstreamAuthorize {server : OidcServer}
    {now : Int} {rawQuery completed : String} {user other : OidcUser}
    (member : Effect.completeUpstreamAuthorize completed other ∈
      server.completeUpstreamAuthorize now rawQuery user) :
    completed = rawQuery := by
  rcases List.mem_cons.mp member with same | answered
  · cases same
    rfl
  · rcases mem_answerAuthorize answered with
      ⟨granted, wrong⟩ | wrong | ⟨failure, wrong⟩ | wrong <;> cases wrong

end OidcServer

/-- A request that resumes an authorize request takes it from the session: it
is a callback that passes its checks, or the confirmation of a user. -/
theorem Visit.completed_cases {visit : Visit} {browser : Browser}
    {rawQuery : String} {user : OidcUser}
    (completes : Effect.completeUpstreamAuthorize rawQuery user ∈
      visit.effects browser) :
    rawQuery = browser.login.getString "authQuery" ∧
      ((∃ endpoints, visit.route = .upstreamCallback endpoints ∧
          visit.server.PassesStateCheck visit.request browser.login
            ((visit.server.query visit.request).first "state")) ∨
        visit.route = .upstreamWelcome ∧
          browser.login.pendingUpstreamUser.isSome) := by
  cases Visit.responds completes rfl with
  | password authenticated answered =>
      rcases OidcServer.mem_answerAuthorize answered with
        ⟨granted, wrong⟩ | wrong | ⟨failure, wrong⟩ | wrong <;> cases wrong
  | @upstream endpoints login _ route started completed =>
      refine ⟨?_, .inl ⟨endpoints, route,
        OidcServer.startUpstreamLogin_passes started⟩⟩
      rw [OidcServer.completed_of_mem_completeUpstreamAuthorize completed]
      exact OidcServer.startUpstreamLogin_rawQuery started
  | confirmation route loaded completed =>
      obtain ⟨pending, left, -⟩ :=
        loadPendingUpstreamUser_eq_some_iff.mp loaded
      refine ⟨?_, .inr ⟨route, by rw [left]; rfl⟩⟩
      exact OidcServer.completed_of_mem_completeUpstreamAuthorize completed

/-! ## The login that is completed -/

def Effect.leavesPending : Effect → Bool
  | .putPendingUpstreamUser _ => true
  | _ => false

/-- The state that the request was accepted with, when it leaves a user
pending. -/
def Visit.pends? (visit : Visit) (browser : Browser) : Option String :=
  if (visit.sessionEffects browser).any Effect.leavesPending then
    some ((visit.server.query visit.request).first "state")
  else none

/-- The state of the callback that authenticated the pending user. -/
def pendingState : List Visit → Option String
  | [] => none
  | visit :: past =>
      match visit.pends? (reach past) with
      | some state => some state
      | none => pendingState past

/-- The state of the callback that authenticated the user whose login the
request completes. -/
def Visit.completedState? (visit : Visit) (past : List Visit) :
    Option String :=
  match visit.route with
  | .upstreamCallback _ =>
      some ((visit.server.query visit.request).first "state")
  | .upstreamWelcome => pendingState past
  | _ => none

/-- The state was drawn when the session held this authorize request. -/
def StartedWith (state rawQuery : String) (history : List Visit) : Prop :=
  ∃ flow session, generated state history = some (flow, session) ∧
    session.getString "authQuery" = rawQuery

/-! ## One flow at a time -/

/-- A flow has been started, or its user is still to be confirmed. -/
def LoginSession.FlowUnderWay (session : LoginSession) : Prop :=
  session.getString sessUpstreamState ≠ "" ∨
    session.pendingUpstreamUser.isSome

/-- While a flow is under way the login page is rendered for no other
authorize request. -/
def Visit.Keeps (visit : Visit) (browser : Browser) : Prop :=
  visit.route = .login → visit.request.method = "GET" →
    browser.login.FlowUnderWay →
    visit.request.rawQuery = browser.login.getString "authQuery"

def OneFlowAtATime : List Visit → Prop
  | [] => True
  | visit :: past => visit.Keeps (reach past) ∧ OneFlowAtATime past

theorem UpstreamFlow.puts_frame (flow : UpstreamFlow) (browser : Browser) :
    flow.puts.any Effect.leavesPending = false ∧
      (browser.commit flow.puts).login.getString "authQuery" =
        browser.login.getString "authQuery" ∧
      (browser.commit flow.puts).login.pendingUpstreamUser =
        browser.login.pendingUpstreamUser := by
  refine ⟨?_, ?_, ?_⟩
  · unfold UpstreamFlow.puts
    cases flow.verifier <;> rfl
  · apply Browser.getString_commit
    intro effect member
    obtain ⟨key, upstream, value, rfl⟩ := UpstreamFlow.mem_puts member
    have different : key ≠ "authQuery" := by
      rintro rfl
      revert upstream
      decide
    simpa [Effect.changesKey] using different
  · unfold UpstreamFlow.puts
    cases flow.verifier <;> rfl

theorem Browser.commit_flowEnd_query (browser : Browser) (mode : SsoMode)
    (user : OidcUser) :
    (browser.commit (flowEnd ++ keepUser mode user)).login.getString
        "authQuery" =
      browser.login.getString "authQuery" := by
  apply Browser.getString_commit
  cases mode <;>
    simp [flowEnd, keepUser, Effect.changesKey, sessUpstreamState,
      sessUpstreamNonce, sessUpstreamVerifier, sessUpstreamPKCE,
      sessUpstreamProvider]

/-- What a request does to the authorize request and to the pending user. -/
theorem Visit.next_query_cases (visit : Visit) (browser : Browser) :
    ((visit.next browser).login.getString sessUpstreamState = "" ∧
        (visit.next browser).login.pendingUpstreamUser = none) ∨
      (visit.pends? browser = none ∧
        (visit.next browser).login.getString "authQuery" =
          browser.login.getString "authQuery" ∧
        ((visit.next browser).login.pendingUpstreamUser = none ∨
          (visit.next browser).login.pendingUpstreamUser =
            browser.login.pendingUpstreamUser)) ∨
      (visit.pends? browser = none ∧ visit.flow? browser = none ∧
        visit.route = .login ∧ visit.request.method = "GET" ∧
        (visit.next browser).login.getString "authQuery" =
          visit.request.rawQuery ∧
        (visit.next browser).login.pendingUpstreamUser =
          browser.login.pendingUpstreamUser) ∨
      ((visit.next browser).login.getString sessUpstreamState = "" ∧
        (visit.next browser).login.getString "authQuery" =
          browser.login.getString "authQuery" ∧
        visit.flow? browser = none ∧
        visit.pends? browser =
          some (browser.login.getString sessUpstreamState) ∧
        browser.login.getString sessUpstreamState ≠ "") := by
  rcases visit.next_login browser with expired | stored
  · rw [expired]
    exact .inl ⟨rfl, rfl⟩
  rw [stored]
  have acts := visit.acts browser
  unfold Visit.pends?
  generalize visit.sessionEffects browser = effects at acts ⊢
  cases acts with
  | idle idle => exact .inr (.inl ⟨rfl, rfl, .inr rfl⟩)
  | rendered route get =>
      refine .inr (.inr (.inl ⟨rfl, by simp [Visit.flow?, route], route, get,
        ?_, rfl⟩))
      simp [Browser.commit, Browser.perform, Effect.isPanic]
  | panicked route => exact .inr (.inl ⟨rfl, rfl, .inr rfl⟩)
  | remembered route post authenticated remembers =>
      exact .inr (.inl ⟨rfl, rfl, .inr rfl⟩)
  | @started flow started =>
      obtain ⟨silent, kept, same⟩ := flow.puts_frame browser
      exact .inr (.inl ⟨by rw [silent]; rfl, kept, .inr same⟩)
  | @accepted endpoints login route started =>
      obtain ⟨-, -, -, -, nonempty, wanted⟩ :=
        OidcServer.startUpstreamLogin_passes started
      have ended := browser.commit_flowEnd_state visit.server.ssoMode
        (visit.server.upstreamLoginUser login)
      have kept := browser.commit_flowEnd_query visit.server.ssoMode
        (visit.server.upstreamLoginUser login)
      cases mode : visit.server.ssoMode with
      | onDemand =>
          rw [mode] at ended kept
          refine .inr (.inr (.inr ⟨ended, kept, by simp [Visit.flow?, route],
            ?_, wanted ▸ nonempty⟩))
          rw [wanted]
          rfl
      | always => exact .inr (.inl ⟨rfl, mode ▸ kept, .inr rfl⟩)
      | never => exact .inr (.inl ⟨rfl, mode ▸ kept, .inr rfl⟩)
  | confirmed route post mode loaded =>
      refine .inr (.inl ?_)
      split <;> exact ⟨rfl, rfl, .inl rfl⟩
  | loggedOut route => exact .inl ⟨rfl, rfl⟩

/-! ## Along a history -/

/-- The flow in the session, and the one whose user is pending, were started
for the authorize request that the session holds. -/
structure Tied (history : List Visit) : Prop where
  state : (reach history).login.getString sessUpstreamState ≠ "" →
    StartedWith ((reach history).login.getString sessUpstreamState)
      ((reach history).login.getString "authQuery") history
  pending : (reach history).login.pendingUpstreamUser.isSome →
    ∃ state, pendingState history = some state ∧
      StartedWith state ((reach history).login.getString "authQuery") history

/-- A request may draw the state once more, for the same authorize request. -/
theorem StartedWith.cons {state : String} {past : List Visit}
    (started : StartedWith state ((reach past).login.getString "authQuery")
      past) (visit : Visit) :
    StartedWith state ((reach past).login.getString "authQuery")
      (visit :: past) := by
  obtain ⟨flow, session, drawn, held⟩ := started
  cases begun : visit.flow? (reach past) with
  | none => exact ⟨flow, session, by simp [generated, begun, drawn], held⟩
  | some other =>
      by_cases same : other.state = state
      · exact ⟨other, (reach past).login, by simp [generated, begun, same],
          rfl⟩
      · exact ⟨flow, session, by simp [generated, begun, same, drawn], held⟩

theorem Tied.step {visit : Visit} {past : List Visit} (tied : Tied past)
    (keeps : visit.Keeps (reach past)) : Tied (visit :: past) where
  state := by
    intro present
    show StartedWith
      ((visit.next (reach past)).login.getString sessUpstreamState)
      ((visit.next (reach past)).login.getString "authQuery") (visit :: past)
    rcases visit.next_flow_cases (reach past) with
      ended | ⟨idle, same⟩ | ⟨flow, started, held⟩
    · exact absurd ended present
    · have state := same sessUpstreamState (by decide)
      have present' : (reach past).login.getString sessUpstreamState ≠
          "" := by
        rw [← state]
        exact present
      have before := (tied.state present').cons visit
      rw [state]
      rcases visit.next_query_cases (reach past) with
        ⟨ended, -⟩ | ⟨-, query, -⟩ | ⟨-, -, route, get, query, -⟩ | ⟨ended, -⟩
      · exact absurd ended present
      · rw [query]
        exact before
      · rw [query, keeps route get (.inl present')]
        exact before
      · exact absurd ended present
    · have now : StartedWith flow.state
          ((reach past).login.getString "authQuery") (visit :: past) :=
        ⟨flow, (reach past).login, by simp [generated, started], rfl⟩
      rw [held.state]
      rcases visit.next_query_cases (reach past) with
        ⟨ended, -⟩ | ⟨-, query, -⟩ | ⟨-, idle, -⟩ | ⟨ended, -⟩
      · exact absurd ended present
      · rw [query]
        exact now
      · rw [started] at idle
        cases idle
      · exact absurd ended present
  pending := by
    intro left
    rcases visit.next_query_cases (reach past) with
      ⟨-, none⟩ | ⟨silent, query, none | same⟩ |
        ⟨silent, idle, route, get, query, same⟩ |
        ⟨-, query, idle, pends, present⟩
    · rw [reach, none] at left
      cases left
    · rw [reach, none] at left
      cases left
    · rw [reach, same] at left
      obtain ⟨state, recorded, started⟩ := tied.pending left
      refine ⟨state, by simp [pendingState, silent, recorded], ?_⟩
      rw [reach, query]
      exact started.cons visit
    · rw [reach, same] at left
      obtain ⟨state, recorded, started⟩ := tied.pending left
      refine ⟨state, by simp [pendingState, silent, recorded], ?_⟩
      rw [reach, query, keeps route get (.inr left)]
      exact started.cons visit
    · refine ⟨(reach past).login.getString sessUpstreamState,
        by simp [pendingState, pends], ?_⟩
      rw [reach, query]
      exact (tied.state present).cons visit

theorem tied_of_oneFlowAtATime {history : List Visit}
    (orderly : OneFlowAtATime history) : Tied history := by
  induction history with
  | nil =>
      constructor
      · intro present
        exact absurd rfl present
      · intro left
        cases left
  | cons visit past induction => exact (induction orderly.2).step orderly.1

/-- In every history in which no login page with another query is rendered
while a flow is under way, each upstream login that is completed, by its
callback or by the confirmation of its user, resumes the authorize request
that was in the session when its state was drawn. -/
theorem completed_request_original (past : List Visit) (visit : Visit)
    (rawQuery : String) (user : OidcUser) (orderly : OneFlowAtATime past)
    (completes : Effect.completeUpstreamAuthorize rawQuery user ∈
      visit.effects (reach past)) :
    ∃ state flow session,
      visit.completedState? past = some state ∧
        generated state past = some (flow, session) ∧
        session.getString "authQuery" = rawQuery := by
  have tied := tied_of_oneFlowAtATime orderly
  obtain ⟨rfl, ⟨endpoints, route, -, -, -, -, nonempty, wanted⟩ |
    ⟨route, left⟩⟩ := Visit.completed_cases completes
  · rw [← wanted] at nonempty
    obtain ⟨flow, session, drawn, held⟩ := tied.state nonempty
    refine ⟨_, flow, session, ?_, drawn, held⟩
    rw [wanted]
    simp [Visit.completedState?, route]
  · obtain ⟨state, recorded, flow, session, drawn, held⟩ := tied.pending left
    refine ⟨state, flow, session, ?_, drawn, held⟩
    simp [Visit.completedState?, route, recorded]

/-! ## Two login pages -/

def sampleUser : OidcUser :=
  { login := "bob", claims := some [("sub", .str "bob")], fullName := "" }

theorem completed_request_original_sample :
    Effect.completeUpstreamAuthorize "client_id=app" sampleUser ∈
        (sampleReturn .always).effects
          (reach (sampleStart .always "client_id=app")) ∧
      ∃ state flow session,
        (sampleReturn .always).completedState?
            (sampleStart .always "client_id=app") = some state ∧
          generated state (sampleStart .always "client_id=app") =
            some (flow, session) ∧
          session.getString "authQuery" = "client_id=app" := by
  have orderly : OneFlowAtATime (sampleStart .always "client_id=app") := by
    refine ⟨?_, ?_, trivial⟩
    · intro route
      cases route
    · intro _ _ underWay
      rcases underWay with present | left
      · exact absurd rfl present
      · cases left
  have answered : (sampleReturn .always).effects
      (reach (sampleStart .always "client_id=app")) =
        .renewSsoToken :: flowEnd ++
          [.putSsoUser sampleUser,
            .completeUpstreamAuthorize "client_id=app" sampleUser,
            .writeAuthorizeError "invalid_client"] := rfl
  have completes : Effect.completeUpstreamAuthorize "client_id=app"
      sampleUser ∈ (sampleReturn .always).effects
        (reach (sampleStart .always "client_id=app")) := by
    rw [answered]
    simp
  exact ⟨completes, completed_request_original _ _ _ _ orderly completes⟩

/-- A flow is started for one application, and the login page is then rendered
for another one. -/
def otherPage (mode : SsoMode) : List Visit :=
  sampleVisit mode .login "client_id=other" ::
    sampleStart mode "client_id=app"

/-- In the mode on demand, the other page is rendered between the callback and
the confirmation. -/
def otherPagePending : List Visit :=
  sampleVisit .onDemand .login "client_id=other" ::
    sampleReturn .onDemand :: sampleStart .onDemand "client_id=app"

def sampleConfirm : Visit :=
  samplePost .onDemand .upstreamWelcome [("remember", ["on"])]

/-- Both logins were started for `app` and resume the authorize request of
`other`. -/
theorem completed_request_of_another_flow :
    (Effect.completeUpstreamAuthorize "client_id=other" sampleUser ∈
          (sampleReturn .always).effects (reach (otherPage .always)) ∧
        ∃ flow session,
          generated "s" (otherPage .always) = some (flow, session) ∧
            session.getString "authQuery" = "client_id=app") ∧
      Effect.completeUpstreamAuthorize "client_id=other" sampleUser ∈
          sampleConfirm.effects (reach otherPagePending) ∧
        sampleConfirm.completedState? otherPagePending = some "s" ∧
        ∃ flow session,
          generated "s" otherPagePending = some (flow, session) ∧
            session.getString "authQuery" = "client_id=app" := by
  have returned : (sampleReturn .always).effects
      (reach (otherPage .always)) =
        .renewSsoToken :: flowEnd ++
          [.putSsoUser sampleUser,
            .completeUpstreamAuthorize "client_id=other" sampleUser,
            .writeAuthorizeError "invalid_client"] := rfl
  have confirmed : sampleConfirm.effects (reach otherPagePending) =
      [.removePendingUpstreamUser,
        .putSsoUser sampleUser,
        .completeUpstreamAuthorize "client_id=other" sampleUser,
        .writeAuthorizeError "invalid_client"] := rfl
  refine ⟨⟨?_, _, _, rfl, rfl⟩, ?_, rfl, _, _, rfl, rfl⟩
  · rw [returned]
    simp
  · rw [confirmed]
    simp

end Kubauth.Server
