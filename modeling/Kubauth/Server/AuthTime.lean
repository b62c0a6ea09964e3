import Kubauth.Server.SsoPrincipals

/-!
# The authentication time

A session for the OAuth2 library carries the time at which its user
authenticated.  `newSession` takes the time of the request for it.  No handler
records when a user did authenticate, so a user of an SSO session, or one that
is confirmed later, gets a time after that of the authentication.
-/

namespace Kubauth.Server

/-- The clock does not run backwards.  The latest request comes first. -/
def ClockRuns (history : List Visit) : Prop :=
  history.Pairwise fun later earlier => earlier.now ≤ later.now

theorem lastAuthentication_le {login : String} {history : List Visit}
    {time now : Int} (last : lastAuthentication login history = some time)
    (before : ∀ visit ∈ history, visit.now ≤ now) : time ≤ now := by
  induction history with
  | nil => cases last
  | cons visit past induction =>
      have earlier := fun found => induction found fun other member =>
        before other (List.mem_cons_of_mem visit member)
      unfold lastAuthentication at last
      split at last
      · split at last
        · obtain rfl := Option.some.inj last
          exact before visit List.mem_cons_self
        · exact earlier last
      · exact earlier last

/-! ## Who a response is asked for -/

theorem OidcServer.asked_of_mem_answerAuthorize {server : OidcServer}
    {now : Int} {rawQuery clientId : String} {user : OidcUser}
    {granted : Requester} {session : OidcSession}
    (asked : Effect.newAuthorizeResponse granted session ∈
      server.answerAuthorize now rawQuery user clientId) :
    session = server.newSession now (some user) clientId := by
  rcases OidcServer.mem_answerAuthorize asked with
    ⟨_, same⟩ | wrong | ⟨failure, wrong⟩ | wrong
  · cases same
    rfl
  all_goals cases wrong

theorem OidcServer.asked_of_mem_completeUpstreamAuthorize
    {server : OidcServer} {now : Int} {rawQuery : String} {user : OidcUser}
    {granted : Requester} {session : OidcSession}
    (asked : Effect.newAuthorizeResponse granted session ∈
      server.completeUpstreamAuthorize now rawQuery user) :
    ∃ clientId, session = server.newSession now (some user) clientId := by
  rcases List.mem_cons.mp asked with wrong | asked
  · cases wrong
  · exact ⟨_, OidcServer.asked_of_mem_answerAuthorize asked⟩

/-- A response is asked for on behalf of the user that the request
authenticates, of the SSO user, or of the pending user. -/
theorem Visit.asked_cases {visit : Visit} {browser : Browser}
    {granted : Requester} {session : OidcSession}
    (asked : Effect.newAuthorizeResponse granted session ∈
      visit.effects browser) :
    ∃ user clientId,
      session = visit.server.newSession visit.now (some user) clientId ∧
        (visit.authenticated? browser = some user ∨
          visit.authenticated? browser = none ∧
            ((∃ claims,
                readSsoUser browser.ssoUser = .known user.login claims) ∨
              loadPendingUpstreamUser browser.login = some user)) := by
  cases Visit.responds asked rfl with
  | @sso login claims _ clientId unauthenticated known =>
      exact ⟨_, clientId, rfl, .inr ⟨unauthenticated, .inl ⟨claims, known⟩⟩⟩
  | @password user rawQuery clientId _ authenticated answered =>
      exact ⟨user, clientId,
        OidcServer.asked_of_mem_answerAuthorize answered,
        .inl authenticated⟩
  | @upstream endpoints login _ route started completed =>
      obtain ⟨clientId, same⟩ :=
        OidcServer.asked_of_mem_completeUpstreamAuthorize completed
      refine ⟨_, clientId, same, .inl ?_⟩
      simp [Visit.authenticated?, route, started]
  | @confirmation user _ route loaded completed =>
      obtain ⟨clientId, same⟩ :=
        OidcServer.asked_of_mem_completeUpstreamAuthorize completed
      refine ⟨user, clientId, same, .inr ⟨?_, .inr loaded⟩⟩
      simp [Visit.authenticated?, route]

/-! ## The time that a session carries -/

theorem Browser.ssoLogin_of_known {browser : Browser} {login : String}
    {claims : Claims}
    (known : readSsoUser browser.ssoUser = .known login claims) :
    browser.ssoLogin = login := by
  unfold readSsoUser at known
  split at known
  · next held =>
      simp only at known
      split at known
      · cases known
      · split at known <;> cases known
        simp [Browser.ssoLogin, held]
  · cases known

theorem wasAuthenticated_of_kept {past : List Visit} {user : OidcUser}
    (kept :
      (∃ claims, readSsoUser (reach past).ssoUser =
          .known user.login claims) ∨
        loadPendingUpstreamUser (reach past).login = some user) :
    WasAuthenticated user.login past := by
  rcases kept with ⟨claims, known⟩ | loaded
  · cases held : (reach past).ssoUser with
    | none =>
        rw [held] at known
        cases known
    | some value =>
        obtain ⟨stored, rfl, authenticated⟩ :=
          (keepsAuthenticated past).sso value held
        rw [← Browser.ssoLogin_of_known known,
          Browser.ssoLogin_of_ssoUser held]
        exact authenticated
  · obtain ⟨pending, left, -, rfl⟩ :=
      loadPendingUpstreamUser_eq_some_iff.mp loaded
    exact (keepsAuthenticated past).pending pending left

/-- In every history with a monotone clock, the authentication time of a
session is the time at which it is issued.  Its user was authenticated in this
browser, not later than that, and at that time if the request authenticates
the user itself. -/
theorem auth_time_is_issue_time (past : List Visit) (visit : Visit)
    (granted : Requester) (session : OidcSession)
    (clock : ClockRuns (visit :: past))
    (asked : Effect.newAuthorizeResponse granted session ∈
      visit.effects (reach past)) :
    session.idTokenClaims.authTime = visit.now ∧
      session.idTokenClaims.issuedAt = visit.now ∧
      ∃ time,
        lastAuthentication session.subject (visit :: past) = some time ∧
          time ≤ session.idTokenClaims.authTime ∧
          ((visit.authenticated? (reach past)).isSome →
            time = session.idTokenClaims.authTime) := by
  obtain ⟨user, clientId, rfl, authenticated | ⟨unauthenticated, kept⟩⟩ :=
    Visit.asked_cases asked
  · exact ⟨rfl, rfl, visit.now,
      lastAuthentication_of_authenticated? authenticated, le_refl _,
      fun _ => rfl⟩
  · obtain ⟨time, last⟩ := wasAuthenticated_of_kept kept
    refine ⟨rfl, rfl, time, ?_, ?_, ?_⟩
    · simp only [lastAuthentication, unauthenticated]
      exact last
    · exact lastAuthentication_le last (List.pairwise_cons.mp clock).1
    · intro present
      rw [unauthenticated] at present
      cases present

/-! ## A second application -/

/-- A server that accepts every authorize request. -/
def acceptingServer (mode : SsoMode) : OidcServer :=
  { flowServer mode with
    oauth2 :=
      { newRequest := fun _ => none
        newAuthorizeRequest := fun _ => .ok default
        newAuthorizeResponse := fun _ _ => none } }

/-- The user has logged in at time zero. -/
def loggedIn : List Visit :=
  (sampleLogin .always).map fun visit =>
    { visit with server := acceptingServer .always }

/-- The login page of another application, an hour later. -/
def hourLater : Visit :=
  { sampleVisit .always .login "client_id=other" with
    server := acceptingServer .always
    now := hour }

theorem auth_time_is_issue_time_later :
    ∃ granted session,
      Effect.newAuthorizeResponse granted session ∈
          hourLater.effects (reach loggedIn) ∧
        session.idTokenClaims.authTime = hour := by
  obtain ⟨granted, session, asked⟩ : ∃ granted session,
      hourLater.effects (reach loggedIn) =
        [.putLogin "authQuery" "client_id=other", .putLogin "clientId" "app",
          .newAuthorizeResponse granted session, .writeAuthorizeResponse] :=
    ⟨_, _, rfl⟩
  have member : Effect.newAuthorizeResponse granted session ∈
      hourLater.effects (reach loggedIn) := by
    rw [asked]
    simp
  have clock : ClockRuns (hourLater :: loggedIn) := by
    unfold ClockRuns
    decide
  exact ⟨granted, session, member,
    (auth_time_is_issue_time loggedIn hourLater granted session clock
      member).1⟩

/-- Alice authenticated at time zero, and the session of the second
application says that it was an hour later. -/
theorem auth_time_after_authentication :
    ∃ granted session,
      Effect.newAuthorizeResponse granted session ∈
          hourLater.effects (reach loggedIn) ∧
        session.subject = "alice" ∧
        lastAuthentication "alice" (hourLater :: loggedIn) = some 0 ∧
        0 < session.idTokenClaims.authTime := by
  obtain ⟨granted, session, asked, subject, time⟩ : ∃ granted session,
      hourLater.effects (reach loggedIn) =
          [.putLogin "authQuery" "client_id=other",
            .putLogin "clientId" "app",
            .newAuthorizeResponse granted session,
            .writeAuthorizeResponse] ∧
        session.subject = "alice" ∧
        session.idTokenClaims.authTime = hour :=
    ⟨_, _, rfl, rfl, rfl⟩
  refine ⟨granted, session, ?_, subject, rfl, ?_⟩
  · rw [asked]
    simp
  · rw [time]
    decide

end Kubauth.Server
