import Kubauth.Server.SsoPrincipals

/-!
# The claims of the SSO user

A rendering request asserts, without a check, that the claims of a named SSO
user are an object.  A user is written to JSON with `null` for the nil map, so
the assertion rests on all those who produce users: one with a login never has
the nil map for claims.
-/

namespace Kubauth

/-- A named user has claims, possibly none of them. -/
def OidcUser.Presentable (user : OidcUser) : Prop :=
  user.login ≠ "" → ∃ claims, user.claims = some claims

namespace OidcUser

theorem Presentable.decoded {user : OidcUser} (presentable : user.Presentable) :
    user.decoded.Presentable := by
  intro named
  obtain ⟨claims, held⟩ := presentable named
  exact ⟨decodedEntries claims, by rw [OidcUser.decoded, held, Option.map_some]⟩

theorem Presentable.claims_decodedValue {user : OidcUser}
    (presentable : user.Presentable) {fields : Claims}
    (held : user.decodedValue = .map fields)
    (named : Claims.getString fields "Login" ≠ "") :
    ∃ claims, GoMap.get fields "Claims" = some (.map claims) := by
  cases held
  obtain ⟨claims, present⟩ := presentable named
  exact ⟨decodedEntries claims, by rw [present]; rfl⟩

end OidcUser

namespace Server

/-- The deployed authenticator, with any exchange. -/
def OidcServer.Deployed (server : OidcServer) : Prop :=
  ∃ exchange, server.authenticator = httpProvider exchange

/-! ## The producers -/

theorem httpProvider_presentable {exchange : Exchange}
    {login password : String} {user : OidcUser}
    (returned : (httpProvider exchange).authenticate login password =
      (some user, none)) :
    user.Presentable := by
  simp only [httpProvider] at returned
  split at returned
  · cases returned
  · next authenticated =>
      cases returned
      obtain ⟨-, held, -⟩ := HttpProvider.identify_ok
        (HttpProvider.identify_of_authenticate authenticated)
      exact fun _ => held

/-- An upstream login that is named at all was named by claims, and enrichment
merges onto a map of its own. -/
theorem OidcServer.upstreamLoginUser_presentable (server : OidcServer)
    (login : UpstreamLogin) :
    (server.upstreamLoginUser login).Presentable := by
  unfold upstreamLoginUser
  cases found : (server.identifyLocally login).1 with
  | none => exact login.idClaims_of_sub
  | some user =>
      unfold identifyLocally at found
      split at found
      · obtain ⟨found, -, rfl⟩ := Option.map_eq_some_iff.mp found
        exact fun _ => ⟨_, rfl⟩
      · cases found

theorem Visit.authenticated?_presentable {visit : Visit} {browser : Browser}
    (deployed : visit.server.Deployed) {user : OidcUser}
    (authenticated : visit.authenticated? browser = some user) :
    user.Presentable := by
  obtain ⟨exchange, deployed⟩ := deployed
  unfold Visit.authenticated? at authenticated
  split at authenticated
  · simp only at authenticated
    split at authenticated
    · split at authenticated
      · next returned =>
          subst authenticated
          rw [deployed] at returned
          exact httpProvider_presentable returned
      · cases authenticated
    · cases authenticated
  · split at authenticated
    · next login started =>
        cases authenticated
        exact visit.server.upstreamLoginUser_presentable login
    · cases authenticated
  · cases authenticated

/-! ## The consumer -/

theorem keepsUsers_presentable {history : List Visit}
    (deployed : ∀ visit ∈ history, visit.server.Deployed) :
    KeepsUsers OidcUser.Presentable (reach history) := by
  induction history with
  | nil => exact keepsUsers_new _
  | cons visit past induction =>
      have before := induction fun earlier member =>
        deployed earlier (List.mem_cons_of_mem _ member)
      apply before.next
      · intro user presentable
        exact presentable.decoded
      · intro user authenticated
        exact Visit.authenticated?_presentable
          (deployed visit List.mem_cons_self) authenticated

theorem readSsoUser_ne_broken {ssoUser : Option Value}
    (objects : ∀ fields, ssoUser = some (.map fields) →
      Claims.getString fields "Login" ≠ "" →
        ∃ claims, GoMap.get fields "Claims" = some (.map claims)) :
    readSsoUser ssoUser ≠ .broken := by
  unfold readSsoUser
  split
  · next fields =>
      simp only
      split
      · nofun
      · next named =>
          obtain ⟨claims, held⟩ := objects fields rfl named
          rw [held]
          nofun
  · nofun

theorem OidcServer.handleLogin_panic {server : OidcServer} {now : Int}
    {request : HttpRequest} {session : LoginSession} {ssoUser : Option Value}
    {reason : String}
    (member : .panic reason ∈
      server.handleLogin now request session ssoUser) :
    readSsoUser ssoUser = .broken := by
  unfold handleLogin at member
  split at member
  · obtain ⟨key, value, same⟩ | ⟨clientId, same⟩ | ⟨broken, -⟩ | same |
        ⟨login, claims, granted, clientId, -, same⟩ := mem_renderLogin member
    case inr.inr.inl => exact broken
    all_goals cases same
  · split at member
    · obtain ⟨message, status, same⟩ | ⟨clientId, same⟩ |
          ⟨user, -, -, -, same | same | answered⟩ := mem_submitLogin member
      case inr.inr.inr.inr =>
        obtain ⟨granted, same⟩ | same | ⟨failure, same⟩ | same :=
          mem_answerAuthorize answered <;> cases same
      all_goals cases same
    · cases List.mem_singleton.mp member

/-- Whatever the requests of a browser were, the SSO user that it holds has an
object for claims as soon as it has a login, so that no later request to the
login page panics over it. -/
theorem sso_claims_assertion_succeeds {history : List Visit}
    (deployed : ∀ visit ∈ history, visit.server.Deployed) :
    (∀ fields, (reach history).ssoUser = some (.map fields) →
      Claims.getString fields "Login" ≠ "" →
        ∃ claims, GoMap.get fields "Claims" = some (.map claims)) ∧
      ∀ (server : OidcServer) (now : Int) (request : HttpRequest)
        (session : LoginSession) (reason : String),
        .panic reason ∉
          server.handleLogin now request session (reach history).ssoUser := by
  have objects : ∀ fields, (reach history).ssoUser = some (.map fields) →
      Claims.getString fields "Login" ≠ "" →
        ∃ claims, GoMap.get fields "Claims" = some (.map claims) := by
    intro fields held named
    obtain ⟨user, shape, presentable⟩ :=
      (keepsUsers_presentable deployed).sso _ held
    exact presentable.claims_decodedValue shape.symm named
  refine ⟨objects, ?_⟩
  intro server now request session reason member
  exact readSsoUser_ne_broken objects (OidcServer.handleLogin_panic member)

theorem sso_claims_assertion_succeeds_alice :
    ∃ fields claims,
      (reach (sampleLogin .always)).ssoUser = some (.map fields) ∧
        Claims.getString fields "Login" = "alice" ∧
        GoMap.get fields "Claims" = some (.map claims) := by
  obtain ⟨fields, held, login⟩ : ∃ fields,
      (reach (sampleLogin .always)).ssoUser = some (.map fields) ∧
        Claims.getString fields "Login" = "alice" := ⟨_, rfl, rfl⟩
  have deployed : ∀ visit ∈ sampleLogin .always, visit.server.Deployed := by
    intro visit member
    obtain rfl | rfl := List.mem_pair.mp member
    · exact ⟨sampleExchange Status.passwordChecked, rfl⟩
    · exact ⟨sampleExchange Status.passwordChecked, rfl⟩
  have named : Claims.getString fields "Login" ≠ "" := by
    rw [login]
    decide
  obtain ⟨claims, object⟩ :=
    (sso_claims_assertion_succeeds deployed).1 fields held named
  exact ⟨fields, claims, held, login, object⟩

end Server

end Kubauth
