import Kubauth.Server.Browser

/-!
# Who is remembered

The user of the SSO session is stored by three handlers: the login page, the
callback of an upstream login, and the page that confirms one, which takes its
user from the login session.  Whoever is stored was authenticated in the same
browser, the mode allows it, and in the mode on demand the request that stored
the user asked for it.
-/

namespace Kubauth.Server

/-! ## The history of authentications -/

/-- The time of the latest request that authenticated the login. -/
def lastAuthentication (login : String) : List Visit → Option Int
  | [] => none
  | visit :: past =>
      match visit.authenticated? (reach past) with
      | some user =>
          if user.login = login then some visit.now
          else lastAuthentication login past
      | none => lastAuthentication login past

/-- The login was authenticated in the history. -/
def WasAuthenticated (login : String) (history : List Visit) : Prop :=
  ∃ time, lastAuthentication login history = some time

theorem lastAuthentication_of_authenticated? {visit : Visit}
    {past : List Visit} {user : OidcUser}
    (authenticated : visit.authenticated? (reach past) = some user) :
    lastAuthentication user.login (visit :: past) = some visit.now := by
  simp [lastAuthentication, authenticated]

theorem WasAuthenticated.cons {login : String} {past : List Visit}
    (before : WasAuthenticated login past) (visit : Visit) :
    WasAuthenticated login (visit :: past) := by
  obtain ⟨time, last⟩ := before
  cases authenticated : visit.authenticated? (reach past) with
  | none => exact ⟨time, by simp [lastAuthentication, authenticated, last]⟩
  | some user =>
      by_cases same : user.login = login
      · exact ⟨visit.now, by simp [lastAuthentication, authenticated, same]⟩
      · exact ⟨time,
          by simp [lastAuthentication, authenticated, same, last]⟩

/-! ## What a request does to the users that are kept -/

def Effect.storesSso : Effect → Bool
  | .putSsoUser _ => true
  | _ => false

namespace Visit

/-- The request stores an SSO user. -/
def storesSso (visit : Visit) (browser : Browser) : Bool :=
  visit.ssoOutcome = .stored ∧
    (visit.sessionEffects browser).any Effect.storesSso

/-- The user asks to be remembered. -/
def remember (visit : Visit) : Bool :=
  visit.request.method = "POST" ∧
    visit.request.postForm.first "remember" = "on"

/-- Why a request may store an SSO user. -/
inductive Grounds (visit : Visit) (browser : Browser) (user : OidcUser) :
    Prop where
  | password :
      visit.route = .login →
      visit.authenticated? browser = some user →
      (visit.server.ssoMode = .always ∨
        visit.server.ssoMode = .onDemand ∧ visit.remember = true) →
      Grounds visit browser user
  | upstream :
      visit.authenticated? browser = some user →
      visit.server.ssoMode = .always →
      Grounds visit browser user
  | confirmation {pending : OidcUser} :
      visit.route = .upstreamWelcome →
      browser.login.pendingUpstreamUser = some pending →
      user = pending.decoded →
      visit.server.ssoMode = .onDemand →
      visit.remember = true →
      Grounds visit browser user

/-- What the handler itself does: it forgets the user, or stores none, or
stores one with good reason. -/
theorem Grounds.of_acts {visit : Visit} {browser : Browser}
    {effects : List Effect} (acts : Acts visit browser effects) :
    (browser.commit effects).ssoUser = none ∨
      (effects.any Effect.storesSso = false ∧
        (browser.commit effects).ssoUser = browser.ssoUser) ∨
      ∃ user, effects.any Effect.storesSso = true ∧
        (browser.commit effects).ssoUser = some user.decodedValue ∧
        visit.Grounds browser user := by
  cases acts with
  | idle idle => exact .inr (.inl ⟨rfl, rfl⟩)
  | rendered route get => exact .inr (.inl ⟨rfl, rfl⟩)
  | panicked route => exact .inr (.inl ⟨rfl, rfl⟩)
  | @remembered user route post authenticated remembers =>
      refine .inr (.inr ⟨user, rfl, rfl, .password route authenticated ?_⟩)
      simpa [OidcServer.remembers, remember, post] using remembers
  | @started flow started =>
      unfold UpstreamFlow.puts
      cases flow.verifier <;> exact .inr (.inl ⟨rfl, rfl⟩)
  | @accepted endpoints login route started =>
      have authenticated : visit.authenticated? browser =
          some (visit.server.upstreamLoginUser login) := by
        simp [authenticated?, route, started]
      cases mode : visit.server.ssoMode with
      | always =>
          exact .inr (.inr ⟨_, rfl, rfl, .upstream authenticated mode⟩)
      | onDemand => exact .inr (.inl ⟨rfl, rfl⟩)
      | never => exact .inr (.inl ⟨rfl, rfl⟩)
  | @confirmed user route post mode loaded =>
      obtain ⟨pending, left, -, same⟩ :=
        loadPendingUpstreamUser_eq_some_iff.mp loaded
      split
      · next asked =>
          refine .inr (.inr ⟨user, rfl, rfl, .confirmation route left same
            mode ?_⟩)
          simp [remember, post, asked]
      · exact .inr (.inl ⟨rfl, rfl⟩)
  | loggedOut route => exact .inl rfl

theorem next_sso_cases (visit : Visit) (browser : Browser) :
    (visit.next browser).ssoUser = none ∨
      (visit.storesSso browser = false ∧
        (visit.next browser).ssoUser = browser.ssoUser) ∨
      ∃ user, visit.storesSso browser = true ∧
        (visit.next browser).ssoUser = some user.decodedValue ∧
        visit.Grounds browser user := by
  have handled := Grounds.of_acts (visit.acts browser)
  unfold next storesSso
  rw [visit.store_effects]
  cases visit.ssoOutcome with
  | stored => simpa using handled
  | kept => exact .inr (.inl ⟨by simp, rfl⟩)
  | lost => exact .inl rfl

theorem next_pending_cases (visit : Visit) (browser : Browser) :
    (visit.next browser).login.pendingUpstreamUser = none ∨
      (visit.next browser).login.pendingUpstreamUser =
        browser.login.pendingUpstreamUser ∨
      ∃ user, (visit.next browser).login.pendingUpstreamUser = some user ∧
        visit.authenticated? browser = some user := by
  rcases visit.next_login browser with expired | stored
  · rw [expired]
    exact .inl rfl
  rw [stored]
  have acts := visit.acts browser
  generalize visit.sessionEffects browser = effects at acts ⊢
  cases acts with
  | idle idle => exact .inr (.inl rfl)
  | rendered route get => exact .inr (.inl rfl)
  | panicked route => exact .inr (.inl rfl)
  | remembered route post authenticated remembers => exact .inr (.inl rfl)
  | @started flow started =>
      unfold UpstreamFlow.puts
      cases flow.verifier <;> exact .inr (.inl rfl)
  | @accepted endpoints login route started =>
      cases visit.server.ssoMode with
      | onDemand =>
          refine .inr (.inr ⟨_, rfl, ?_⟩)
          simp [authenticated?, route, started]
      | always => exact .inr (.inl rfl)
      | never => exact .inr (.inl rfl)
  | confirmed route post mode loaded =>
      split <;> exact .inl rfl
  | loggedOut route => exact .inl rfl

end Visit

/-! ## Along a history -/

/-- The sessions keep only users with the property, one of them decoded. -/
structure KeepsUsers (holds : OidcUser → Prop) (browser : Browser) :
    Prop where
  sso : ∀ value, browser.ssoUser = some value →
    ∃ user : OidcUser, value = user.decodedValue ∧ holds user
  pending : ∀ user, browser.login.pendingUpstreamUser = some user → holds user

/-- Step: a request keeps the users that it authenticates, and the pending user
once it was decoded. -/
theorem KeepsUsers.next {holds : OidcUser → Prop} {browser : Browser}
    (keeps : KeepsUsers holds browser)
    (decoded : ∀ user, holds user → holds user.decoded) {visit : Visit}
    (produced : ∀ user, visit.authenticated? browser = some user →
      holds user) :
    KeepsUsers holds (visit.next browser) where
  sso := by
    intro value held
    rcases visit.next_sso_cases browser with
      gone | ⟨-, same⟩ | ⟨user, -, stored, grounds⟩
    · rw [gone] at held
      cases held
    · rw [same] at held
      exact keeps.sso value held
    · rw [stored] at held
      refine ⟨user, (Option.some.inj held).symm, ?_⟩
      cases grounds with
      | password route authenticated allowed =>
          exact produced user authenticated
      | upstream authenticated mode => exact produced user authenticated
      | confirmation route left same mode asked =>
          rw [same]
          exact decoded _ (keeps.pending _ left)
  pending := by
    intro user left
    rcases visit.next_pending_cases browser with
      none | same | ⟨other, stored, authenticated⟩
    · rw [none] at left
      cases left
    · rw [same] at left
      exact keeps.pending user left
    · rw [stored] at left
      obtain rfl : other = user := Option.some.inj left
      exact produced other authenticated

theorem keepsUsers_new (holds : OidcUser → Prop) :
    KeepsUsers holds Browser.new :=
  ⟨nofun, nofun⟩

/-- The users that the sessions keep were authenticated. -/
structure KeepsAuthenticated (history : List Visit) : Prop where
  sso : ∀ value, (reach history).ssoUser = some value →
    ∃ user : OidcUser, value = user.decodedValue ∧
      WasAuthenticated user.login history
  pending : ∀ user,
    (reach history).login.pendingUpstreamUser = some user →
      WasAuthenticated user.login history

theorem KeepsAuthenticated.step {past : List Visit}
    (keeps : KeepsAuthenticated past) (visit : Visit) :
    KeepsAuthenticated (visit :: past) := by
  have before : KeepsUsers
      (fun user => WasAuthenticated user.login (visit :: past))
      (reach past) := by
    constructor
    · intro value held
      obtain ⟨user, shape, earlier⟩ := keeps.sso value held
      exact ⟨user, shape, earlier.cons visit⟩
    · intro user left
      exact (keeps.pending user left).cons visit
  have after := before.next (fun _ authenticated => authenticated)
    fun user authenticated =>
      ⟨_, lastAuthentication_of_authenticated? authenticated⟩
  exact ⟨after.sso, after.pending⟩

theorem keepsAuthenticated (history : List Visit) :
    KeepsAuthenticated history := by
  induction history with
  | nil => exact ⟨nofun, nofun⟩
  | cons visit past induction => exact induction.step visit

/-- The latest request that stored an SSO user, and the history before it. -/
def ssoOrigin : List Visit → Option (Visit × List Visit)
  | [] => none
  | visit :: past =>
      if visit.storesSso (reach past) then some (visit, past)
      else ssoOrigin past

/-- The request asked for the user to be remembered, and either authenticated
the user by a password or confirmed the user that was pending. -/
def Consented (origin : Visit × List Visit) (login : String) : Prop :=
  origin.1.remember = true ∧
    ((origin.1.route = .login ∧
        ∃ user, origin.1.authenticated? (reach origin.2) = some user ∧
          user.login = login) ∨
      origin.1.route = .upstreamWelcome ∧
        ∃ user,
          (reach origin.2).login.pendingUpstreamUser = some user ∧
            user.login = login)

/-- The mode allows the SSO user that is held, and on demand its origin has
consented. -/
def Allows (mode : SsoMode) (history : List Visit) : Prop :=
  ∀ value, (reach history).ssoUser = some value →
    mode ≠ .never ∧
      (mode = .onDemand → ∃ (user : OidcUser) (origin : Visit × List Visit),
        value = user.decodedValue ∧ ssoOrigin history = some origin ∧
          Consented origin user.login)

theorem Visit.Grounds.consented {visit : Visit} {past : List Visit}
    {user : OidcUser} (grounds : visit.Grounds (reach past) user)
    (mode : visit.server.ssoMode = .onDemand) :
    Consented (visit, past) user.login := by
  cases grounds with
  | password route authenticated allowed =>
      rcases allowed with always | ⟨-, asked⟩
      · cases mode.symm.trans always
      · exact ⟨asked, .inl ⟨route, user, authenticated, rfl⟩⟩
  | upstream authenticated always => cases mode.symm.trans always
  | @confirmation pending route left same _ asked =>
      refine ⟨asked, .inr ⟨route, pending, left, ?_⟩⟩
      rw [same]
      rfl

theorem Visit.Grounds.mode_ne_never {visit : Visit} {browser : Browser}
    {user : OidcUser} (grounds : visit.Grounds browser user) :
    visit.server.ssoMode ≠ .never := by
  intro never
  cases grounds with
  | password route authenticated allowed =>
      rcases allowed with always | ⟨demand, -⟩
      · cases never.symm.trans always
      · cases never.symm.trans demand
  | upstream authenticated always => cases never.symm.trans always
  | confirmation route left same demand asked =>
      cases never.symm.trans demand

theorem allows_of_mode {mode : SsoMode} {history : List Visit}
    (configured : ∀ visit ∈ history, visit.server.ssoMode = mode) :
    Allows mode history := by
  induction history with
  | nil =>
      intro value held
      cases held
  | cons visit past induction =>
      have before := induction fun other member =>
        configured other (List.mem_cons_of_mem visit member)
      have own : visit.server.ssoMode = mode :=
        configured visit List.mem_cons_self
      intro value held
      rcases visit.next_sso_cases (reach past) with
        gone | ⟨unstored, same⟩ | ⟨user, stores, stored, grounds⟩
      · rw [reach, gone] at held
        cases held
      · rw [reach, same] at held
        obtain ⟨allowed, consent⟩ := before value held
        refine ⟨allowed, fun demand => ?_⟩
        obtain ⟨user, origin, shape, found, consented⟩ := consent demand
        exact ⟨user, origin, shape, by simp [ssoOrigin, unstored, found],
          consented⟩
      · rw [reach, stored] at held
        refine ⟨own ▸ grounds.mode_ne_never, fun demand => ?_⟩
        exact ⟨user, (visit, past), (Option.some.inj held).symm,
          by simp [ssoOrigin, stores], grounds.consented (own.trans demand)⟩

/-- The login of the SSO user, empty when there is none. -/
def Browser.ssoLogin (browser : Browser) : String :=
  match browser.ssoUser with
  | some (.map user) => Claims.getString user "Login"
  | _ => ""

theorem Browser.ssoLogin_of_ssoUser {browser : Browser} {user : OidcUser}
    (held : browser.ssoUser = some user.decodedValue) :
    browser.ssoLogin = user.login := by
  simp [ssoLogin, held, OidcUser.decodedValue, Claims.getString, GoMap.get]

theorem Browser.ssoUser_of_ssoLogin {browser : Browser}
    (named : browser.ssoLogin ≠ "") :
    ∃ value, browser.ssoUser = some value := by
  cases held : browser.ssoUser with
  | none => simp [ssoLogin, held] at named
  | some value => exact ⟨value, rfl⟩

/-- In every state that a browser can reach, the principal of its SSO session
was authenticated before, the mode is not never, and on demand the request
that stored the principal carried the consent. -/
theorem sso_principal_authenticated (mode : SsoMode) (history : List Visit)
    (login : String)
    (configured : ∀ visit ∈ history, visit.server.ssoMode = mode)
    (held : (reach history).ssoLogin = login) (named : login ≠ "") :
    mode ≠ .never ∧
      (∃ time, lastAuthentication login history = some time) ∧
      (mode = .onDemand → ∃ origin, ssoOrigin history = some origin ∧
        Consented origin login) := by
  rw [← held] at named
  obtain ⟨value, stored⟩ := Browser.ssoUser_of_ssoLogin named
  obtain ⟨user, shape, authenticated⟩ :=
    (keepsAuthenticated history).sso value stored
  obtain ⟨allowed, consent⟩ := allows_of_mode configured value stored
  have same (other : OidcUser) (form : value = other.decodedValue) :
      other.login = login := by
    rw [form] at stored
    rw [← held, Browser.ssoLogin_of_ssoUser stored]
  refine ⟨allowed, ?_, fun demand => ?_⟩
  · rw [← same user shape]
    exact authenticated
  · obtain ⟨other, origin, form, found, consented⟩ := consent demand
    refine ⟨origin, found, ?_⟩
    rw [← same other form]
    exact consented

theorem sso_principal_authenticated_sample :
    (reach (sampleLogin .onDemand)).ssoLogin = "alice" ∧
      ∃ origin, ssoOrigin (sampleLogin .onDemand) = some origin ∧
        Consented origin "alice" := by
  have held : (reach (sampleLogin .onDemand)).ssoLogin = "alice" := rfl
  have configured : ∀ visit ∈ sampleLogin .onDemand,
      visit.server.ssoMode = .onDemand := by
    intro visit member
    rcases List.mem_pair.mp member with rfl | rfl <;> rfl
  exact ⟨held, (sso_principal_authenticated .onDemand (sampleLogin .onDemand)
    "alice" configured held (by decide)).2.2 rfl⟩

end Kubauth.Server
