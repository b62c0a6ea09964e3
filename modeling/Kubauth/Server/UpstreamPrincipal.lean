import Kubauth.Server.UpstreamCallback

/-!
# The principal of an upstream login

The login of a federated user is read at the end of a pipeline: the claims of
the ID token, the userinfo claims merged on top, renaming, cleanup, and the
local user that bears the `sub` that is left.  This module follows `sub`
through it, for an upstream whose rules do not touch `sub`.
-/

namespace Kubauth.Server

/-! ## The stages of the pipeline -/

theorem verifyIDToken_ok {endpoints : UpstreamEndpoints}
    {session : LoginSession} {upstream : Upstream} {token : Token}
    {idClaims : ClaimSet}
    (verified : verifyIDToken endpoints session upstream token =
      .ok idClaims) :
    (Claims.getString token.extra "id_token" = "" ∧ idClaims = none) ∨
      (Claims.getString token.extra "id_token" ≠ "" ∧
        ∃ claims,
          upstream.parseAndVerifyIDToken endpoints
              (Claims.getString token.extra "id_token") = .ok claims ∧
            (session.getString sessUpstreamNonce ≠ "" →
              Claims.getString claims.entries "nonce" =
                session.getString sessUpstreamNonce) ∧
            idClaims = claims.normalizeStringArray) := by
  simp only [verifyIDToken] at verified
  split at verified
  · next absent =>
      cases verified
      exact .inl ⟨absent, rfl⟩
  · next present =>
      split at verified
      · cases verified
      · next claims accepted =>
          split at verified
          · cases verified
          · next nonce =>
              cases verified
              refine .inr ⟨present, claims, accepted, fun wanted => ?_, rfl⟩
              simpa [wanted] using nonce

theorem mergeUserInfo_ok {endpoints : UpstreamEndpoints}
    {upstream : Upstream} {token : Token} {idClaims baseClaims : ClaimSet}
    (merged : mergeUserInfo endpoints upstream token idClaims =
      .ok baseClaims) :
    (upstream.useUserInfo = false ∧ baseClaims = idClaims) ∨
      (upstream.useUserInfo = true ∧
        ∃ uiClaims,
          upstream.fetchUserInfoClaims endpoints token = .ok uiClaims ∧
            baseClaims = some (mergeMaps idClaims.entries
              uiClaims.normalizeStringArray.entries)) := by
  unfold mergeUserInfo at merged
  split at merged
  · next used =>
      split at merged
      · cases merged
      · next uiClaims fetched =>
          cases merged
          exact .inr ⟨used, uiClaims, fetched, rfl⟩
  · next unused =>
      cases merged
      exact .inl ⟨Bool.eq_false_iff.mpr unused, rfl⟩

theorem mergeUserInfo_of_silent {endpoints : UpstreamEndpoints}
    {upstream : Upstream} {token : Token} {idClaims baseClaims : ClaimSet}
    {key : String}
    (merged : mergeUserInfo endpoints upstream token idClaims =
      .ok baseClaims)
    (silent : ∀ uiClaims, upstream.useUserInfo = true →
      upstream.fetchUserInfoClaims endpoints token = .ok uiClaims →
        GoMap.get uiClaims.entries key = none) :
    Claims.getString baseClaims.entries key =
      Claims.getString idClaims.entries key := by
  rcases mergeUserInfo_ok merged with
    ⟨-, rfl⟩ | ⟨used, uiClaims, fetched, rfl⟩
  · rfl
  · simp [getString_mergeMaps, get_normalizeStringArray,
      silent uiClaims used fetched]

theorem mergeUserInfo_of_spoken {endpoints : UpstreamEndpoints}
    {upstream : Upstream} {token : Token} {idClaims baseClaims : ClaimSet}
    {key : String}
    (merged : mergeUserInfo endpoints upstream token idClaims =
      .ok baseClaims)
    (named : Claims.getString baseClaims.entries key ≠ "")
    {uiClaims : ClaimSet} {value : Value}
    (used : upstream.useUserInfo = true)
    (fetched : upstream.fetchUserInfoClaims endpoints token = .ok uiClaims)
    (spoken : GoMap.get uiClaims.entries key = some value) :
    value = .str (Claims.getString baseClaims.entries key) := by
  rcases mergeUserInfo_ok merged with
    ⟨unused, -⟩ | ⟨-, uiClaims', fetched', rfl⟩
  · rw [used] at unused
    cases unused
  · obtain rfl : uiClaims' = uiClaims :=
      Except.ok.inj (fetched'.symm.trans fetched)
    have told : Claims.getString uiClaims'.entries key =
        Claims.getString (mergeMaps idClaims.entries
          uiClaims'.normalizeStringArray.entries) key := by
      simp [getString_mergeMaps, get_normalizeStringArray, spoken]
    have read := Claims.get_of_getString told named
    exact Option.some.inj (spoken.symm.trans read)

theorem mergeUserInfo_of_no_token {endpoints : UpstreamEndpoints}
    {upstream : Upstream} {token : Token} {baseClaims : ClaimSet}
    {key : String}
    (merged : mergeUserInfo endpoints upstream token none = .ok baseClaims)
    (named : Claims.getString baseClaims.entries key ≠ "") :
    upstream.useUserInfo = true ∧
      ∃ uiClaims,
        upstream.fetchUserInfoClaims endpoints token = .ok uiClaims ∧
          GoMap.get uiClaims.entries key =
            some (.str (Claims.getString baseClaims.entries key)) := by
  rcases mergeUserInfo_ok merged with
    ⟨-, rfl⟩ | ⟨used, uiClaims, fetched, -⟩
  · exact absurd rfl named
  · refine ⟨used, uiClaims, fetched, ?_⟩
    cases spoken : GoMap.get uiClaims.entries key with
    | none =>
        rw [mergeUserInfo_of_silent merged fun other _ answered => by
          rw [← Except.ok.inj (fetched.symm.trans answered), spoken]] at named
        exact absurd rfl named
    | some value =>
        rw [mergeUserInfo_of_spoken merged named used fetched spoken]

namespace OidcServer

theorem callbackUpstream_ok {server : OidcServer} {request : HttpRequest}
    {session : LoginSession} {upstream : Upstream}
    {settings : OAuth2AuthCodeSettings}
    (accepted : server.callbackUpstream request session =
      .ok (upstream, settings)) :
    server.storage.getUpstream (session.getString sessUpstreamProvider) =
        some upstream ∧
      upstream.oAuth2AuthCodeSettings = some settings := by
  simp only [callbackUpstream] at accepted
  split_ifs at accepted
  split at accepted
  · cases accepted
  · next found =>
      split at accepted
      · cases accepted
      · next configured =>
          cases accepted
          exact ⟨found, configured⟩

theorem startUpstreamLogin_ok {server : OidcServer}
    {endpoints : UpstreamEndpoints} {request : HttpRequest}
    {session : LoginSession} {login : UpstreamLogin}
    (started : server.startUpstreamLogin endpoints request session =
      .ok login) :
    ∃ settings token idClaims,
      server.callbackUpstream request session =
          .ok (login.upstream, settings) ∧
        exchangeCode endpoints session settings
            ((server.query request).first "code") = .ok token ∧
        verifyIDToken endpoints session login.upstream token =
          .ok idClaims ∧
        mergeUserInfo endpoints login.upstream token idClaims =
          .ok login.baseClaims := by
  simp only [startUpstreamLogin, bind, Except.bind] at started
  split at started
  · cases started
  · next pair accepted =>
      split at started
      · cases started
      · next token exchanged =>
          split at started
          · cases started
          · next idClaims verified =>
              split at started
              · cases started
              · next baseClaims merged =>
                  cases started
                  exact ⟨pair.2, token, idClaims, accepted, exchanged,
                    verified, merged⟩

/-- The deployed authenticator finds a user under the name it asked for. -/
theorem upstreamLoginUser_login {server : OidcServer} {exchange : Exchange}
    (deployed : server.authenticator = httpProvider exchange)
    (login : UpstreamLogin) :
    (server.upstreamLoginUser login).login = login.sub := by
  unfold upstreamLoginUser identifyLocally
  split
  · simp only [deployed, httpProvider]
    cases identified : HttpProvider.identify exchange login.sub "" with
    | error failure => rfl
    | ok found => exact (HttpProvider.identify_ok identified).1
  · rfl

end OidcServer

/-- Rules that do not touch `sub` hand on the `sub` of the merged claims. -/
theorem UpstreamLogin.sub_eq (login : UpstreamLogin)
    (unnamed : ∀ rule ∈ login.upstream.spec.claimRenamings,
      rule.oldName ≠ "sub" ∧ rule.newName ≠ "sub")
    (unlisted : "sub" ∉ login.upstream.spec.claimRemovals) :
    login.sub = Claims.getString login.baseClaims.entries "sub" := by
  have unregistered : "sub" ∉ oidcIDTokenRegisteredClaims := by decide
  unfold UpstreamLogin.sub UpstreamLogin.idClaims Claims.getString
  rw [Upstream.get_cleanupClaims _ _ unregistered unlisted,
    Upstream.get_performRenaming _ _ unnamed]

/-! ## Where the login comes from -/

namespace OidcServer

/-- The userinfo claims speak first, then the verified ID token.  A token
response with an ID token that does not verify completes no login, and one
without an ID token completes a login on the word of userinfo alone. -/
theorem completed_login_is_the_federated_sub {server : OidcServer}
    {exchange : Exchange}
    (deployed : server.authenticator = httpProvider exchange)
    {endpoints : UpstreamEndpoints} {now : Int} {request : HttpRequest}
    {session : LoginSession} {upstream : Upstream}
    (chosen : server.storage.getUpstream
      (session.getString sessUpstreamProvider) = some upstream)
    {settings : OAuth2AuthCodeSettings}
    (configured : upstream.oAuth2AuthCodeSettings = some settings)
    {token : Token}
    (exchanged : exchangeCode endpoints session settings
      ((server.query request).first "code") = .ok token)
    (unnamed : ∀ rule ∈ upstream.spec.claimRenamings,
      rule.oldName ≠ "sub" ∧ rule.newName ≠ "sub")
    (unlisted : "sub" ∉ upstream.spec.claimRemovals)
    {effect : Effect} {user : OidcUser}
    (member : effect ∈
      server.handleUpstreamCallback endpoints now request session)
    (handed : effect.user? = some user) (named : user.login ≠ "") :
    let rawID := Claims.getString token.extra "id_token"
    (rawID ≠ "" →
      ∃ claims,
        upstream.parseAndVerifyIDToken endpoints rawID = .ok claims ∧
          (session.getString sessUpstreamNonce ≠ "" →
            Claims.getString claims.entries "nonce" =
              session.getString sessUpstreamNonce) ∧
          ((∀ uiClaims, upstream.useUserInfo = true →
              upstream.fetchUserInfoClaims endpoints token = .ok uiClaims →
                GoMap.get uiClaims.entries "sub" = none) →
            GoMap.get claims.entries "sub" = some (.str user.login))) ∧
      (∀ uiClaims value, upstream.useUserInfo = true →
        upstream.fetchUserInfoClaims endpoints token = .ok uiClaims →
          GoMap.get uiClaims.entries "sub" = some value →
            value = .str user.login) ∧
      (rawID = "" →
        upstream.useUserInfo = true ∧
          ∃ uiClaims,
            upstream.fetchUserInfoClaims endpoints token = .ok uiClaims ∧
              GoMap.get uiClaims.entries "sub" =
                some (.str user.login)) := by
  obtain nobody | ⟨login, started, concerns⟩ :=
    handleUpstreamCallback_concerns member
  · rw [Effect.login?_of_user? handed] at nobody
    cases nobody
  obtain rfl := concerns.1 user handed
  rw [upstreamLoginUser_login deployed] at named ⊢
  obtain ⟨settings', token', idClaims, accepted, answered, verified, merged⟩ :=
    startUpstreamLogin_ok started
  obtain ⟨found, configured'⟩ := callbackUpstream_ok accepted
  -- the stages ran on the upstream, the settings and the token of the claim
  obtain rfl : login.upstream = upstream :=
    Option.some.inj (found.symm.trans chosen)
  obtain rfl : settings' = settings :=
    Option.some.inj (configured'.symm.trans configured)
  obtain rfl : token' = token :=
    Except.ok.inj (answered.symm.trans exchanged)
  rw [login.sub_eq unnamed unlisted] at named ⊢
  have spoken : ∀ uiClaims value, login.upstream.useUserInfo = true →
      login.upstream.fetchUserInfoClaims endpoints token' = .ok uiClaims →
        GoMap.get uiClaims.entries "sub" = some value →
          value = .str (Claims.getString login.baseClaims.entries "sub") :=
    fun _ _ => mergeUserInfo_of_spoken merged named
  rcases verifyIDToken_ok verified with
    ⟨absent, rfl⟩ | ⟨present, claims, parsed, nonce, rfl⟩
  · exact ⟨fun present => absurd absent present, spoken,
      fun _ => mergeUserInfo_of_no_token merged named⟩
  · refine ⟨fun _ => ⟨claims, parsed, nonce, fun silent => ?_⟩,
      spoken, fun absent => absurd absent present⟩
    have same := mergeUserInfo_of_silent merged silent
    rw [ClaimSet.entries_normalizeStringArray,
      getString_normalizeStringArray] at same
    exact Claims.get_of_getString same.symm named

/-- An upstream that is asked for its userinfo claims. -/
def talkativeUpstream : Upstream :=
  { sampleUpstream with
    spec := { sampleUpstream.spec with useUserInfo := true } }

/-- The callback of an upstream with these answers. -/
def sampleTrace (idToken : String) (idClaims userInfo : Claims) :
    List Effect :=
  (upstreamServer talkativeUpstream
    (sampleExchange Status.userNotFound)).handleUpstreamCallback
      (sampleEndpoints idToken idClaims userInfo) 0 sampleCallback
      sampleSession

/-- The user with this login and no claim but `sub`. -/
def bareUser (login : String) : OidcUser :=
  { login := login
    claims := some [("sub", .str login)]
    fullName := "" }

theorem completed_login_is_the_federated_sub_alice :
    ∃ user : OidcUser,
      Effect.putSsoUser user ∈
          sampleTrace "token" [("sub", .str "alice")] [] ∧
        user.login = "alice" := by
  let server := upstreamServer talkativeUpstream
    (sampleExchange Status.userNotFound)
  have deployed : server.authenticator =
      httpProvider (sampleExchange Status.userNotFound) := rfl
  have chosen : server.storage.getUpstream
      (sampleSession.getString sessUpstreamProvider) =
        some talkativeUpstream := rfl
  have member : Effect.putSsoUser (bareUser "alice") ∈
      sampleTrace "token" [("sub", .str "alice")] [] :=
    List.mem_of_getElem? (i := 6) rfl
  obtain ⟨verified, -, -⟩ := completed_login_is_the_federated_sub deployed
    chosen rfl rfl (by decide) (by decide) member rfl (by decide)
  obtain ⟨claims, parsed, -, tells⟩ := verified (by decide)
  obtain rfl : claims = some [("sub", .str "alice")] :=
    (Except.ok.inj parsed).symm
  have told := tells fun uiClaims _ fetched => by
    obtain rfl : uiClaims = some [] := (Except.ok.inj fetched).symm
    rfl
  refine ⟨bareUser "alice", member, ?_⟩
  exact (Value.str.inj (Option.some.inj told)).symm

/-- Userinfo overrides the verified principal, and stands in for it when the
token response has no ID token. -/
theorem completed_login_is_not_the_verified_sub :
    Effect.putSsoUser (bareUser "mallory") ∈
        sampleTrace "token" [("sub", .str "alice")]
          [("sub", .str "mallory")] ∧
      Effect.putSsoUser (bareUser "mallory") ∈
        sampleTrace "" [] [("sub", .str "mallory")] :=
  ⟨List.mem_of_getElem? (i := 6) rfl, List.mem_of_getElem? (i := 6) rfl⟩

end OidcServer

end Kubauth.Server
