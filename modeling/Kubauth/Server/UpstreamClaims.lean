import Kubauth.Authenticator.Federation
import Kubauth.Server.UpstreamPrincipal

/-!
# The claims of an upstream login

A federated user is built from the claims of the upstream, after renaming and
then cleanup, or from a local user on top of them.  The first section is about
what cleanup leaves; the second about a local lookup that finds nothing.
-/

namespace Kubauth.Server

namespace OidcServer

/-! ## Technical claims -/

theorem upstreamLoginUser_of_plain {server : OidcServer}
    {login : UpstreamLogin}
    (plain : login.upstream.localEnrichment = false) :
    server.upstreamLoginUser login = login.upstreamUser := by
  rw [upstreamLoginUser, identifyLocally, plain]
  rfl

/-- Without local enrichment, a user that the callback hands over has no
registered claim and no claim listed for removal, whatever the renaming rules
brought there.  All other claims are those of the merged and renamed set. -/
theorem handed_claims_are_cleaned {server : OidcServer}
    {endpoints : UpstreamEndpoints} {now : Int} {request : HttpRequest}
    {session : LoginSession} {login : UpstreamLogin}
    (started : server.startUpstreamLogin endpoints request session =
      .ok login)
    (plain : login.upstream.localEnrichment = false)
    {effect : Effect} {user : OidcUser}
    (member : effect ∈
      server.handleUpstreamCallback endpoints now request session)
    (handed : effect.user? = some user) :
    let renamed := login.upstream.performRenaming login.baseClaims
    let removals := login.upstream.spec.claimRemovals
    (∀ key ∈ oidcIDTokenRegisteredClaims,
        GoMap.get user.claims.entries key = none) ∧
      (∀ key ∈ removals, key ≠ "" →
        GoMap.get user.claims.entries key = none) ∧
      (∀ key, key ∉ oidcIDTokenRegisteredClaims →
        ¬(key ≠ "" ∧ key ∈ removals) →
          GoMap.get user.claims.entries key =
            GoMap.get renamed.entries key) ∧
      ("sub" ∉ removals →
        GoMap.get user.claims.entries "sub" =
          GoMap.get renamed.entries "sub") := by
  obtain nobody | ⟨login', started', concerns⟩ :=
    handleUpstreamCallback_concerns member
  · rw [Effect.login?_of_user? handed] at nobody
    cases nobody
  obtain rfl : login' = login := Except.ok.inj (started'.symm.trans started)
  obtain rfl := concerns.1 user handed
  rw [upstreamLoginUser_of_plain plain]
  have unregistered : "sub" ∉ oidcIDTokenRegisteredClaims := by decide
  refine ⟨?_, ?_, ?_, ?_⟩
  · intro key registered
    exact Upstream.get_cleanupClaims_of_removed _ _ (Or.inl registered)
  · intro key listed proper
    exact Upstream.get_cleanupClaims_of_removed _ _ (Or.inr ⟨proper, listed⟩)
  · intro key fresh unlisted
    exact Upstream.get_cleanupClaims_of_kept _ _ (not_or.mpr ⟨fresh, unlisted⟩)
  · intro unlisted
    exact Upstream.get_cleanupClaims _ _ unregistered unlisted

/-- An upstream that copies the phone number to a registered name, and then
drops it under its own. -/
def copyingUpstream : Upstream :=
  { sampleUpstream with
    spec :=
      { sampleUpstream.spec with
        localEnrichment := some false
        claimRenamings :=
          [{ oldName := "phone", newName := "azp", operation := .copy }]
        claimRemovals := ["phone"] } }

theorem handed_claims_are_cleaned_phone :
    ∃ effect ∈ (upstreamServer copyingUpstream
        (sampleExchange Status.userNotFound)).handleUpstreamCallback
          (sampleEndpoints "token"
            [("sub", .str "alice"), ("phone", .str "555")] []) 0
          sampleCallback sampleSession,
      ∃ user, effect.user? = some user ∧
        GoMap.get user.claims.entries "azp" = none ∧
        GoMap.get user.claims.entries "phone" = none ∧
        GoMap.get user.claims.entries "sub" = some (.str "alice") := by
  obtain ⟨login, started, plain, removals, sub⟩ : ∃ login,
      (upstreamServer copyingUpstream
        (sampleExchange Status.userNotFound)).startUpstreamLogin
          (sampleEndpoints "token"
            [("sub", .str "alice"), ("phone", .str "555")] [])
          sampleCallback sampleSession = .ok login ∧
        login.upstream.localEnrichment = false ∧
        login.upstream.spec.claimRemovals = ["phone"] ∧
        GoMap.get (login.upstream.performRenaming login.baseClaims).entries
          "sub" = some (.str "alice") :=
    ⟨_, rfl, rfl, rfl, rfl⟩
  obtain ⟨effect, member, handed⟩ :=
    handleUpstreamCallback_hands_over started 0
  obtain ⟨registered, listed, -, kept⟩ :=
    handed_claims_are_cleaned started plain member handed
  rw [removals] at listed kept
  exact ⟨effect, member, _, handed, registered "azp" (by decide),
    listed "phone" (by decide) (by decide), (kept (by decide)).trans sub⟩

/-! ## Local enrichment -/

/-- The response of an identity service that knows nothing of a user. -/
structure SaysNothing (response : IdentityResponse) : Prop where
  name : response.user.name = ""
  groups : response.user.groups = []
  emails : response.user.emails = []
  uid : response.user.uid = none
  authority : response.authority = ""
  claims : response.user.claims.entries = []

theorem identify_of_saysNothing {exchange : Exchange} {login : String}
    {response : IdentityResponse}
    (answered : exchange { login := login, password := "" } = .ok response)
    (silent : SaysNothing response) :
    HttpProvider.identify exchange login "" =
      .ok ({ login := login, claims := some [], fullName := "" },
        response.status) := by
  have fit : ∀ key,
      ¬HttpProvider.Misfit response.user.claims.entries key := by
    rintro key ⟨value, found, -⟩
    rw [silent.claims] at found
    cases found
  have empty : HttpProvider.federated response [] = [] := by
    rw [HttpProvider.federated, HttpProvider.additions,
      HttpProvider.federatedGroups, HttpProvider.federatedEmails, silent.name,
      silent.groups, silent.emails, silent.uid, silent.authority]
    rfl
  rw [HttpProvider.identify_of_fit answered (fit _) (fit _), silent.claims,
    silent.name, empty]

end OidcServer

/-- The same login on an upstream that does not ask for local enrichment. -/
def UpstreamLogin.unenriched (login : UpstreamLogin) : UpstreamLogin :=
  { login with
    upstream :=
      { login.upstream with
        spec := { login.upstream.spec with localEnrichment := some false } } }

namespace OidcServer

theorem upstreamLoginUser_unenriched (server : OidcServer)
    (login : UpstreamLogin) :
    server.upstreamLoginUser login.unenriched = login.upstreamUser :=
  upstreamLoginUser_of_plain rfl

theorem upstreamLoginUser_of_saysNothing {server : OidcServer}
    {exchange : Exchange}
    (deployed : server.authenticator = httpProvider exchange)
    {login : UpstreamLogin}
    (enriched : login.upstream.localEnrichment = true)
    (named : login.sub ≠ "") {response : IdentityResponse}
    (answered : exchange { login := login.sub, password := "" } =
      .ok response)
    (silent : SaysNothing response) :
    server.upstreamLoginUser login =
      { login.upstreamUser with fullName := "" } := by
  obtain ⟨entries, told⟩ := login.idClaims_of_sub named
  have lookup : server.identifyLocally login =
      (some (login.enrich
        { login := login.sub, claims := some [], fullName := "" }), none) := by
    simp only [identifyLocally, enriched, deployed, httpProvider,
      identify_of_saysNothing answered silent]
    rfl
  have merged : login.enrich
      { login := login.sub, claims := some [], fullName := "" } =
        { login := login.sub, claims := login.idClaims, fullName := "" } := by
    rw [UpstreamLogin.enrich, told]
    exact congrArg
      (fun claims => OidcUser.mk login.sub (some claims) "")
      (mergeMaps_nil entries)
  rw [upstreamLoginUser, lookup, merged, Option.getD_some,
    UpstreamLogin.upstreamUser]

/-- A local lookup that finds nothing leaves the user as the upstream describes
them, except for a name.  The name of the local user replaces that of the
upstream even when it is empty. -/
theorem enrichment_neutral_iff {server : OidcServer} {exchange : Exchange}
    (deployed : server.authenticator = httpProvider exchange)
    {login : UpstreamLogin}
    (enriched : login.upstream.localEnrichment = true)
    (named : login.sub ≠ "") {response : IdentityResponse}
    (answered : exchange { login := login.sub, password := "" } =
      .ok response)
    (silent : SaysNothing response) :
    server.upstreamLoginUser login =
        server.upstreamLoginUser login.unenriched ↔
      Claims.getString login.idClaims.entries "name" = "" := by
  rw [upstreamLoginUser_unenriched,
    upstreamLoginUser_of_saysNothing deployed enriched named answered silent,
    UpstreamLogin.upstreamUser, OidcUser.mk.injEq]
  simp only [true_and]
  exact eq_comm

/-- A login with these claims, of a user that the local service does not
know. -/
def strangerLogin (claims : Claims) : UpstreamLogin :=
  { upstream := sampleUpstream
    rawQuery := "client_id=app"
    baseClaims := some claims }

def strangerServer : OidcServer :=
  upstreamServer sampleUpstream (sampleExchange Status.userNotFound)

theorem get_strangerLogin (claims : Claims) {key : String}
    (unregistered : key ∉ oidcIDTokenRegisteredClaims) :
    GoMap.get (strangerLogin claims).idClaims.entries key =
      GoMap.get claims key :=
  Upstream.get_cleanupClaims sampleUpstream _ unregistered
    (show key ∉ [] from List.not_mem_nil)

theorem getString_strangerLogin (claims : Claims) {key : String}
    (unregistered : key ∉ oidcIDTokenRegisteredClaims) :
    Claims.getString (strangerLogin claims).idClaims.entries key =
      Claims.getString claims key := by
  rw [Claims.getString, Claims.getString, get_strangerLogin claims unregistered]

theorem sampleExchange_saysNothing (login : String) :
    ∃ response,
      sampleExchange Status.userNotFound { login := login, password := "" } =
          .ok response ∧
        response.status = Status.userNotFound ∧ SaysNothing response :=
  ⟨_, rfl, rfl, ⟨rfl, rfl, rfl, rfl, rfl, rfl⟩⟩

theorem enrichment_neutral_unnamed :
    strangerServer.upstreamLoginUser (strangerLogin [("sub", .str "alice")]) =
      strangerServer.upstreamLoginUser
        (strangerLogin [("sub", .str "alice")]).unenriched := by
  have sub : (strangerLogin [("sub", .str "alice")]).sub = "alice" :=
    getString_strangerLogin _ (by decide)
  have named : (strangerLogin [("sub", .str "alice")]).sub ≠ "" := by
    rw [sub]
    decide
  obtain ⟨response, answered, -, silent⟩ := sampleExchange_saysNothing
    (strangerLogin [("sub", .str "alice")]).sub
  rw [enrichment_neutral_iff rfl rfl named answered silent,
    getString_strangerLogin _ (by decide)]
  rfl

/-- The name that the upstream gives is lost to a local service that does not
know the user. -/
theorem enrichment_forgets_name :
    let login := strangerLogin [("sub", .str "alice"), ("name", .str "Alice")]
    login.sub = "alice" ∧
      (strangerServer.upstreamLoginUser login).fullName = "" ∧
      (strangerServer.upstreamLoginUser login.unenriched).fullName =
        "Alice" := by
  intro login
  have sub : login.sub = "alice" := getString_strangerLogin _ (by decide)
  have named : login.sub ≠ "" := by
    rw [sub]
    decide
  obtain ⟨response, answered, -, silent⟩ :=
    sampleExchange_saysNothing login.sub
  have forgotten : strangerServer.upstreamLoginUser login =
      { login.upstreamUser with fullName := "" } :=
    upstreamLoginUser_of_saysNothing rfl rfl named answered silent
  have name : Claims.getString login.idClaims.entries "name" = "Alice" :=
    getString_strangerLogin _ (by decide)
  refine ⟨sub, by rw [forgotten], ?_⟩
  rw [upstreamLoginUser_unenriched, UpstreamLogin.upstreamUser]
  dsimp only
  rw [name]

end OidcServer

end Kubauth.Server
