import Kubauth.Api
import Kubauth.Claims

/-!
# Upstream identity providers

The in-memory form of an `UpstreamProvider` resource, how it is built, and the
two transformations that it applies to the claims of a federated user:
renaming first, then the removal of technical claims.

An upstream keeps what the library for OIDC discovery answered when it was
built.  The answers of its token and userinfo endpoints come later and belong
to the request that asks for them.
-/

namespace Kubauth

/-- The registered ID token claims that are removed.  `sub` is not one of
them: it is kept as the principal identifier. -/
def oidcIDTokenRegisteredClaims : List String :=
  ["iss", "aud", "exp", "iat", "auth_time", "nonce", "acr", "amr", "azp",
    "at_hash", "c_hash"]

/-- The endpoints that a discovered or configured OIDC provider announces. -/
structure OidcProvider where
  authURL : String
  tokenURL : String
  deviceAuthURL : String
  userInfoEndpoint : String
  deriving Repr, DecidableEq, Inhabited

structure ExtraConfig where
  introspectionURL : String
  endSessionURL : String
  jwksURL : String
  algorithms : List String
  codeChallengeMethods : List String
  deriving Repr, DecidableEq, Inhabited

structure Upstream where
  name : String
  spec : UpstreamProviderSpec
  clientSecret : String
  provider : Option OidcProvider
  extraConfig : ExtraConfig
  deriving Repr, DecidableEq, Inhabited

/-- `OAuth2AuthCodeSettings`; the endpoint is that of the provider. -/
structure OAuth2AuthCodeSettings where
  clientID : String
  clientSecret : String
  redirectURL : String
  endpoint : OidcProvider
  supportsPKCES256 : Bool
  scopes : List String
  deriving Repr, DecidableEq, Inhabited

/-- What the token endpoint of an upstream answered.  `extra` holds the fields
of the response beyond the standard ones, `id_token` among them. -/
structure Token where
  accessToken : String
  extra : Claims
  deriving Repr, Inhabited

/-- The answers of an upstream during a login: the exchange of a code, with
the PKCE verifier if there is one, the verification of a raw ID token for a
client, and the userinfo endpoint. -/
structure UpstreamEndpoints where
  exchange : OAuth2AuthCodeSettings → String → Option String →
    Except String Token
  verify : OidcProvider → String → String → Except String ClaimSet
  userInfo : OidcProvider → Token → Except String ClaimSet

/-- `httpclient.Config`, as filled in for an upstream. -/
structure HttpClientConfig where
  baseURL : String
  rootCaBytes : List String
  insecureSkipVerify : Bool
  dumpExchanges : Bool
  label : String
  deriving Repr, DecidableEq, Inhabited

/-- What the HTTP client constructor and the discovery of the issuer answer at
the moment an upstream is built. -/
structure Discovery where
  newHttpClient : HttpClientConfig → Option String
  newProvider : String → Except String OidcProvider
  claims : OidcProvider → Except String ExtraConfig

namespace Upstream

def noExtraConfig : ExtraConfig :=
  { introspectionURL := ""
    endSessionURL := ""
    jwksURL := ""
    algorithms := []
    codeChallengeMethods := [] }

/-- `ToOIDCProviderConfig` followed by `NewProvider`: no network is used. -/
def explicitProvider (config : UpstreamProviderConfig) : OidcProvider :=
  { authURL := config.authURL
    tokenURL := config.tokenURL
    deviceAuthURL := config.deviceAuthURL
    userInfoEndpoint := config.userInfoURL }

def httpClientConfig (resource : UpstreamProvider) (caPEM : String) :
    HttpClientConfig :=
  { baseURL := resource.spec.issuerURL
    rootCaBytes := if caPEM = "" then [] else [caPEM]
    insecureSkipVerify := resource.spec.insecureSkipVerify
    dumpExchanges := resource.spec.dumpExchanges
    label := "upstreamProvider/" ++ resource.metadata.name }

/-- An internal upstream has no provider and cannot fail. -/
def internal (resource : UpstreamProvider) : Upstream :=
  { name := resource.metadata.name
    spec := resource.spec
    clientSecret := ""
    provider := none
    extraConfig := noExtraConfig }

/-- `NewInternalUpstream`: what the login page falls back to. -/
def newInternalUpstream (defaultLoginLabel : String) : Upstream :=
  { (default : Upstream) with
    name := "internal"
    spec :=
      { (default : UpstreamProviderSpec) with
        type := .internal
        displayName := defaultLoginLabel } }

/-- `NewUpstream`. -/
def new (discovery : Discovery) (resource : UpstreamProvider)
    (clientSecret caPEM : String) : Except String Upstream :=
  let spec := resource.spec
  if spec.type = .internal then .ok (internal resource)
  else
    match discovery.newHttpClient (httpClientConfig resource caPEM) with
    | some failure => .error ("error creating http client: " ++ failure)
    | none =>
        let built (provider : OidcProvider) (extraConfig : ExtraConfig) :
            Upstream :=
          { name := resource.metadata.name
            spec := spec
            clientSecret := clientSecret
            provider := some provider
            extraConfig := extraConfig }
        match spec.explicitConfig with
        | none =>
            match discovery.newProvider spec.issuerURL with
            | .error failure =>
                .error ("error on upstream oidc provider: " ++ failure)
            | .ok provider =>
                match discovery.claims provider with
                | .error failure =>
                    .error
                      ("error fetching complementary endpoints: " ++ failure)
                | .ok extraConfig => .ok (built provider extraConfig)
        | some config =>
            .ok (built (explicitProvider config)
              { introspectionURL := config.introspectionURL
                endSessionURL := config.endSessionURL
                jwksURL := config.jwksURL
                algorithms := config.algorithms
                codeChallengeMethods := [] })

def getDisplayName (upstream : Upstream) : String :=
  if upstream.spec.displayName ≠ "" then upstream.spec.displayName
  else upstream.name

def localEnrichment (upstream : Upstream) : Bool :=
  boolPtrTrue upstream.spec.localEnrichment

def useUserInfo (upstream : Upstream) : Bool :=
  upstream.spec.useUserInfo

/-- `GetEffectiveConfig`, which the controller copies to the status. -/
def getEffectiveConfig (upstream : Upstream) :
    Option UpstreamProviderConfig :=
  upstream.provider.map fun provider =>
    { authURL := provider.authURL
      tokenURL := provider.tokenURL
      deviceAuthURL := provider.deviceAuthURL
      userInfoURL := provider.userInfoEndpoint
      jwksURL := upstream.extraConfig.jwksURL
      algorithms := upstream.extraConfig.algorithms
      introspectionURL := upstream.extraConfig.introspectionURL
      endSessionURL := upstream.extraConfig.endSessionURL }

def supportsPKCES256 (upstream : Upstream) : Bool :=
  "S256" ∈ upstream.extraConfig.codeChallengeMethods

/-- Internal upstreams have no settings for the code flow. -/
def oAuth2AuthCodeSettings (upstream : Upstream) :
    Option OAuth2AuthCodeSettings :=
  upstream.provider.map fun provider =>
    { clientID := upstream.spec.clientId
      clientSecret := upstream.clientSecret
      redirectURL := upstream.spec.redirectURL
      endpoint := provider
      supportsPKCES256 := upstream.supportsPKCES256
      scopes := upstream.spec.scopes }

def parseAndVerifyIDToken (upstream : Upstream)
    (endpoints : UpstreamEndpoints) (rawIDToken : String) :
    Except String ClaimSet :=
  match upstream.provider with
  | none => .error "upstream has no OIDC provider"
  | some provider =>
      endpoints.verify provider upstream.spec.clientId rawIDToken

/-- No endpoint means no claims, and no error either. -/
def fetchUserInfoClaims (upstream : Upstream)
    (endpoints : UpstreamEndpoints) (token : Token) :
    Except String ClaimSet :=
  match upstream.provider with
  | none => .ok none
  | some provider =>
      if provider.userInfoEndpoint = "" then .ok none
      else endpoints.userInfo provider token

/-- `CleanupClaims`. -/
def cleanupClaims (upstream : Upstream) (claims : ClaimSet) : ClaimSet :=
  claims.map fun out =>
    (upstream.spec.claimRemovals.filter fun name => name ≠ "").foldl
      GoMap.delete (oidcIDTokenRegisteredClaims.foldl GoMap.delete out)

/-- One rule of `PerformRenaming`. -/
def applyRenaming (out : Claims) (rule : ClaimRenamingSpec) : Claims :=
  if rule.oldName = "" ∨ rule.newName = "" then out
  else
    match GoMap.get out rule.oldName with
    | none => out
    | some value =>
        match rule.operation with
        | .copy => GoMap.set out rule.newName value
        | _ => GoMap.set (GoMap.delete out rule.oldName) rule.newName value

/-- `PerformRenaming`: the rules in order. -/
def performRenaming (upstream : Upstream) (claims : ClaimSet) : ClaimSet :=
  claims.map fun out => upstream.spec.claimRenamings.foldl applyRenaming out

/-! ## What is built -/

/-- Whatever the outcome of discovery, an upstream bears its resource's name
and keeps its specification. -/
theorem new_name_spec {discovery : Discovery} {resource : UpstreamProvider}
    {clientSecret caPEM : String} {upstream : Upstream}
    (built : new discovery resource clientSecret caPEM = .ok upstream) :
    upstream.name = resource.metadata.name ∧
      upstream.spec = resource.spec := by
  simp only [new] at built
  split at built
  · cases built
    exact ⟨rfl, rfl⟩
  · split at built
    · cases built
    · split at built
      · split at built
        · cases built
        · split at built
          · cases built
          · cases built
            exact ⟨rfl, rfl⟩
      · cases built
        exact ⟨rfl, rfl⟩

/-! ## Claims that the transformations leave alone -/

/-- The names that cleanup removes: an empty name in the list is skipped. -/
def removesClaim (upstream : Upstream) (key : String) : Prop :=
  key ∈ oidcIDTokenRegisteredClaims ∨
    key ≠ "" ∧ key ∈ upstream.spec.claimRemovals

theorem get_cleanupClaims_of_removed (upstream : Upstream)
    (claims : ClaimSet) {key : String} (removed : upstream.removesClaim key) :
    GoMap.get (upstream.cleanupClaims claims).entries key = none := by
  cases claims with
  | none => rfl
  | some out =>
      simp only [cleanupClaims, Option.map_some, ClaimSet.entries_some,
        GoMap.get_foldl_delete, List.mem_filter, decide_eq_true_eq]
      obtain registered | ⟨proper, listed⟩ := removed
      · rw [if_pos registered, ite_self]
      · rw [if_pos ⟨listed, proper⟩]

theorem get_cleanupClaims_of_kept (upstream : Upstream) (claims : ClaimSet)
    {key : String} (kept : ¬upstream.removesClaim key) :
    GoMap.get (upstream.cleanupClaims claims).entries key =
      GoMap.get claims.entries key := by
  cases claims with
  | none => rfl
  | some out =>
      obtain ⟨unregistered, unlisted⟩ := not_or.mp kept
      simp only [cleanupClaims, Option.map_some, ClaimSet.entries_some,
        GoMap.get_foldl_delete, List.mem_filter, decide_eq_true_eq]
      rw [if_neg (fun both => unlisted both.symm), if_neg unregistered]

theorem get_cleanupClaims (upstream : Upstream) (claims : ClaimSet)
    {key : String} (unregistered : key ∉ oidcIDTokenRegisteredClaims)
    (unlisted : key ∉ upstream.spec.claimRemovals) :
    GoMap.get (upstream.cleanupClaims claims).entries key =
      GoMap.get claims.entries key :=
  upstream.get_cleanupClaims_of_kept claims
    (not_or.mpr ⟨unregistered, fun listed => unlisted listed.2⟩)

theorem get_applyRenaming (out : Claims) (rule : ClaimRenamingSpec)
    {key : String} (old : rule.oldName ≠ key) (new : rule.newName ≠ key) :
    GoMap.get (applyRenaming out rule) key = GoMap.get out key := by
  unfold applyRenaming
  split
  · rfl
  · split
    · rfl
    · split
      · rw [GoMap.get_set_of_ne _ _ new]
      · rw [GoMap.get_set_of_ne _ _ new, GoMap.get_delete_of_ne _ old]

theorem get_performRenaming (upstream : Upstream) (claims : ClaimSet)
    {key : String}
    (unnamed : ∀ rule ∈ upstream.spec.claimRenamings,
      rule.oldName ≠ key ∧ rule.newName ≠ key) :
    GoMap.get (upstream.performRenaming claims).entries key =
      GoMap.get claims.entries key := by
  cases claims with
  | none => rfl
  | some out =>
      simp only [performRenaming, Option.map_some, ClaimSet.entries_some]
      generalize upstream.spec.claimRenamings = rules at unnamed
      induction rules generalizing out with
      | nil => rfl
      | cons rule rules induction =>
          obtain ⟨old, new⟩ := unnamed rule List.mem_cons_self
          rw [List.foldl_cons,
            induction (applyRenaming out rule) fun later member =>
              unnamed later (List.mem_cons_of_mem _ member),
            get_applyRenaming out rule old new]

end Upstream

end Kubauth
