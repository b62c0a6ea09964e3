import Kubauth.Proto

/-!
# Identity providers of the merger

A provider asks one identity service and translates its answer.  A failing
exchange is fatal for a critical provider; any other provider then answers an
empty user with status `undefined`.
-/

namespace Kubauth.Merger

/-- `IdProviderConfig`, as read from the configuration file. -/
structure IdProviderConfig where
  name : String
  credentialAuthority : Option Bool
  groupAuthority : Option Bool
  groupPattern : String
  claimAuthority : Option Bool
  claimPattern : String
  nameAuthority : Option Bool
  emailAuthority : Option Bool
  critical : Option Bool
  uidOffset : Int
  deriving Repr, DecidableEq, Inhabited

/-- A provider once its configuration defaults are set: every flag has a value
and no pattern is empty. -/
structure Provider where
  name : String
  credentialAuthority : Bool
  groupAuthority : Bool
  groupPattern : String
  claimAuthority : Bool
  claimPattern : String
  nameAuthority : Bool
  emailAuthority : Bool
  critical : Bool
  uidOffset : Int
  exchange : Exchange

namespace Provider

/-- `New`: every unset flag defaults to true and every empty pattern to `%s`. -/
def new (config : IdProviderConfig) (exchange : Exchange) : Provider :=
  { name := config.name
    credentialAuthority := boolPtrTrue config.credentialAuthority
    groupAuthority := boolPtrTrue config.groupAuthority
    groupPattern :=
      if config.groupPattern = "" then "%s" else config.groupPattern
    claimAuthority := boolPtrTrue config.claimAuthority
    claimPattern :=
      if config.claimPattern = "" then "%s" else config.claimPattern
    nameAuthority := boolPtrTrue config.nameAuthority
    emailAuthority := boolPtrTrue config.emailAuthority
    critical := boolPtrTrue config.critical
    uidOffset := config.uidOffset
    exchange := exchange }

def getSpec (provider : Provider) : ProviderSpec :=
  { name := provider.name
    credentialAuthority := provider.credentialAuthority
    groupAuthority := provider.groupAuthority
    claimAuthority := provider.claimAuthority
    emailAuthority := provider.emailAuthority
    nameAuthority := provider.nameAuthority }

section

variable (sprintf : String → String → String)

/-- The claims of an answer under their translated names. -/
def translateClaims (pattern : String) (claims : Claims) : Claims :=
  claims.foldl
    (fun translated entry =>
      GoMap.set translated (sprintf pattern entry.1) entry.2) []

/-- `GetUserDetail`.  `sprintf pattern text` is `fmt.Sprintf` of a configured
pattern on one string. -/
def getUserDetail (provider : Provider) (login password : String) :
    Except String UserDetail :=
  match provider.exchange { login := login, password := password } with
  | .error failure =>
      if provider.critical then .error failure
      else
        .ok
          { user := initUser login
            status := Status.undefined
            provider := provider.getSpec
            translated := { uid := none, groups := [], claims := [] } }
  | .ok response =>
      .ok
        { user := response.user
          status := response.status
          provider := provider.getSpec
          translated :=
            { uid := response.user.uid.map (· + provider.uidOffset)
              groups :=
                response.user.groups.map (sprintf provider.groupPattern)
              claims :=
                translateClaims sprintf provider.claimPattern
                  response.user.claims.entries } }

end

end Provider

end Kubauth.Merger
