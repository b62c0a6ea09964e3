import Kubauth.Api
import Kubauth.Misc

/-!
# Registered clients

The in-memory form of an `OidcClient` resource.
-/

namespace Kubauth

/-- `kubauthClient`.  The constructor derives the resource identifier from the
object, so it is not a field here. -/
structure KubauthClient where
  clientId : String
  k8sObject : OidcClient
  hashedSecrets : List String
  deriving Repr, DecidableEq, Inhabited

inductive TokenType where
  | accessToken
  | refreshToken
  | idToken
  | authorizeCode
  deriving Repr, DecidableEq

namespace KubauthClient

def getK8sId (client : KubauthClient) : String :=
  client.k8sObject.k8sId

def getHashedSecret (client : KubauthClient) : Option String :=
  client.hashedSecrets.head?

def getRotatedHashes (client : KubauthClient) : List String :=
  client.hashedSecrets.tail

def getSecretCount (client : KubauthClient) : Nat :=
  client.hashedSecrets.length

def isPublic (client : KubauthClient) : Bool :=
  client.k8sObject.spec.isPublic

def getGrantTypes (client : KubauthClient) : List String :=
  client.k8sObject.spec.grantTypes

def getScopes (client : KubauthClient) : List String :=
  client.k8sObject.spec.scopes

def getPostLogoutURL (client : KubauthClient) : String :=
  client.k8sObject.spec.postLogoutURL

def getStyle (client : KubauthClient) : String :=
  client.k8sObject.spec.style

def getUpstreamProviders (client : KubauthClient) : List String :=
  client.k8sObject.spec.upstreamProviders

/-- The client's own id is always an allowed audience. -/
def getAudience (client : KubauthClient) : List String :=
  if client.clientId ∈ client.k8sObject.spec.audiences then
    client.k8sObject.spec.audiences
  else client.k8sObject.spec.audiences ++ [client.clientId]

def isForceOpenIdScope (client : KubauthClient) : Bool :=
  boolPtrFalse client.k8sObject.spec.forceOpenIdScope

/-- `GetEffectiveLifespan`: a lifespan of zero in the resource is unset. -/
def getEffectiveLifespan (client : KubauthClient) (token : TokenType)
    (fallback : Int) : Int :=
  let spec := client.k8sObject.spec
  match token with
  | .accessToken =>
      if spec.accessTokenLifespan ≠ 0 then spec.accessTokenLifespan
      else fallback
  | .refreshToken =>
      if spec.refreshTokenLifespan ≠ 0 then spec.refreshTokenLifespan
      else fallback
  | .idToken =>
      if spec.idTokenLifespan ≠ 0 then spec.idTokenLifespan else fallback
  | .authorizeCode => fallback

end KubauthClient

end Kubauth
