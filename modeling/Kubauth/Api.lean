import Kubauth.GoMap

/-!
# Resources

The Kubernetes resources that the controllers read and write, with the fields
that some modelled function looks at.  Byte strings are Go strings, durations
and times are nanoseconds.
-/

namespace Kubauth

/-- The name of the one finalizer this server sets on its resources. -/
def finalizerName : String := "kubauth.kubotal.io/finalizer"

/-- A failed API call.  The server only distinguishes missing objects. -/
inductive ApiError where
  | notFound (message : String)
  | other (message : String)
  deriving Repr, DecidableEq

namespace ApiError

def message : ApiError → String
  | .notFound message => message
  | .other message => message

/-- `client.IgnoreNotFound`. -/
def ignoreNotFound : ApiError → Option ApiError
  | .notFound _ => none
  | .other message => some (.other message)

end ApiError

/-- A `metav1.Time` as it is read back from the API, which keeps it to the
second. -/
def storedTime (time : Int) : Int :=
  time / 1000000000 * 1000000000

structure ObjectMeta where
  ns : String
  name : String
  finalizers : List String
  deletionTimestamp : Option Int
  deriving Repr, DecidableEq, Inhabited

namespace ObjectMeta

/-- `!DeletionTimestamp.IsZero()`. -/
def deleting (metadata : ObjectMeta) : Bool :=
  metadata.deletionTimestamp.isSome

def containsFinalizer (metadata : ObjectMeta) (finalizer : String) : Bool :=
  finalizer ∈ metadata.finalizers

def addFinalizer (metadata : ObjectMeta) (finalizer : String) : ObjectMeta :=
  if finalizer ∈ metadata.finalizers then metadata
  else { metadata with finalizers := metadata.finalizers ++ [finalizer] }

def removeFinalizer (metadata : ObjectMeta) (finalizer : String) :
    ObjectMeta :=
  { metadata with
    finalizers := metadata.finalizers.filter fun present =>
      present ≠ finalizer }

end ObjectMeta

structure Secret where
  data : GoMap String String
  deriving Repr, DecidableEq, Inhabited

structure ConfigMap where
  data : GoMap String String
  deriving Repr, DecidableEq, Inhabited

/-- The phase of an `OidcClient` or of an `UpstreamProvider`.  A resource whose
status was never written has phase `other ""`. -/
inductive Phase where
  | ready
  | error
  | off
  | other (text : String)
  deriving Repr, DecidableEq, Inhabited

/-- The parts that all kinds of resources have. -/
structure Resource (Spec Status : Type) where
  metadata : ObjectMeta
  spec : Spec
  status : Status
  deriving Repr, DecidableEq, Inhabited

/-! ## OIDC clients -/

structure OidcClientSecretSpec where
  name : String
  key : String
  hashed : Bool
  deriving Repr, DecidableEq, Inhabited

structure OidcClientSpec where
  enabled : Option Bool
  secrets : Option (List OidcClientSecretSpec)
  grantTypes : List String
  scopes : List String
  isPublic : Bool
  audiences : List String
  forceOpenIdScope : Option Bool
  style : String
  postLogoutURL : String
  accessTokenLifespan : Int
  refreshTokenLifespan : Int
  idTokenLifespan : Int
  clientId : String
  upstreamProviders : List String
  deriving Repr, DecidableEq, Inhabited

structure OidcClientStatus where
  phase : Phase
  clientId : String
  message : String
  deriving Repr, DecidableEq, Inhabited

abbrev OidcClient := Resource OidcClientSpec OidcClientStatus

/-- The `namespace:name` that identifies the resource. -/
def OidcClient.k8sId (resource : OidcClient) : String :=
  resource.metadata.ns ++ ":" ++ resource.metadata.name

/-! ## Upstream providers -/

/-- `LocalSecretSpec` and `LocalConfigMapSpec`, which have the same fields. -/
structure LocalKeySpec where
  name : String
  key : String
  deriving Repr, DecidableEq, Inhabited

structure CertificateAuthoritySource where
  configMap : Option LocalKeySpec
  secret : Option LocalKeySpec
  deriving Repr, DecidableEq, Inhabited

structure UpstreamProviderConfig where
  authURL : String
  tokenURL : String
  deviceAuthURL : String
  userInfoURL : String
  jwksURL : String
  algorithms : List String
  introspectionURL : String
  endSessionURL : String
  deriving Repr, DecidableEq, Inhabited

/-- The type field is a string; only two of its values are supported. -/
inductive UpstreamProviderType where
  | oidc
  | internal
  | other (text : String)
  deriving Repr, DecidableEq, Inhabited

def UpstreamProviderType.text : UpstreamProviderType → String
  | .oidc => "oidc"
  | .internal => "internal"
  | .other text => text

/-- Every operation but `copy` renames. -/
inductive RenamingOperation where
  | rename
  | copy
  | other (text : String)
  deriving Repr, DecidableEq, Inhabited

structure ClaimRenamingSpec where
  oldName : String
  newName : String
  operation : RenamingOperation
  deriving Repr, DecidableEq, Inhabited

structure UpstreamProviderSpec where
  enabled : Option Bool
  type : UpstreamProviderType
  displayName : String
  clientSpecific : Bool
  issuerURL : String
  certificateAuthority : Option CertificateAuthoritySource
  insecureSkipVerify : Bool
  redirectURL : String
  clientId : String
  clientSecret : LocalKeySpec
  scopes : List String
  useUserInfo : Bool
  claimRenamings : List ClaimRenamingSpec
  claimRemovals : List String
  localEnrichment : Option Bool
  explicitConfig : Option UpstreamProviderConfig
  dumpExchanges : Bool
  deriving Repr, DecidableEq, Inhabited

structure UpstreamProviderStatus where
  phase : Phase
  message : String
  effectiveConfig : Option UpstreamProviderConfig
  deriving Repr, DecidableEq, Inhabited

abbrev UpstreamProvider :=
  Resource UpstreamProviderSpec UpstreamProviderStatus

end Kubauth
