import Kubauth.Claims

/-!
# The identity protocol

Messages exchanged between the OIDC server, the merger and the identity
providers.
-/

namespace Kubauth

/-- A status is any string: the constants below are the known ones, and a
peer may answer something else. -/
abbrev Status := String

namespace Status

def userNotFound : Status := "userNotFound"
def disabled : Status := "disabled"
def passwordChecked : Status := "passwordChecked"
def passwordFail : Status := "passwordFail"
def passwordUnchecked : Status := "passwordUnchecked"
def passwordMissing : Status := "passwordMissing"
def undefined : Status := "undefined"
def invalidOldPassword : Status := "invalidOldPassword"

end Status

/-- `proto.User`.  `claims` may be the nil map in a decoded response. -/
@[ext] structure User where
  login : String
  uid : Option Int
  name : String
  emails : List String
  groups : List String
  claims : ClaimSet
  deriving Repr, Inhabited

/-- `InitUser`. -/
def initUser (login : String) : User :=
  { login := login
    uid := none
    name := ""
    emails := []
    groups := []
    claims := some [] }

structure IdentityRequest where
  login : String
  password : String
  deriving Repr, DecidableEq

/-- What a provider contributed, after its patterns and offset. -/
structure Translated where
  groups : List String
  claims : Claims
  uid : Option Int
  deriving Repr, Inhabited

structure ProviderSpec where
  name : String
  credentialAuthority : Bool
  groupAuthority : Bool
  claimAuthority : Bool
  nameAuthority : Bool
  emailAuthority : Bool
  deriving Repr, DecidableEq, Inhabited

structure UserDetail where
  user : User
  status : Status
  provider : ProviderSpec
  translated : Translated
  deriving Repr, Inhabited

structure IdentityResponse where
  user : User
  status : Status
  details : List UserDetail
  authority : String
  deriving Repr, Inhabited

/-- One call of `proto.Exchange` on `v1/identity`: a transport or decoding
error, or the decoded response. -/
abbrev Exchange := IdentityRequest → Except String IdentityResponse

end Kubauth
