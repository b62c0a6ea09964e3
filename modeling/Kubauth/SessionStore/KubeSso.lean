import Kubauth.Api
import Kubauth.Claims
import Mathlib.Logic.Function.Basic

/-!
# The store of SSO sessions

Sessions of the SSO session manager are kept as Kubernetes objects, one for
each token.  A commit mirrors the user and the time limits of the session into
the object.  A read returns the committed bytes.  A cleaner, when it is
enabled, periodically deletes the objects whose time limits have passed.

Times are nanoseconds since 1970.
-/

namespace Kubauth.SessionStore

/-- The zero `time.Time`, in the year 1. -/
def zeroTime : Int := -62135596800000000000

structure SsoSessionSpec where
  login : String
  fullName : String
  webToken : String
  claims : ClaimSet
  deadline : Int
  expiry : Int
  deriving Repr, Inhabited

structure SsoSession where
  annotations : Option (GoMap String String)
  spec : SsoSessionSpec
  deriving Repr, Inhabited

def annotationRawSession : String := "kubauth.kubotal.io/session"

/-- What a commit decodes from the bytes of a session. -/
structure SessionEnvelope where
  deadline : Int
  values : ClaimSet
  deriving Repr, Inhabited

/-- The library functions that the store applies to tokens and bytes: the hash
from which the name of an object is made, and the JSON decoder. -/
structure Encoding where
  encodeName : String → String
  unmarshal : String → Except String SessionEnvelope

/-- `KubeSsoStore`: the objects of its namespace, by name. -/
structure KubeSsoStore where
  objects : String → Option SsoSession

def KubeSsoStore.empty : KubeSsoStore :=
  { objects := fun _ => none }

/-! ## The user of a session -/

/-- The three results of `extractUser`. -/
structure MirroredUser where
  login : String
  claims : ClaimSet
  fullName : String
  deriving Repr, Inhabited

/-- `s, _ := v.(string)`. -/
def asString : Value → String
  | .str text => text
  | _ => ""

/-- `m, _ := v.(map[string]interface{})`. -/
def asMap : Value → ClaimSet
  | .map entries => some entries
  | _ => none

/-- The value under the first of two keys that is present. -/
def firstPresent (entries : Claims) (key fallback : String) :
    Option Value :=
  (GoMap.get entries key).or (GoMap.get entries fallback)

def asUser : Value → Option MirroredUser
  | .map entries =>
      (firstPresent entries "Login" "login").map fun login =>
        { login := asString login
          claims := (firstPresent entries "Claims" "claims").bind asMap
          fullName :=
            ((firstPresent entries "FullName" "fullName").map
              asString).getD "" }
  | _ => none

def MirroredUser.nobody : MirroredUser :=
  { login := "", claims := none, fullName := "" }

/-- The value under `ssoUser`, if it is shaped like a user, and else the first
one that is.  Which is first depends on the order of the decoded map. -/
def extractUser (values : ClaimSet) : MirroredUser :=
  match values with
  | none => .nobody
  | some entries =>
      match (GoMap.get entries "ssoUser").bind asUser with
      | some user => user
      | none => (entries.findSome? fun entry => asUser entry.2).getD .nobody

/-! ## Operations -/

namespace KubeSsoStore

variable (encoding : Encoding) (store : KubeSsoStore)

/-- The bytes of the session, if it is found, and the error.  `get` is the
failure of the API call. -/
def findCtx (get : Option ApiError) (token : String) :
    Option String × Option ApiError :=
  match get with
  | some failure => (none, failure.ignoreNotFound)
  | none =>
      match store.objects (encoding.encodeName token) with
      | none => (none, none)
      | some session =>
          match session.annotations with
          | none => (none, none)
          | some annotations =>
              match GoMap.get annotations annotationRawSession with
              | none => (none, none)
              | some raw => if raw = "" then (none, none) else (some raw, none)

/-- How the API calls of a commit end. -/
structure CommitCalls where
  get : Option ApiError
  write : Option ApiError
  deriving Repr, DecidableEq

/-- `json.Unmarshal` is not called on empty bytes. -/
def envelope (bytes : String) : Except String SessionEnvelope :=
  if bytes = "" then .ok { deadline := zeroTime, values := none }
  else encoding.unmarshal bytes

/-- The fields that a commit mirrors, as they are read back later. -/
def mirror (token : String) (decoded : SessionEnvelope) (expiry : Int) :
    SsoSessionSpec :=
  let user := extractUser decoded.values
  { login := user.login
    fullName := user.fullName
    webToken := token
    claims := user.claims
    deadline := storedTime decoded.deadline
    expiry := storedTime expiry }

/-- Stores or updates the object of the session.  Every failure of the read is
taken for a missing object, and then the API refuses to create one that
exists. -/
def commitCtx (calls : CommitCalls) (token bytes : String) (expiry : Int) :
    KubeSsoStore × Option String :=
  match envelope encoding bytes with
  | .error failure => (store, some failure)
  | .ok decoded =>
      -- empty sessions are not stored
      if (extractUser decoded.values).login = "" then (store, none)
      else
        let name := encoding.encodeName token
        let written := fun annotations =>
          match calls.write with
          | some failure => (store, some failure.message)
          | none =>
              ({ objects := Function.update store.objects name
                   (some
                     { annotations := some
                         (GoMap.set annotations annotationRawSession bytes)
                       spec := mirror token decoded expiry }) },
                none)
        match store.objects name with
        | none => written []
        | some existing =>
            match calls.get with
            | none => written (existing.annotations.getD [])
            | some _ => (store, some "already exists")

def deleteCtx (delete : Option ApiError) (token : String) :
    KubeSsoStore × Option String :=
  match delete with
  | some failure => (store, some failure.message)
  | none =>
      match store.objects (encoding.encodeName token) with
      | none => (store, some "not found")
      | some _ =>
          ({ objects := Function.update store.objects
               (encoding.encodeName token) none },
            none)

end KubeSsoStore

/-! ## The cleaner -/

/-- The test of the cleaner.  A zero time is no limit. -/
def SsoSessionSpec.expired (spec : SsoSessionSpec) (now : Int) : Bool :=
  (spec.expiry ≠ zeroTime ∧ now > spec.expiry) ∨
    (spec.deadline ≠ zeroTime ∧ now > spec.deadline)

/-- `cleanupOnce`.  A deletion that fails is ignored. -/
def KubeSsoStore.cleanupOnce (store : KubeSsoStore) (now : Int)
    (list : Option ApiError) (delete : String → Option ApiError) :
    KubeSsoStore :=
  match list with
  | some _ => store
  | none =>
      { objects := fun name =>
          match store.objects name with
          | none => none
          | some session =>
              if session.spec.expired now = true ∧ delete name = none then
                none
              else some session }

end Kubauth.SessionStore
