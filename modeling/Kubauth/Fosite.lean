import Kubauth.Authenticator
import Kubauth.Storage.Client

/-!
# Requests and sessions

The part of the OAuth2 library's data that this server reads and writes: a
request with its client, scopes, audiences and form, and the session from
which tokens are made.  The methods of a request that are code of the library
are known by what is assumed of them only.
-/

namespace Kubauth

/-- `url.Values`. -/
abbrev Values := GoMap String (List String)

/-- The first value of a parameter, or the empty string. -/
def Values.first (values : Values) (key : String) : String :=
  ((GoMap.get values key).bind List.head?).getD ""

structure IDTokenClaims where
  issuer : String
  subject : String
  audience : List String
  issuedAt : Int
  requestedAt : Int
  authTime : Int
  extra : ClaimSet
  deriving Repr, Inhabited

structure JWTClaims where
  issuer : String
  subject : String
  audience : List String
  issuedAt : Int
  expiresAt : Option Int
  extra : ClaimSet
  deriving Repr, Inhabited

/-- `OIDCSession`, with the `kid` header. -/
structure OidcSession where
  idTokenClaims : IDTokenClaims
  jwtClaims : JWTClaims
  kid : String
  expiresAt : GoMap TokenType Int
  username : String
  subject : String
  deriving Repr, Inhabited

namespace OidcSession

def setExpiresAt (session : OidcSession) (token : TokenType) (time : Int) :
    OidcSession :=
  { session with expiresAt := GoMap.set session.expiresAt token time }

/-- The same session up to the times at which its tokens expire. -/
def SameClaims (first second : OidcSession) : Prop :=
  first.idTokenClaims = second.idTokenClaims ∧
    first.jwtClaims = second.jwtClaims ∧ first.subject = second.subject

/-- The authorized party that the ID token will carry. -/
def azp (session : OidcSession) : Option Value :=
  GoMap.get session.idTokenClaims.extra.entries "azp"

end OidcSession

/-- The code of the library behind a request, as far as this server calls it. -/
structure RequestLibrary where
  /-- `Arguments.Has`, for one item. -/
  has : List String → String → Bool
  /-- `GrantScope` and `GrantAudience`, on the list of what was granted. -/
  grant : List String → String → List String
  /-- What `Sanitize` keeps of the form, given the parameters to keep. -/
  sanitize : List String → Values → Values
  mem_grant : ∀ {granted item other},
    other ∈ grant granted item ↔ other ∈ granted ∨ other = item
  sanitize_adds_nothing : ∀ {allowed form key},
    GoMap.get form key = none → GoMap.get (sanitize allowed form) key = none

namespace RequestLibrary

/-- Compares without regard to letter case, grants nothing twice, and keeps the
parameters that say what is asked for. -/
def plain : RequestLibrary :=
  { has := fun arguments item =>
      arguments.any fun argument =>
        argument.toList.map Char.toLower = item.toList.map Char.toLower
    grant := appendUnseen
    sanitize := fun allowed form =>
      form.filter fun entry =>
        (["grant_type", "response_type", "scope", "client_id"] ++
          allowed).contains entry.1
    mem_grant := mem_appendUnseen _ _ _
    sanitize_adds_nothing := GoMap.get_filter_of_none _ }

instance : Inhabited RequestLibrary := ⟨plain⟩

instance : Repr RequestLibrary := ⟨fun _ _ => "library"⟩

end RequestLibrary

/-- `fosite.Requester`, for the fields that this server touches, and with the
code of its methods. -/
structure Requester where
  library : RequestLibrary
  id : String
  client : KubauthClient
  requestedScopes : List String
  grantedScopes : List String
  requestedAudience : List String
  grantedAudience : List String
  form : Values
  session : OidcSession
  deriving Repr, Inhabited

/-- `fosite.AccessRequester`. -/
structure AccessRequester extends Requester where
  grantTypes : List String
  deriving Repr, Inhabited

/-- `Arguments.ExactOne`. -/
def AccessRequester.exactOne (request : AccessRequester) (grant : String) :
    Bool :=
  request.grantTypes = [grant]

namespace Requester

def grantScope (request : Requester) (scope : String) : Requester :=
  { request with
    grantedScopes := request.library.grant request.grantedScopes scope }

def grantAudience (request : Requester) (audience : String) : Requester :=
  { request with
    grantedAudience := request.library.grant request.grantedAudience audience }

def sanitize (request : Requester) (allowed : List String) : Requester :=
  { request with form := request.library.sanitize allowed request.form }

/-- `HandleScopes`. -/
def handleScopes (request : Requester) : Requester :=
  let granted := request.requestedScopes.foldl grantScope request
  if request.client.isForceOpenIdScope then granted.grantScope "openid"
  else granted

/-- `HandleAudience`. -/
def handleAudience (request : Requester) : Requester :=
  match request.requestedAudience with
  | [] => request.grantAudience request.client.clientId
  | audiences => audiences.foldl grantAudience request

private theorem foldl_keeps {α β : Type} (grant : Requester → α → Requester)
    (project : Requester → β)
    (kept : ∀ request item, project (grant request item) = project request)
    (items : List α) (request : Requester) :
    project (items.foldl grant request) = project request := by
  induction items generalizing request with
  | nil => rfl
  | cons item items induction =>
      rw [List.foldl_cons, induction, kept]

theorem handleScopes_keeps {β : Type} (project : Requester → β)
    (kept : ∀ request scope,
      project (grantScope request scope) = project request)
    (request : Requester) :
    project request.handleScopes = project request := by
  have granted := foldl_keeps grantScope project kept
    request.requestedScopes request
  unfold handleScopes
  split
  · exact (kept _ _).trans granted
  · exact granted

theorem handleAudience_keeps {β : Type} (project : Requester → β)
    (kept : ∀ request audience,
      project (grantAudience request audience) = project request)
    (request : Requester) :
    project request.handleAudience = project request := by
  unfold handleAudience
  split
  · exact kept _ _
  · exact foldl_keeps grantAudience project kept _ request

@[simp] theorem handleScopes_session (request : Requester) :
    request.handleScopes.session = request.session :=
  handleScopes_keeps session (fun _ _ => rfl) request

@[simp] theorem handleAudience_session (request : Requester) :
    request.handleAudience.session = request.session :=
  handleAudience_keeps session (fun _ _ => rfl) request

end Requester

end Kubauth
