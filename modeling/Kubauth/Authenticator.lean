import Kubauth.Proto

/-!
# Authentication of local users

The interface through which the OIDC server authenticates its users, and its
implementation over the identity protocol.
-/

namespace Kubauth

structure OidcUser where
  login : String
  claims : ClaimSet
  fullName : String
  deriving Repr, Inhabited

/-- `OidcAuthenticator`.  As in Go, the results are independent: nothing in the
interface forbids a user beside an error. -/
structure OidcAuthenticator where
  identify : String → String → Option OidcUser × Status × Option String
  authenticate : String → String → Option OidcUser × Option String

namespace HttpProvider

/-- `getStringArrayInMap`: a list, the strings of a mixed list, or a single
string. -/
def getStringArrayInMap (claims : Claims) (key : String) :
    Except String (List String) :=
  match GoMap.get claims key with
  | none => .ok []
  | some .null => .ok []
  | some (.strs texts) => .ok texts
  | some (.arr items) =>
      .ok (items.filterMap fun item =>
        match item with
        | .str text => some text
        | _ => none)
  | some (.str text) => .ok [text]
  | some _ => .error ("entry Claims[" ++ key ++ "] is not a []string")

def handleName (name : String) (claims : Claims) : Claims :=
  if name ≠ "" then GoMap.set claims "name" (.str name) else claims

def handleGroups (groups : List String) (claims : Claims) :
    Except String Claims :=
  match getStringArrayInMap claims "groups" with
  | .error failure => .error failure
  | .ok fromClaims =>
      match dedupAndSort (groups ++ fromClaims) with
      | [] => .ok claims
      | first :: rest =>
          .ok (GoMap.set claims "groups" (.strs (first :: rest)))

def handleEmails (emails : List String) (claims : Claims) :
    Except String Claims :=
  match getStringArrayInMap claims "emails" with
  | .error failure => .error failure
  | .ok fromClaims =>
      match appendIfNotPresent emails fromClaims with
      | [] => .ok claims
      | first :: rest =>
          .ok (GoMap.set (GoMap.set claims "emails" (.strs (first :: rest)))
            "email" (.str first))

def handleAuthority (authority : String) (claims : Claims) : Claims :=
  if authority ≠ "" then GoMap.set claims "authority" (.str authority)
  else claims

def handleUid (uid : Option Int) (claims : Claims) : Claims :=
  match uid with
  | none => claims
  | some number => GoMap.set claims "uid" (.int number)

/-- `Identify`: the user whatever the status of the password. -/
def identify (exchange : Exchange) (login password : String) :
    Except String (OidcUser × Status) :=
  match exchange { login := login, password := password } with
  | .error failure => .error failure
  | .ok response =>
      let user := response.user
      match handleGroups user.groups
          (handleName user.name user.claims.entries) with
      | .error failure => .error failure
      | .ok grouped =>
          match handleEmails user.emails grouped with
          | .error failure => .error failure
          | .ok mailed =>
              .ok
                ({ login := login
                   claims := some (handleUid user.uid
                     (handleAuthority response.authority mailed))
                   fullName := user.name },
                  response.status)

/-- `Authenticate`: the user, provided that the password was checked. -/
def authenticate (exchange : Exchange) (login password : String) :
    Except String (Option OidcUser) :=
  match identify exchange login password with
  | .error failure => .error failure
  | .ok (user, passwordStatus) =>
      if passwordStatus ≠ Status.passwordChecked then .ok none
      else .ok (some user)

/-- An identified user bears the login that was asked for and the status that
the identity service answered, and never the nil map for claims. -/
theorem identify_ok {exchange : Exchange} {login password : String}
    {user : OidcUser} {status : Status}
    (identified : identify exchange login password = .ok (user, status)) :
    user.login = login ∧ (∃ claims, user.claims = some claims) ∧
      ∃ response,
        exchange { login := login, password := password } = .ok response ∧
          response.status = status := by
  unfold identify at identified
  split at identified
  · cases identified
  · next response answered =>
      simp only at identified
      split at identified
      · cases identified
      · split at identified
        · cases identified
        · cases identified
          exact ⟨rfl, ⟨_, rfl⟩, response, answered, rfl⟩

theorem identify_of_authenticate {exchange : Exchange}
    {login password : String} {user : OidcUser}
    (authenticated : authenticate exchange login password = .ok (some user)) :
    identify exchange login password =
      .ok (user, Status.passwordChecked) := by
  unfold authenticate at authenticated
  split at authenticated
  · cases authenticated
  · next found status identified =>
      split at authenticated
      · cases authenticated
      · next checked =>
          cases authenticated
          rw [identified, not_ne_iff.mp checked]

end HttpProvider

/-- The authenticator the server runs with. -/
def httpProvider (exchange : Exchange) : OidcAuthenticator where
  identify login password :=
    match HttpProvider.identify exchange login password with
    | .error failure => (none, "", some failure)
    | .ok (user, status) => (some user, status, none)
  authenticate login password :=
    match HttpProvider.authenticate exchange login password with
    | .error failure => (none, some failure)
    | .ok user => (user, none)

end Kubauth
