import Kubauth.Server.LoginPage
import Kubauth.Server.UpstreamCallback

/-!
# The confirmation of an upstream login

In the mode on demand the callback of an upstream login does not resume the
authorize request.  It leaves its user in the login session, and
`handleUpstreamWelcome` asks the browser whether the login is to be
remembered.

Users are kept in both sessions as JSON, so that what is read back has the
types of a decoded document.
-/

namespace Kubauth

mutual

/-- A claim after it was written as JSON and read again. -/
def Value.decoded : Value → Value
  | .int value => .num value
  | .strs values => .arr (values.map .str)
  | .arr items => .arr (decodedItems items)
  | .map entries => .map (decodedEntries entries)
  | .null => .null
  | .bool value => .bool value
  | .num value => .num value
  | .str value => .str value

def decodedItems : List Value → List Value
  | [] => []
  | item :: items => item.decoded :: decodedItems items

def decodedEntries : List (String × Value) → List (String × Value)
  | [] => []
  | (key, value) :: entries => (key, value.decoded) :: decodedEntries entries

end

namespace OidcUser

/-- A user that was marshalled and unmarshalled. -/
def decoded (user : OidcUser) : OidcUser :=
  { user with claims := user.claims.map decodedEntries }

/-- A user in the values of a session, which are decoded without a type.  The
nil map is written as `null`. -/
def decodedValue (user : OidcUser) : Value :=
  .map
    [("Login", .str user.login),
      ("Claims",
        match user.claims with
        | none => .null
        | some claims => .map (decodedEntries claims)),
      ("FullName", .str user.fullName)]

@[simp] theorem decoded_login (user : OidcUser) :
    user.decoded.login = user.login := rfl

end OidcUser

namespace Server

/-- The characters that `strings.TrimSpace` removes. -/
def isSpace (char : Char) : Bool :=
  let code := char.toNat
  (9 ≤ code ∧ code ≤ 13) ∨ (0x2000 ≤ code ∧ code ≤ 0x200a) ∨
    code ∈ [0x20, 0x85, 0xa0, 0x1680, 0x2028, 0x2029, 0x202f, 0x205f, 0x3000]

def trimSpace (text : String) : String :=
  String.ofList
    ((text.toList.dropWhile isSpace).reverse.dropWhile isSpace).reverse

/-- `welcomeUserName`: the first name that is not blank. -/
def welcomeUserName (user : OidcUser) : String :=
  let claim (key : String) : String :=
    trimSpace (Claims.getString user.claims.entries key)
  let given := claim "given_name"
  let family := claim "family_name"
  let fullName :=
    if given ≠ "" ∧ family ≠ "" then given ++ " " ++ family
    else given ++ family
  ([trimSpace user.fullName, claim "name", claim "preferred_username",
    claim "nickname", claim "email", fullName,
    trimSpace user.login].find? fun name => name ≠ "").getD ""

/-- `loadPendingUpstreamUser`. -/
def loadPendingUpstreamUser (session : LoginSession) : Option OidcUser :=
  match session.pendingUpstreamUser with
  | none => none
  | some user => if user.login = "" then none else some user.decoded

theorem loadPendingUpstreamUser_eq_some_iff {session : LoginSession}
    {user : OidcUser} :
    loadPendingUpstreamUser session = some user ↔
      ∃ pending, session.pendingUpstreamUser = some pending ∧
        pending.login ≠ "" ∧ user = pending.decoded := by
  unfold loadPendingUpstreamUser
  cases session.pendingUpstreamUser with
  | none => simp
  | some pending =>
      by_cases nameless : pending.login = ""
      · simp [nameless]
      · simp only [nameless, if_false, Option.some.injEq, ne_eq,
          exists_eq_left', not_false_eq_true, true_and]
        exact eq_comm

namespace OidcServer

/-- The `POST` branch of `handleUpstreamWelcome`. -/
def confirmUpstreamLogin (server : OidcServer) (now : Int)
    (request : HttpRequest) (session : LoginSession) (user : OidcUser) :
    List Effect :=
  match request.parseFormError with
  | some _ => [.httpError "bad request" 400]
  | none =>
      let rawQuery := session.getString "authQuery"
      if rawQuery = "" then
        [.httpError
          "session expired: restart login from the client application" 400]
      else
        .removePendingUpstreamUser ::
          (if request.postForm.first "remember" = "on" then
            [.putSsoUser user]
          else []) ++
          server.completeUpstreamAuthorize now rawQuery user

/-- `handleUpstreamWelcome`. -/
def handleUpstreamWelcome (server : OidcServer) (now : Int)
    (request : HttpRequest) (session : LoginSession) : List Effect :=
  if server.ssoMode ≠ .onDemand then
    -- `http.NotFound`
    [.httpError "404 page not found" 404]
  else
    match loadPendingUpstreamUser session with
    | none =>
        [.httpError
          "session expired: restart login from the client application" 400]
    | some user =>
        if request.method = "GET" then
          let clientID :=
            server.clientIDFromRawQuery (session.getString "authQuery")
          [.displayWelcome (welcomeUserName user) (server.getStyle clientID)]
        else if request.method = "POST" then
          server.confirmUpstreamLogin now request session user
        else [.httpError "method not allowed" 405]

/-- Either a single response is written, or a pending user is confirmed. -/
theorem handleUpstreamWelcome_cases (server : OidcServer) (now : Int)
    (request : HttpRequest) (session : LoginSession) :
    (∃ message status,
        server.handleUpstreamWelcome now request session =
          [.httpError message status]) ∨
      (∃ userName style,
        server.handleUpstreamWelcome now request session =
          [.displayWelcome userName style]) ∨
      ∃ user,
        server.ssoMode = .onDemand ∧ request.method = "POST" ∧
          loadPendingUpstreamUser session = some user ∧
          server.handleUpstreamWelcome now request session =
            .removePendingUpstreamUser ::
              (if request.postForm.first "remember" = "on" then
                [.putSsoUser user]
              else []) ++
              server.completeUpstreamAuthorize now
                (session.getString "authQuery") user := by
  unfold handleUpstreamWelcome
  by_cases mode : server.ssoMode = .onDemand
  · simp only [mode, ne_eq, not_true_eq_false, if_false, true_and]
    cases loaded : loadPendingUpstreamUser session with
    | none => exact .inl ⟨_, _, rfl⟩
    | some user =>
        by_cases get : request.method = "GET"
        · simp only [get, if_true]
          exact .inr (.inl ⟨_, _, rfl⟩)
        by_cases post : request.method = "POST"
        · simp only [post, if_true, confirmUpstreamLogin]
          cases request.parseFormError with
          | some failure => exact .inl ⟨_, _, rfl⟩
          | none =>
              by_cases alive : session.getString "authQuery" = ""
              · simp only [alive, if_true]
                exact .inl ⟨_, _, rfl⟩
              · simp only [alive, if_false]
                exact .inr (.inr ⟨user, trivial, rfl, rfl⟩)
        · simp only [get, post, if_false]
          exact .inl ⟨_, _, rfl⟩
  · simp only [mode, ne_eq, not_false_eq_true, if_true]
    exact .inl ⟨_, _, rfl⟩

end OidcServer

end Server

end Kubauth
