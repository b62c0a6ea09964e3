import Kubauth.InPlace
import Kubauth.PasswordGrant

/-!
# The password grant on the shared request

The library hands the handler a pointer to the request: what the handler writes
stays written when it fails.  Here the handler is the sequence of reads, checks
and writes of its source.  It computes what `handleTokenEndpointRequest`
computes, and writes nothing before its last check.
-/

namespace Kubauth

namespace PasswordGrantHandler

open InPlace (check exec)

/-- `SetSession`. -/
def setSession (session : OidcSession) (request : AccessRequester) :
    AccessRequester :=
  { request with session := session }

def deletePassword (request : AccessRequester) : AccessRequester :=
  { request with form := GoMap.delete request.form "password" }

/-- A handler of scopes or audiences, on an access request. -/
def onRequester (change : Requester → Requester) (request : AccessRequester) :
    AccessRequester :=
  { request with toRequester := change request.toRequester }

/-- `HandleTokenEndpointRequest`, one statement after the other. -/
def handleInPlace (handler : PasswordGrantHandler) (now : Int) :
    InPlace GrantError AccessRequester Unit := do
  let request ← get
  let client := request.client
  check (canHandleTokenEndpointRequest request) .unknownRequest
  check handler.allowPasswordGrant
    (.requestForbidden
      ("This server does not  allow to use authorization grant 'password'. " ++
        "Check server configuration"))
  check (request.library.has client.getGrantTypes "password")
    (.unauthorizedClient
      "The client is not allowed to use authorization grant 'password'.")
  forM request.requestedScopes fun scope =>
    check (handler.scopeStrategy client.getScopes scope)
      (.invalidScope
        ("The OAuth 2.0 Client is not allowed to request scope '" ++
          scope ++ "'."))
  match handler.audienceStrategy client.getAudience
      request.requestedAudience with
  | some failure => throw (.audience failure)
  | none =>
      let username := request.form.first "username"
      let password := request.form.first "password"
      let clientId := request.form.first "client_id"
      check (username ≠ "" ∧ password ≠ "")
        (.invalidRequest
          "Username or password are missing from the POST body.")
      match handler.authenticator.authenticate username password with
      | (_, some failure) => throw (.serverError failure)
      | (none, none) =>
          throw (.invalidGrant
            ("Unable to authenticate the provided username and " ++
              "password credentials."))
      | (some user, none) =>
          modify (setSession
            (handler.createSessionWithUserClaims now (some user) clientId))
          modify deletePassword
          modify (onRequester Requester.handleScopes)
          modify (onRequester Requester.handleAudience)
          modify fun granted =>
            setSession (handler.setExpiries now granted.toRequester) granted

/-- The handler returns what `handleTokenEndpointRequest` computes, and leaves
the request as it found it when it fails. -/
theorem exec_handleInPlace (handler : PasswordGrantHandler) (now : Int)
    (request : AccessRequester) :
    exec (handler.handleInPlace now) request =
      InPlace.atomically (handler.handleTokenEndpointRequest now request)
        request := by
  rw [handleInPlace, InPlace.exec_get_bind]
  simp only [handleTokenEndpointRequest]
  -- each check fails as the branch of the function does, and is then passed
  apply InPlace.exec_check_bind
  · intro other
    rw [if_pos (by simp [other])]
  intro password
  rw [if_neg (not_not_intro password)]
  apply InPlace.exec_check_bind
  · intro forbidden
    rw [if_pos (by simp [forbidden])]
  intro allowed
  rw [if_neg (not_not_intro allowed)]
  apply InPlace.exec_check_bind
  · intro unlisted
    rw [if_pos (by simp [unlisted])]
  intro listed
  rw [if_neg (not_not_intro listed)]
  apply InPlace.exec_forM_check_bind
  · intro scope found
    rw [found]
  intro accepted
  rw [accepted]
  cases handler.audienceStrategy request.client.getAudience
      request.requestedAudience with
  | some failure => rfl
  | none =>
  apply InPlace.exec_check_bind
  · intro missing
    rw [if_pos]
    rwa [decide_eq_false_iff_not, not_and_or, not_not, not_not] at missing
  intro present
  rw [decide_eq_true_iff] at present
  rw [if_neg (not_or.mpr present)]
  rcases handler.authenticator.authenticate (request.form.first "username")
      (request.form.first "password") with ⟨_ | user, _ | failure⟩
  · rfl
  · rfl
  · rfl
  · rfl

/-- The handler succeeds for admitted requests of users that the authenticator
returns, and for no others.  The new session is then the user's and the form
has lost its password; a failed request is as it was. -/
theorem handleInPlace_gated (handler : PasswordGrantHandler) (now : Int)
    (request : AccessRequester) :
    let (result, left) := exec (handler.handleInPlace now) request
    (result = .ok () ↔
      handler.Admits request ∧
        ∃ user,
          handler.authenticator.authenticate (request.form.first "username")
              (request.form.first "password") = (some user, none) ∧
            left.session.subject = user.login ∧
            ∀ key, GoMap.get left.form key =
              if key = "password" then none
              else GoMap.get request.form key) ∧
      ∀ failure, result = .error failure → left = request := by
  rw [exec_handleInPlace]
  cases handled : handler.handleTokenEndpointRequest now request with
  | ok granted =>
      obtain ⟨admitted, user, authenticated, rfl⟩ :=
        handleTokenEndpointRequest_ok handled
      refine ⟨⟨fun _ => ⟨admitted, user, authenticated, ?_, ?_⟩, fun _ => rfl⟩,
        nofun⟩
      · exact (handler.grant_session now request user).2.2
      · intro key
        rw [grant_form, GoMap.get_delete]
        exact if_congr eq_comm rfl rfl
  | error failure =>
      refine ⟨⟨nofun, ?_⟩, fun _ _ => rfl⟩
      rintro ⟨admitted, user, authenticated, -⟩
      rw [handleTokenEndpointRequest_of_admits admitted authenticated] at handled
      cases handled

end PasswordGrantHandler

end Kubauth
