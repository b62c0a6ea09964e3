import Kubauth.InPlace
import Kubauth.PasswordGrant
import Kubauth.Storage.SingleCreations

/-!
# Tokens for a password

Once a password request is granted, the handler issues its tokens: an access
token, then a refresh token and an ID token if the granted scopes ask for them.
It never reads the store, so that what it does to the store is the list of the
calls that it makes.  An error keeps the calls made before it.
-/

namespace Kubauth

/-- The errors of an issuance: those of the access token are passed on as they
are, the others become server errors with their text for debugging. -/
inductive IssueError where
  | unknownRequest
  | failure (text : String)
  | serverError (debug : String)
  deriving Repr, DecidableEq

/-- The strategies of the OAuth2 library.  A token comes with the signature
under which it is stored. -/
structure TokenStrategies where
  generateAccessToken : Requester → Except String (String × String)
  generateRefreshToken : Requester → Except String (String × String)
  generateIDToken : Int → Requester → Except String String

/-- `fosite.AccessResponder`, for what the handler sets. -/
structure AccessResponse where
  accessToken : String
  tokenType : String
  expiresIn : Int
  scopes : List String
  extra : GoMap String String
  deriving Repr, DecidableEq

/-- The response that the library hands to the handlers. -/
def AccessResponse.empty : AccessResponse :=
  { accessToken := ""
    tokenType := ""
    expiresIn := 0
    scopes := []
    extra := [] }

def AccessResponse.setExtra (response : AccessResponse)
    (key value : String) : AccessResponse :=
  { response with extra := GoMap.set response.extra key value }

/-- `GetExpiresAt`; no time is the zero time. -/
def OidcSession.getExpiresAt (session : OidcSession) (token : TokenType) :
    Option Int :=
  GoMap.get session.expiresAt token

/-- The calls made on the store so far, and the response. -/
structure Issuing where
  calls : List MemoryStore.Call
  response : AccessResponse

namespace Issuing

def call (issuing : Issuing) (call : MemoryStore.Call) : Issuing :=
  { issuing with calls := issuing.calls ++ [call] }

def respond (issuing : Issuing)
    (change : AccessResponse → AccessResponse) : Issuing :=
  { issuing with response := change issuing.response }

end Issuing

/-- The handler with the rest of its configuration. -/
structure TokenIssuer extends PasswordGrantHandler where
  refreshTokenScopes : List String

namespace TokenIssuer

open InPlace (check exec)

/-- `IssueAccessToken`. -/
def issueAccessToken (strategies : TokenStrategies) (now atLifespan : Int)
    (request : Requester) : InPlace IssueError Issuing String :=
  match strategies.generateAccessToken request with
  | .error text => throw (.failure text)
  | .ok (token, signature) => do
      modify (·.call
        (.createAccessTokenSession signature (request.sanitize [])))
      let expiresIn :=
        match request.session.getExpiresAt .accessToken with
        | some time => time - now
        | none => atLifespan
      modify (·.respond fun response =>
        { response with
          accessToken := token
          tokenType := "bearer"
          expiresIn := expiresIn
          scopes := request.grantedScopes })
      return signature

/-- Without configured scopes every request is given a refresh token. -/
def asksRefreshToken (issuer : TokenIssuer) (request : Requester) : Bool :=
  issuer.refreshTokenScopes = [] ∨
    issuer.refreshTokenScopes.any (request.library.has request.grantedScopes)

def issueRefreshToken (issuer : TokenIssuer) (strategies : TokenStrategies)
    (request : Requester) (accessTokenSignature : String) :
    InPlace IssueError Issuing Unit :=
  if issuer.asksRefreshToken request then
    match strategies.generateRefreshToken request with
    | .error text => throw (.serverError text)
    | .ok (refresh, refreshSignature) => do
        modify (·.call
          (.createRefreshTokenSession refreshSignature accessTokenSignature
            (request.sanitize [])))
        if refresh ≠ "" then
          modify (·.respond (·.setExtra "refresh_token" refresh))
  else pure ()

def issueIDToken (issuer : TokenIssuer) (strategies : TokenStrategies)
    (request : Requester) (accessTokenSignature : String) :
    InPlace IssueError Issuing Unit :=
  if request.library.has request.grantedScopes "openid" then
    let idTokenLifespan :=
      request.client.getEffectiveLifespan .idToken issuer.idTokenLifespan
    match strategies.generateIDToken idTokenLifespan request with
    | .error text => throw (.serverError text)
    | .ok idToken => do
        modify (·.call
          (.createOpenIDConnectSession accessTokenSignature
            (request.sanitize [])))
        modify (·.respond (·.setExtra "id_token" idToken))
  else pure ()

/-- `PopulateTokenEndpointResponse`. -/
def populateTokenEndpointResponse (issuer : TokenIssuer)
    (strategies : TokenStrategies) (now : Int) (request : AccessRequester) :
    InPlace IssueError Issuing Unit := do
  check (PasswordGrantHandler.canHandleTokenEndpointRequest request)
    .unknownRequest
  let atLifespan :=
    request.client.getEffectiveLifespan .accessToken
      issuer.accessTokenLifespan
  let signature ←
    issueAccessToken strategies now atLifespan request.toRequester
  issuer.issueRefreshToken strategies request.toRequester signature
  issuer.issueIDToken strategies request.toRequester signature

end TokenIssuer

/-! ## What an issuance leaves -/

/-- The tokens that were stored for a request: an access token, and beside it
perhaps a refresh token and an ID token. -/
structure IssuedTokens where
  access : String × String
  refresh : Option (String × String)
  id : Option String

namespace IssuedTokens

open MemoryStore (Call)

/-- The calls that store the tokens, with the sanitized request. -/
def calls (issued : IssuedTokens) (request : Requester) : List Call :=
  .createAccessTokenSession issued.access.2 (request.sanitize []) ::
    (issued.refresh.toList.map fun token =>
      .createRefreshTokenSession token.2 issued.access.2
        (request.sanitize [])) ++
    issued.id.toList.map fun _ =>
      .createOpenIDConnectSession issued.access.2 (request.sanitize [])

/-- The tokens are those that the strategies generate for the request. -/
structure Generated (issued : IssuedTokens) (issuer : TokenIssuer)
    (strategies : TokenStrategies) (request : Requester) : Prop where
  access : strategies.generateAccessToken request = .ok issued.access
  refresh : ∀ token ∈ issued.refresh,
    issuer.asksRefreshToken request = true ∧
      strategies.generateRefreshToken request = .ok token
  id : ∀ token ∈ issued.id,
    request.library.has request.grantedScopes "openid" = true ∧
      strategies.generateIDToken
          (request.client.getEffectiveLifespan .idToken
            issuer.idTokenLifespan) request =
        .ok token

/-- The response carries these tokens and no others.  A refresh token that is
the empty string is stored but not sent. -/
structure Carried (issued : IssuedTokens) (request : Requester)
    (response : AccessResponse) : Prop where
  access : response.accessToken = issued.access.1
  tokenType : response.tokenType = "bearer"
  scopes : response.scopes = request.grantedScopes
  refresh : GoMap.get response.extra "refresh_token" =
    (issued.refresh.map Prod.fst).filter (· ≠ "")
  id : GoMap.get response.extra "id_token" = issued.id

/-- All that the granted scopes ask for was issued, and is carried. -/
structure Complete (issued : IssuedTokens) (issuer : TokenIssuer)
    (request : Requester) (response : AccessResponse) : Prop
    extends Carried issued request response where
  refreshAsked : issuer.asksRefreshToken request = true →
    issued.refresh.isSome = true
  idAsked : request.library.has request.grantedScopes "openid" = true →
    issued.id.isSome = true

end IssuedTokens

namespace TokenIssuer

open InPlace (check exec)

variable (issuer : TokenIssuer) (strategies : TokenStrategies) (now : Int)

theorem exec_issueAccessToken (atLifespan : Int) (request : Requester)
    (start : Issuing) :
    (∃ text, exec (issueAccessToken strategies now atLifespan request) start =
        (.error (.failure text), start)) ∨
      ∃ token response,
        strategies.generateAccessToken request = .ok token ∧
        exec (issueAccessToken strategies now atLifespan request) start =
          (.ok token.2,
            { calls := start.calls ++
                [.createAccessTokenSession token.2 (request.sanitize [])]
              response := response }) ∧
        response.accessToken = token.1 ∧ response.tokenType = "bearer" ∧
        response.scopes = request.grantedScopes ∧
        response.extra = start.response.extra := by
  unfold issueAccessToken
  cases generated : strategies.generateAccessToken request with
  | error text => exact .inl ⟨text, rfl⟩
  | ok token => exact .inr ⟨token, _, rfl, rfl, rfl, rfl, rfl, rfl⟩

/-- The state after a refresh token, if there is one. -/
def addRefresh (request : Requester) (signature : String) (start : Issuing) :
    Option (String × String) → Issuing
  | none => start
  | some (refresh, refreshSignature) =>
      let stored := start.call
        (.createRefreshTokenSession refreshSignature signature
          (request.sanitize []))
      if refresh ≠ "" then
        stored.respond (·.setExtra "refresh_token" refresh)
      else stored

/-- The state after an ID token, if there is one. -/
def addID (request : Requester) (signature : String) (start : Issuing) :
    Option String → Issuing
  | none => start
  | some idToken =>
      (start.call (.createOpenIDConnectSession signature
        (request.sanitize []))).respond (·.setExtra "id_token" idToken)

/-- The issuance ends, or a refresh token is issued if the request asks for
one. -/
theorem exec_issueRefreshToken (request : Requester) (signature : String)
    (start : Issuing) :
    (∃ debug,
      exec (issuer.issueRefreshToken strategies request signature) start =
        (.error (.serverError debug), start)) ∨
      ∃ refresh,
        exec (issuer.issueRefreshToken strategies request signature) start =
          (.ok (), addRefresh request signature start refresh) ∧
        (∀ token ∈ refresh, issuer.asksRefreshToken request = true ∧
          strategies.generateRefreshToken request = .ok token) ∧
        (issuer.asksRefreshToken request = true →
          refresh.isSome = true) := by
  unfold issueRefreshToken
  by_cases asked : issuer.asksRefreshToken request = true
  · rw [if_pos asked]
    cases generated : strategies.generateRefreshToken request with
    | error text => exact .inl ⟨_, rfl⟩
    | ok token =>
        refine .inr ⟨some token, ?_, ?_, fun _ => rfl⟩
        · simp only [addRefresh]
          split <;> rfl
        · rintro _ ⟨⟩
          exact ⟨asked, rfl⟩
  · rw [if_neg asked]
    refine .inr ⟨none, rfl, ?_, fun asks => absurd asks asked⟩
    rintro _ ⟨⟩

theorem exec_issueIDToken (request : Requester) (signature : String)
    (start : Issuing) :
    (∃ debug,
      exec (issuer.issueIDToken strategies request signature) start =
        (.error (.serverError debug), start)) ∨
      ∃ id,
        exec (issuer.issueIDToken strategies request signature) start =
          (.ok (), addID request signature start id) ∧
        (∀ token ∈ id,
          request.library.has request.grantedScopes "openid" = true ∧
          strategies.generateIDToken
              (request.client.getEffectiveLifespan .idToken
                issuer.idTokenLifespan) request =
            .ok token) ∧
        (request.library.has request.grantedScopes "openid" = true →
          id.isSome = true) := by
  unfold issueIDToken
  by_cases asked : request.library.has request.grantedScopes "openid" = true
  · rw [if_pos asked]
    simp only
    cases generated : strategies.generateIDToken
        (request.client.getEffectiveLifespan .idToken
          issuer.idTokenLifespan) request with
    | error text => exact .inl ⟨_, rfl⟩
    | ok token =>
        refine .inr ⟨some token, rfl, ?_, fun _ => rfl⟩
        rintro _ ⟨⟩
        exact ⟨asked, rfl⟩
  · rw [if_neg asked]
    refine .inr ⟨none, rfl, ?_, fun asks => absurd asks asked⟩
    rintro _ ⟨⟩

theorem calls_addRefresh (request : Requester) (signature : String)
    (start : Issuing) (refresh : Option (String × String)) :
    (addRefresh request signature start refresh).calls =
      start.calls ++ refresh.toList.map fun token =>
        .createRefreshTokenSession token.2 signature
          (request.sanitize []) := by
  unfold addRefresh
  split
  · simp
  · simp only
    split <;> rfl

theorem calls_addID (request : Requester) (signature : String)
    (start : Issuing) (id : Option String) :
    (addID request signature start id).calls =
      start.calls ++ id.toList.map fun _ =>
        .createOpenIDConnectSession signature (request.sanitize []) := by
  cases id with
  | none => simp [addID]
  | some token => rfl

theorem carried_added {issued : IssuedTokens} {request : Requester}
    {start : Issuing}
    (access : start.response.accessToken = issued.access.1)
    (bearer : start.response.tokenType = "bearer")
    (scopes : start.response.scopes = request.grantedScopes)
    (bare : start.response.extra = []) :
    issued.Carried request
      (addID request issued.access.2
        (addRefresh request issued.access.2 start issued.refresh)
        issued.id).response := by
  obtain ⟨signed, refresh, id⟩ := issued
  rcases refresh with _ | ⟨token, signature⟩
  · cases id <;> constructor <;>
      simp [addID, addRefresh, Issuing.respond, Issuing.call,
        AccessResponse.setExtra, GoMap.get_set, access, bearer, scopes, bare]
  · by_cases sent : token = "" <;> cases id <;> constructor <;>
      simp [addID, addRefresh, Issuing.respond, Issuing.call,
        AccessResponse.setExtra, GoMap.get_set, access, bearer, scopes, bare,
        sent, Option.filter]

/-- What an issuance leaves: an error that comes before any token and nothing
stored, or the calls of an access token and perhaps others.  A success then
carries all that was asked for. -/
theorem exec_populateTokenEndpointResponse (request : AccessRequester) :
    let outcome :=
      exec (issuer.populateTokenEndpointResponse strategies now request)
        { calls := [], response := .empty }
    (outcome.2.calls = [] ∧ ∃ failure, outcome.1 = .error failure ∧
        ∀ debug, failure ≠ .serverError debug) ∨
      ∃ issued : IssuedTokens,
        issued.Generated issuer strategies request.toRequester ∧
        outcome.2.calls = issued.calls request.toRequester ∧
        (outcome.1 = .ok () → issued.Complete issuer request.toRequester
          outcome.2.response) ∧
        ∀ failure, outcome.1 = .error failure →
          ∃ debug, failure = .serverError debug := by
  unfold populateTokenEndpointResponse
  cases PasswordGrantHandler.canHandleTokenEndpointRequest request with
  | false => exact .inl ⟨rfl, _, rfl, fun _ => IssueError.noConfusion⟩
  | true =>
  simp only [InPlace.check, if_true, pure_bind, InPlace.exec_bind]
  obtain ⟨text, failed⟩ | ⟨access, response, generated, stored, token, bearer,
      scopes, bare⟩ :=
    exec_issueAccessToken strategies now
      (request.client.getEffectiveLifespan .accessToken
        issuer.accessTokenLifespan)
      request.toRequester { calls := [], response := .empty }
  · rw [failed]
    exact .inl ⟨rfl, _, rfl, fun _ => IssueError.noConfusion⟩
  right
  simp only [stored]
  generalize reached : Issuing.mk _ response = afterAccess
  obtain ⟨debug, failed⟩ | ⟨refresh, refreshed, refreshGenerated, asked⟩ :=
    issuer.exec_issueRefreshToken strategies request.toRequester access.2
      afterAccess
  · rw [failed]
    refine ⟨⟨access, none, none⟩, ⟨generated, ?_, ?_⟩, ?_, ?_, ?_⟩
    · rintro _ ⟨⟩
    · rintro _ ⟨⟩
    · rw [← reached]
      rfl
    · rintro ⟨⟩
    · rintro _ ⟨⟩
      exact ⟨debug, rfl⟩
  simp only [refreshed]
  obtain ⟨debug, failed⟩ | ⟨id, identified, idGenerated, idAsked⟩ :=
    issuer.exec_issueIDToken strategies request.toRequester access.2
      (addRefresh request.toRequester access.2 afterAccess refresh)
  · rw [failed]
    refine ⟨⟨access, refresh, none⟩, ⟨generated, refreshGenerated, ?_⟩,
      ?_, ?_, ?_⟩
    · rintro _ ⟨⟩
    · rw [calls_addRefresh, ← reached]
      simp [IssuedTokens.calls]
    · rintro ⟨⟩
    · rintro _ ⟨⟩
      exact ⟨debug, rfl⟩
  rw [identified]
  refine ⟨⟨access, refresh, id⟩, ⟨generated, refreshGenerated, idGenerated⟩,
    ?_, fun _ => ?_, ?_⟩
  · rw [calls_addID, calls_addRefresh, ← reached]
    simp [IssuedTokens.calls]
  · subst reached
    exact ⟨carried_added token bearer scopes bare, asked, idAsked⟩
  · rintro _ ⟨⟩

end TokenIssuer

end Kubauth
