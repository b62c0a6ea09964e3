import Kubauth.Proto

/-!
# The HTTP client of the identity protocol

A client adds its credentials to a request, sends it, and turns every status
other than 200 into an error.
-/

namespace Kubauth.HttpClient

structure HttpAuth where
  login : String
  password : String
  token : String
  deriving Repr, DecidableEq, Inhabited

structure Config where
  baseURL : String
  httpAuth : Option HttpAuth
  deriving Repr, DecidableEq, Inhabited

inductive Authorization where
  | basic (login password : String)
  | bearer (token : String)
  deriving Repr, DecidableEq, Inhabited

/-- A JSON document of the identity protocol, or anything else. -/
inductive Body where
  | identityRequest (request : IdentityRequest)
  | identityResponse (response : IdentityResponse)
  | text (content : String)
  deriving Repr, Inhabited

structure HttpRequest where
  method : String
  url : String
  contentType : String
  authorization : Option Authorization
  body : Body
  deriving Repr, Inhabited

structure HttpResponse where
  statusCode : Nat
  status : String
  body : Body
  deriving Repr, Inhabited

/-- What becomes of a request that is sent: an error of the connection, or a
response. -/
abbrev Network := HttpRequest → Except String HttpResponse

/-- Functions of the libraries: `url.JoinPath`, the checks of
`http.NewRequest`, and what the JSON decoder says of a body that is not the
document it is to be. -/
structure Libraries where
  joinPath : String → String → Except String String
  newRequest : String → String → Except String Unit
  decodeError : Body → String

variable (libraries : Libraries) (config : Config)

/-- The token takes the place of login and password. -/
def authorization : Option HttpAuth → Option Authorization
  | none => none
  | some auth =>
      let basic :=
        if auth.login ≠ "" then some (.basic auth.login auth.password)
        else none
      if auth.token ≠ "" then some (.bearer auth.token) else basic

def invalidStatus (response : HttpResponse) (method url : String) : String :=
  "invalid status code: " ++ toString response.statusCode ++ " (" ++
    response.status ++ ") on request '" ++ method ++ ":" ++ url ++ "'"

/-- The method `Do`. -/
def doRequest (network : Network) (method path contentType : String)
    (body : Body) : Except String HttpResponse :=
  match libraries.joinPath config.baseURL path with
  | .error failure =>
      .error ("unable to join " ++ path ++ " to " ++ config.baseURL ++ ": " ++
        failure)
  | .ok url =>
      match libraries.newRequest method url with
      | .error failure =>
          .error ("unable to build request '" ++ method ++ ":" ++ url ++
            "': " ++ failure)
      | .ok _ =>
          match network
              { method := method
                url := url
                contentType := contentType
                authorization := authorization config.httpAuth
                body := body } with
          | .error failure =>
              .error ("error on http connection on request '" ++ method ++
                ":" ++ url ++ "': " ++ failure)
          | .ok response =>
              if response.statusCode = 401 then .error "Unauthorized"
              else if response.statusCode = 404 then
                .error ("Resource '" ++ url ++ "' not found")
              else if response.statusCode ≠ 200 then
                .error (invalidStatus response method url)
              else .ok response

variable {libraries config}

theorem toOption_doRequest {network : Network}
    {method path contentType url : String} {body : Body}
    {response : HttpResponse}
    (joins : libraries.joinPath config.baseURL path = .ok url)
    (builds : libraries.newRequest method url = .ok ())
    (sent : network
      { method := method
        url := url
        contentType := contentType
        authorization := authorization config.httpAuth
        body := body } = .ok response) :
    (doRequest libraries config network method path contentType
      body).toOption =
      if response.statusCode = 200 then some response else none := by
  simp only [doRequest, joins, builds, sent]
  by_cases accepted : response.statusCode = 200
  · rw [if_pos accepted, if_neg (by rw [accepted]; decide),
      if_neg (by rw [accepted]; decide), if_neg (not_not.mpr accepted)]
    rfl
  · rw [if_neg accepted]
    split
    · rfl
    · split
      · rfl
      · rfl

theorem toOption_doRequest_of_error {network : Network}
    {method path contentType failure : String} {body : Body}
    (broken : ∀ request, network request = .error failure) :
    (doRequest libraries config network method path contentType
      body).toOption = none := by
  simp only [doRequest, broken]
  split
  · rfl
  · split
    · rfl
    · rfl

end Kubauth.HttpClient
