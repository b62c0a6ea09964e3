import Kubauth.HttpClient
import Kubauth.Server.UpstreamWelcome

/-!
# The identity service

Each service of the identity protocol answers it with the same handler, and is
asked through the same function `Exchange`.  From one end to the other a
response arrives as a decoded JSON document, and every refusal as an error.
-/

namespace Kubauth

/-! ## Documents that were sent -/

namespace User

/-- A user that was marshalled and unmarshalled. -/
def decoded (user : User) : User :=
  { user with claims := user.claims.map decodedEntries }

end User

namespace UserDetail

def decoded (detail : UserDetail) : UserDetail :=
  { detail with
    user := detail.user.decoded
    translated :=
      { detail.translated with
        claims := decodedEntries detail.translated.claims } }

end UserDetail

namespace IdentityResponse

def decoded (response : IdentityResponse) : IdentityResponse :=
  { response with
    user := response.user.decoded
    details := response.details.map UserDetail.decoded }

end IdentityResponse

theorem decodedItems_map_str (texts : List String) :
    decodedItems (texts.map .str) = texts.map .str := by
  induction texts with
  | nil => rfl
  | cons text texts induction =>
      rw [List.map_cons, decodedItems, induction]
      rfl

mutual

theorem Value.decoded_decoded (value : Value) :
    value.decoded.decoded = value.decoded := by
  cases value with
  | null => rfl
  | bool value => rfl
  | num value => rfl
  | int value => rfl
  | str value => rfl
  | strs values =>
      rw [Value.decoded, Value.decoded]
      exact congrArg Value.arr (decodedItems_map_str values)
  | arr items =>
      rw [Value.decoded, Value.decoded]
      exact congrArg Value.arr (decodedItems_decodedItems items)
  | map entries =>
      rw [Value.decoded, Value.decoded]
      exact congrArg Value.map (decodedEntries_decodedEntries entries)

theorem decodedItems_decodedItems (items : List Value) :
    decodedItems (decodedItems items) = decodedItems items := by
  cases items with
  | nil => rfl
  | cons item items =>
      rw [decodedItems, decodedItems, Value.decoded_decoded item,
        decodedItems_decodedItems items]

theorem decodedEntries_decodedEntries (entries : List (String × Value)) :
    decodedEntries (decodedEntries entries) = decodedEntries entries := by
  cases entries with
  | nil => rfl
  | cons entry entries =>
      obtain ⟨key, value⟩ := entry
      rw [decodedEntries, decodedEntries, Value.decoded_decoded value,
        decodedEntries_decodedEntries entries]

end

theorem User.decoded_decoded (user : User) :
    user.decoded.decoded = user.decoded := by
  unfold User.decoded
  cases user.claims with
  | none => rfl
  | some claims =>
      simp only [Option.map_some, decodedEntries_decodedEntries]

theorem UserDetail.decoded_decoded (detail : UserDetail) :
    detail.decoded.decoded = detail.decoded := by
  unfold UserDetail.decoded
  simp only [User.decoded_decoded, decodedEntries_decodedEntries]

theorem IdentityResponse.decoded_decoded (response : IdentityResponse) :
    response.decoded.decoded = response.decoded := by
  unfold IdentityResponse.decoded
  simp only [User.decoded_decoded, List.map_map, Function.comp_def,
    UserDetail.decoded_decoded]

namespace Handlers

open HttpClient

/-! ## The server -/

abbrev Authenticator := IdentityRequest → Except String IdentityResponse

/-- Nothing, or what the validator writes in place of an answer. -/
abbrev Validator := HttpRequest → IdentityRequest → Option HttpResponse

/-- `http.Error`. -/
def httpError (statusCode : Nat) (statusText text : String) : HttpResponse :=
  { statusCode := statusCode
    status := toString statusCode ++ " " ++ statusText
    body := .text (text ++ "\n") }

def onlyGetValidator : Validator := fun request _ =>
  if request.method ≠ "GET" then
    some (httpError 405 "Method Not Allowed" "Method not allowed")
  else none

/-- A handler, with what its protector answers at the time. -/
structure IdentityHandler where
  validators : List Validator
  authenticator : Authenticator
  entryForLogin : String → Bool

variable (libraries : Libraries)

def decodeRequest : Body → Except String IdentityRequest
  | .identityRequest request => .ok request
  | body => .error (libraries.decodeError body)

/-- What is written, and what the protector is told. -/
def IdentityHandler.serveHTTP (handler : IdentityHandler)
    (request : HttpRequest) : HttpResponse × Option (String × Status) :=
  match decodeRequest libraries request.body with
  | .error failure =>
      (httpError 400 "Bad Request" ("Payload decoding: " ++ failure), none)
  | .ok identityRequest =>
      if handler.entryForLogin identityRequest.login then
        (httpError 503 "Service Unavailable" "locked", none)
      else
        match handler.validators.findSome? fun aValidator =>
            aValidator request identityRequest with
        | some refusal => (refusal, none)
        | none =>
            match handler.authenticator identityRequest with
            | .error failure =>
                (httpError 500 "Internal Server Error" failure, none)
            | .ok identityResponse =>
                ({ statusCode := 200
                   status := "200 OK"
                   body := .identityResponse identityResponse },
                  some (identityRequest.login, identityResponse.status))

/-! ## The client -/

def decodeResponse : Body → Except String IdentityResponse
  | .identityResponse response => .ok response.decoded
  | body => .error (libraries.decodeError body)

/-- `Exchange`, as all callers use it: `GET` on `v1/identity`. -/
def exchange (config : Config) (network : Network) : Exchange := fun request =>
  match doRequest libraries config network "GET" "v1/identity"
      "application/json" (.identityRequest request) with
  | .error failure => .error failure
  | .ok response =>
      match decodeResponse libraries response.body with
      | .error failure =>
          .error ("unable to unmarshal response: " ++ failure)
      | .ok identityResponse => .ok identityResponse

theorem toOption_exchange (config : Config) (network : Network)
    (request : IdentityRequest) :
    (exchange libraries config network request).toOption =
      (doRequest libraries config network "GET" "v1/identity"
        "application/json" (.identityRequest request)).toOption.bind
        fun response =>
          (decodeResponse libraries response.body).toOption := by
  unfold exchange
  cases doRequest libraries config network "GET" "v1/identity"
      "application/json" (.identityRequest request) with
  | error failure => rfl
  | ok response =>
      cases decoded : decodeResponse libraries response.body with
      | error failure => simp [decoded, Except.toOption]
      | ok identityResponse => simp [decoded, Except.toOption]

/-! ## From one end to the other -/

/-- An identity service as the commands set it up, with the failure of the
connection to it, if it cannot be reached at the time. -/
structure Service where
  authenticator : Authenticator
  entryForLogin : String → Bool
  unreachable : Option String

def Service.handler (service : Service) : IdentityHandler :=
  { validators := [onlyGetValidator]
    authenticator := service.authenticator
    entryForLogin := service.entryForLogin }

/-- A network that leads to the service, unless it cannot be reached. -/
def Service.network (service : Service) : Network := fun request =>
  match service.unreachable with
  | some failure => .error failure
  | none => .ok (service.handler.serveHTTP libraries request).1

variable {libraries} in
theorem Service.network_eq {service : Service}
    (reachable : service.unreachable = none) {request : HttpRequest}
    {identityRequest : IdentityRequest} (get : request.method = "GET")
    (body : request.body = .identityRequest identityRequest) :
    service.network libraries request =
      .ok (if service.entryForLogin identityRequest.login then
        httpError 503 "Service Unavailable" "locked"
      else
        match service.authenticator identityRequest with
        | .error failure => httpError 500 "Internal Server Error" failure
        | .ok identityResponse =>
            { statusCode := 200
              status := "200 OK"
              body := .identityResponse identityResponse }) := by
  have valid : [onlyGetValidator].findSome? (fun aValidator =>
      aValidator request identityRequest) = none := by
    simp [onlyGetValidator, get]
  simp only [Service.network, reachable, IdentityHandler.serveHTTP, body,
    decodeRequest, Service.handler, valid]
  split
  · rfl
  · cases service.authenticator identityRequest with
    | error failure => rfl
    | ok identityResponse => rfl

/-- The service gets to see the request, and lets it pass. -/
def Service.Admits (service : Service) (login : String) : Prop :=
  service.unreachable = none ∧ service.entryForLogin login = false

instance (service : Service) (login : String) :
    Decidable (service.Admits login) :=
  inferInstanceAs (Decidable (_ ∧ _))

/-- What the service answers, if it does. -/
def Service.answer (service : Service) (request : IdentityRequest) :
    Option IdentityResponse :=
  if service.Admits request.login then
    (service.authenticator request).toOption.map IdentityResponse.decoded
  else none

/-- A client with a proper URL. -/
structure Client where
  config : Config
  url : String
  joins : libraries.joinPath config.baseURL "v1/identity" = .ok url
  builds : libraries.newRequest "GET" url = .ok ()

namespace Client

variable {libraries} (client : Client libraries) (service : Service)

/-- The exchange of the client with a service that its URL leads to. -/
def exchange : Exchange :=
  Handlers.exchange libraries client.config (service.network libraries)

theorem toOption_exchange (request : IdentityRequest) :
    (client.exchange service request).toOption = service.answer request := by
  rw [exchange, Handlers.toOption_exchange]
  cases reached : service.unreachable with
  | some failure =>
      have refused : ¬service.Admits request.login := by
        rintro ⟨reachable, -⟩
        rw [reached] at reachable
        cases reachable
      have broken : ∀ sent, service.network libraries sent =
          .error failure := by
        intro sent
        rw [Service.network, reached]
      rw [Service.answer, if_neg refused, toOption_doRequest_of_error broken]
      rfl
  | none =>
      rw [toOption_doRequest client.joins client.builds
        (Service.network_eq reached rfl rfl), Service.answer]
      cases locked : service.entryForLogin request.login with
      | true =>
          have refused : ¬service.Admits request.login := by
            rintro ⟨-, unlocked⟩
            rw [locked] at unlocked
            cases unlocked
          rw [if_pos rfl, if_neg refused]
          rfl
      | false =>
          have admits : service.Admits request.login := ⟨reached, locked⟩
          rw [if_neg Bool.false_ne_true, if_pos admits]
          cases service.authenticator request with
          | error failure => rfl
          | ok identityResponse => rfl

end Client

end Handlers

end Kubauth
