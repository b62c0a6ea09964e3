import Kubauth.Audit.Authenticator
import Kubauth.Authenticator
import Kubauth.Handlers.Identity
import Kubauth.Merger.FailingProviders

/-!
# The chain of identity services

The OIDC server asks the audit service, which asks the merger, which asks the
identity providers.  Each of them is a process of its own behind the same
handler, with a protector of its own.  Together they compute what the merger
would compute if it called the providers directly, and they authenticate a user
only on the word of a provider.
-/

namespace Kubauth.Handlers

open HttpClient Merger

variable {libraries : Libraries} {sprintf : String → String → String}

/-- An identity provider: its settings in the merger, the client that the merger
has for it, and its service. -/
structure Link (libraries : Libraries) where
  config : IdProviderConfig
  client : Client libraries
  service : Service

namespace Link

variable (link : Link libraries)

/-- The provider as the merger sees it. -/
def provider : Provider :=
  .new link.config (link.client.exchange link.service)

/-- The provider without a network. -/
def direct : Provider :=
  .new link.config fun request =>
    match link.service.answer request with
    | some response => .ok response
    | none => .error "no answer"

end Link

/-- The processes, with their clients, their protectors and the failures of the
connections to them. -/
structure Deployment (libraries : Libraries) where
  providers : List (Link libraries)
  mergerClient : Client libraries
  mergerEntry : String → Bool
  mergerUnreachable : Option String
  auditClient : Client libraries
  auditEntry : String → Bool
  auditUnreachable : Option String
  records : List Audit.LoginAttempt
  now : Audit.Time

namespace Deployment

variable (deployment : Deployment libraries)
  (sprintf : String → String → String)

def merger : Service :=
  { authenticator :=
      Merger.authenticate sprintf (deployment.providers.map Link.provider)
    entryForLogin := deployment.mergerEntry
    unreachable := deployment.mergerUnreachable }

def audit : Service :=
  { authenticator := fun request =>
      (Audit.authenticate
        (deployment.mergerClient.exchange (deployment.merger sprintf))
        deployment.records deployment.now request).1
    entryForLogin := deployment.auditEntry
    unreachable := deployment.auditUnreachable }

/-- The exchange of the OIDC server. -/
def exchange : Exchange :=
  deployment.auditClient.exchange (deployment.audit sprintf)

end Deployment

/-! ## The chain computes the merger -/

theorem cases_of_toOption_eq {ε α : Type} {left right : Except ε α}
    (same : left.toOption = right.toOption) :
    (∃ result, left = .ok result ∧ right = .ok result) ∨
      ∃ failure other, left = .error failure ∧ right = .error other := by
  cases left with
  | error failure =>
      cases right with
      | error other => exact .inr ⟨failure, other, rfl, rfl⟩
      | ok result => cases same
  | ok result =>
      cases right with
      | error other => cases same
      | ok other =>
          cases same
          exact .inl ⟨result, rfl, rfl⟩

theorem authenticate_audit (exchange : Exchange)
    (records : List Audit.LoginAttempt) (now : Audit.Time)
    (request : IdentityRequest) :
    (Audit.authenticate exchange records now request).1 =
      exchange request := by
  unfold Audit.authenticate
  cases exchange request with
  | error failure => rfl
  | ok response =>
      dsimp only
      split
      · rfl
      · rfl

section

variable (sprintf : String → String → String)

theorem toOption_getUserDetail (link : Link libraries)
    (login password : String) :
    (link.provider.getUserDetail sprintf login password).toOption =
      (link.direct.getUserDetail sprintf login password).toOption := by
  have same : (link.provider.exchange ⟨login, password⟩).toOption =
      (link.direct.exchange ⟨login, password⟩).toOption := by
    refine (link.client.toOption_exchange link.service _).trans ?_
    dsimp only [Link.direct, Provider.new]
    cases link.service.answer ⟨login, password⟩ with
    | none => rfl
    | some response => rfl
  unfold Provider.getUserDetail
  obtain ⟨response, one, other⟩ | ⟨failure, text, one, other⟩ :=
    cases_of_toOption_eq same
  · rw [one, other]
    rfl
  · rw [one, other]
    have critical : link.provider.critical = link.direct.critical := rfl
    simp only [critical]
    split
    · rfl
    · rfl

theorem toOption_authenticateLoop (request : IdentityRequest)
    (links : List (Link libraries)) (response : IdentityResponse) :
    (authenticateLoop sprintf request (links.map Link.provider)
        response).toOption =
      (authenticateLoop sprintf request (links.map Link.direct)
        response).toOption := by
  induction links generalizing response with
  | nil => rfl
  | cons link links induction =>
      rw [List.map_cons, List.map_cons, authenticateLoop, authenticateLoop]
      obtain ⟨detail, one, other⟩ | ⟨failure, text, one, other⟩ :=
        cases_of_toOption_eq (toOption_getUserDetail sprintf link
          request.login request.password)
      · rw [one, other]
        exact induction _
      · rw [one, other]
        rfl

theorem toOption_authenticate (links : List (Link libraries))
    (request : IdentityRequest) :
    (Merger.authenticate sprintf (links.map Link.provider)
        request).toOption =
      (Merger.authenticate sprintf (links.map Link.direct)
        request).toOption := by
  unfold Merger.authenticate
  obtain ⟨response, one, other⟩ | ⟨failure, text, one, other⟩ :=
    cases_of_toOption_eq (toOption_authenticateLoop sprintf request links
      { user := initUser request.login
        status := Status.userNotFound
        details := []
        authority := "" })
  · rw [one, other]
  · rw [one, other]
    rfl

/-- A login that reaches the audit and the merger, and that the protectors of
these two let pass, gets what the merger computes from the answers of the
providers, written as JSON and read again.  Any other login, and one for which
the merger fails, gets an error. -/
theorem exchange_chain (deployment : Deployment libraries)
    (request : IdentityRequest) :
    (deployment.exchange sprintf request).toOption =
      if (deployment.audit sprintf).Admits request.login ∧
          (deployment.merger sprintf).Admits request.login then
        (Merger.authenticate sprintf (deployment.providers.map Link.direct)
          request).toOption.map IdentityResponse.decoded
      else none := by
  have audited : (deployment.audit sprintf).authenticator request =
      deployment.mergerClient.exchange (deployment.merger sprintf) request :=
    authenticate_audit _ _ _ _
  have merged : ((deployment.merger sprintf).authenticator request).toOption =
      (Merger.authenticate sprintf (deployment.providers.map Link.direct)
        request).toOption := toOption_authenticate sprintf _ _
  rw [Deployment.exchange, Client.toOption_exchange, Service.answer, audited,
    Client.toOption_exchange, Service.answer, merged]
  by_cases audits : (deployment.audit sprintf).Admits request.login
  · by_cases merges : (deployment.merger sprintf).Admits request.login
    · rw [if_pos audits, if_pos merges, if_pos ⟨audits, merges⟩]
      -- The document is read twice, which is as good as once.
      cases Merger.authenticate sprintf
          (deployment.providers.map Link.direct) request with
      | error failure => rfl
      | ok response =>
          exact congrArg some response.decoded_decoded
    · rw [if_pos audits, if_neg merges, if_neg fun both => merges both.2]
      rfl
  · rw [if_neg audits, if_neg fun both => audits both.1]

/-! ## Who vouches for a user -/

namespace Link

/-- The provider has a say in credentials, and answers the request with that
status. -/
def Answers (link : Link libraries) (request : IdentityRequest)
    (status : Status) : Prop :=
  boolPtrTrue link.config.credentialAuthority = true ∧
    ∃ response, link.service.answer request = some response ∧
      response.status = status

theorem exchange_direct (link : Link libraries) (request : IdentityRequest) :
    link.direct.exchange request =
      match link.service.answer request with
      | some response => .ok response
      | none => .error "no answer" :=
  rfl

theorem getUserDetail_direct {link : Link libraries}
    {request : IdentityRequest} {response : IdentityResponse}
    (answer : link.service.answer request = some response) :
    ∃ detail, link.direct.getUserDetail sprintf request.login
        request.password = .ok detail ∧
      detail.status = response.status ∧
      detail.provider.credentialAuthority =
        boolPtrTrue link.config.credentialAuthority := by
  have exchanged : link.direct.exchange request = .ok response := by
    rw [exchange_direct, answer]
  unfold Provider.getUserDetail
  rw [exchanged]
  exact ⟨_, rfl, rfl, rfl⟩

theorem status_of_answer_none {link : Link libraries}
    {request : IdentityRequest} {detail : UserDetail}
    (silent : link.service.answer request = none)
    (found : link.direct.getUserDetail sprintf request.login
      request.password = .ok detail) :
    detail.status = Status.undefined := by
  have fails : link.direct.succeeds request = false := by
    rw [Provider.succeeds_eq_false_iff, exchange_direct, silent]
    exact ⟨_, rfl⟩
  rw [Provider.detail_of_fails sprintf request fails found]
  rfl

/-- The answers that count for credentials are those of the services. -/
theorem mem_credentials_iff {links : List (Link libraries)}
    {request : IdentityRequest} {status : Status}
    (known : status ≠ Status.undefined) :
    (∃ answer ∈ credentials (answers sprintf request (links.map direct)),
        answer.2.status = status) ↔
      ∃ link ∈ links, link.Answers request status := by
  constructor
  · rintro ⟨⟨provider, detail⟩, member, same⟩
    obtain ⟨member, authority⟩ := List.mem_filter.mp member
    obtain ⟨asked, among, found⟩ := List.mem_filterMap.mp member
    obtain ⟨link, present, rfl⟩ := List.mem_map.mp among
    split at found
    · next detail' answered =>
        cases found
        cases answer : link.service.answer request with
        | none =>
            have silent := status_of_answer_none sprintf answer answered
            exact absurd (same.symm.trans silent) known
        | some response =>
            obtain ⟨other, returned, status, credential⟩ :=
              getUserDetail_direct sprintf answer
            rw [answered] at returned
            cases returned
            exact ⟨link, present, credential ▸ authority, response, answer,
              status.symm.trans same⟩
    · cases found
  · rintro ⟨link, present, authority, response, answer, same⟩
    obtain ⟨detail, returned, status, credential⟩ :=
      getUserDetail_direct sprintf answer
    refine ⟨(link.direct, detail), ?_, status.trans same⟩
    refine List.mem_filter.mpr ⟨?_, credential.trans authority⟩
    refine List.mem_filterMap.mpr
      ⟨link.direct, List.mem_map_of_mem present, ?_⟩
    rw [returned]

end Link

/-- What the word of the chain for a user rests on.  A provider that is not
critical may be silent, because it cannot be reached or its protector refuses
the login. -/
structure Vouched (deployment : Deployment libraries)
    (login password : String) : Prop where
  audits : (deployment.audit sprintf).Admits login
  merges : (deployment.merger sprintf).Admits login
  critical : ∀ link ∈ deployment.providers,
    boolPtrTrue link.config.critical = true →
      (link.service.answer ⟨login, password⟩).isSome
  enabled : ∀ link ∈ deployment.providers,
    ¬link.Answers ⟨login, password⟩ Status.disabled
  checked : ∃ link ∈ deployment.providers,
    link.Answers ⟨login, password⟩ Status.passwordChecked

/-- The OIDC server authenticates a user only if the audit and the merger are
reached and let the login pass, all critical providers answer, none that has a
say disables the user, and one that has a say has checked the very password. -/
theorem authenticate_vouched (deployment : Deployment libraries)
    (login password : String) (user : OidcUser)
    (authenticated : HttpProvider.authenticate (deployment.exchange sprintf)
      login password = .ok (some user)) :
    Vouched sprintf deployment login password := by
  have identified := HttpProvider.identify_of_authenticate authenticated
  obtain ⟨-, -, response, answered, checked⟩ :=
    HttpProvider.identify_ok identified
  have chain := exchange_chain sprintf deployment ⟨login, password⟩
  rw [answered] at chain
  split at chain
  next admitted =>
    cases outcome : Merger.authenticate sprintf
        (deployment.providers.map Link.direct) ⟨login, password⟩ with
    | error failure =>
        rw [outcome] at chain
        cases chain
    | ok merged =>
        rw [outcome] at chain
        have status : merged.status = Status.passwordChecked := by
          cases chain
          exact checked
        have answered := ((authenticate_ok_iff merged).mp outcome).1
        obtain ⟨response, returned, decided⟩ :=
          authenticate_decided sprintf _ _ answered
        rw [outcome] at returned
        cases returned
        obtain ⟨enabled, first, tested, accepted⟩ :=
          decided.passwordChecked_iff.mp status
        refine ⟨admitted.1, admitted.2, ?_, ?_, ?_⟩
        · intro link present critical
          have answers := answered link.direct (List.mem_map_of_mem present)
          have harmless := (Provider.getUserDetail_ok_iff sprintf
            ⟨login, password⟩ link.direct).mp answers
          rw [Option.isSome_iff_ne_none]
          intro silent
          exact harmless ⟨critical, "no answer", by
            rw [Link.exchange_direct, silent]⟩
        · intro link present disables
          obtain ⟨answer, member, off⟩ :=
            (Link.mem_credentials_iff sprintf (by decide)).mpr
              ⟨link, present, disables⟩
          exact enabled answer member off
        · exact (Link.mem_credentials_iff sprintf (by decide)).mp
            ⟨first, List.mem_of_find?_eq_some tested, accepted⟩
  · cases chain

end

def sampleLibraries : Libraries :=
  { joinPath := fun base path => .ok (base ++ path)
    newRequest := fun _ _ => .ok ()
    decodeError := fun _ => "invalid" }

def sampleClient (baseURL : String) : Client sampleLibraries :=
  { config := { baseURL := baseURL, httpAuth := none }
    url := baseURL ++ "v1/identity"
    joins := rfl
    builds := rfl }

/-- A provider that accepts one password, and one that locks everybody out but
is not critical. -/
def sampleDeployment : Deployment sampleLibraries :=
  { providers :=
      [{ config := default
         client := sampleClient "http://ldap/"
         service :=
          { authenticator := fun request =>
              .ok
                { user := initUser request.login
                  status :=
                    if request.password = "secret" then Status.passwordChecked
                    else Status.passwordFail
                  details := []
                  authority := "" }
            entryForLogin := fun _ => false
            unreachable := none } },
       { config := { (default : IdProviderConfig) with critical := some false }
         client := sampleClient "http://ucrd/"
         service :=
          { authenticator := fun _ => .error "not asked"
            entryForLogin := fun _ => true
            unreachable := none } }]
    mergerClient := sampleClient "http://merger/"
    mergerEntry := fun _ => false
    mergerUnreachable := none
    auditClient := sampleClient "http://audit/"
    auditEntry := fun _ => false
    auditUnreachable := none
    records := []
    now := default }

theorem authenticate_vouched_alice :
    Vouched (fun _ text => text) sampleDeployment "alice" "secret" :=
  authenticate_vouched (fun _ text => text) sampleDeployment "alice" "secret"
    _ rfl

end Kubauth.Handlers
