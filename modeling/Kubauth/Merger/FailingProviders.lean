import Kubauth.Merger.Enrichment

/-!
# Failing providers

The exchange with a provider may fail.  That is fatal if the provider is
critical.  Any other provider then answers a placeholder, which must not be
visible in the response except among its details.
-/

namespace Kubauth.Merger

namespace Provider

/-- Whether the exchange succeeds. -/
def succeeds (provider : Provider) (request : IdentityRequest) : Bool :=
  match provider.exchange request with
  | .ok _ => true
  | .error _ => false

/-- What stands for the answer of a provider that fails and is not critical. -/
def placeholder (provider : Provider) (login : String) : UserDetail :=
  { user := initUser login
    status := Status.undefined
    provider := provider.getSpec
    translated := { uid := none, groups := [], claims := [] } }

variable (sprintf : String → String → String) (request : IdentityRequest)

theorem succeeds_eq_false_iff (provider : Provider) :
    provider.succeeds request = false ↔
      ∃ failure, provider.exchange request = .error failure := by
  unfold succeeds
  cases provider.exchange request <;> simp

theorem getUserDetail_of_fails {provider : Provider}
    (fails : provider.succeeds request = false)
    (tolerated : provider.critical = false) :
    provider.getUserDetail sprintf request.login request.password =
      .ok (provider.placeholder request.login) := by
  obtain ⟨failure, exchanged⟩ :=
    (provider.succeeds_eq_false_iff request).mp fails
  unfold getUserDetail
  rw [exchanged]
  simp only [tolerated]
  rfl

theorem getUserDetail_of_succeeds {provider : Provider}
    (succeeds : provider.succeeds request = true) :
    ∃ detail, provider.getUserDetail sprintf request.login request.password =
      .ok detail := by
  unfold Provider.succeeds at succeeds
  unfold getUserDetail
  split at succeeds
  · next response exchanged =>
      rw [exchanged]
      exact ⟨_, rfl⟩
  · cases succeeds

/-- A provider answers unless it is critical and its exchange fails. -/
theorem getUserDetail_ok_iff (provider : Provider) :
    (∃ detail, provider.getUserDetail sprintf request.login
        request.password = .ok detail) ↔
      ¬(provider.critical = true ∧
        ∃ failure, provider.exchange request = .error failure) := by
  constructor
  · rintro ⟨detail, answered⟩ ⟨critical, failure, exchanged⟩
    unfold getUserDetail at answered
    rw [exchanged] at answered
    simp [critical] at answered
  · intro harmless
    cases outcome : provider.succeeds request with
    | true => exact getUserDetail_of_succeeds sprintf request outcome
    | false =>
        have failed := (provider.succeeds_eq_false_iff request).mp outcome
        have tolerated : provider.critical = false := by
          rw [Bool.eq_false_iff]
          exact fun critical => harmless ⟨critical, failed⟩
        exact ⟨_, getUserDetail_of_fails sprintf request outcome tolerated⟩

theorem detail_of_fails {provider : Provider} {detail : UserDetail}
    (fails : provider.succeeds request = false)
    (found : provider.getUserDetail sprintf request.login request.password =
      .ok detail) : detail = provider.placeholder request.login := by
  have harmless := (provider.getUserDetail_ok_iff sprintf request).mp
    ⟨detail, found⟩
  have failed := (provider.succeeds_eq_false_iff request).mp fails
  have tolerated : provider.critical = false := by
    rw [Bool.eq_false_iff]
    exact fun critical => harmless ⟨critical, failed⟩
  rw [getUserDetail_of_fails sprintf request fails tolerated] at found
  exact (Except.ok.inj found).symm

end Provider

/-! ## Responses that differ in their details only -/

structure Agrees (left right : IdentityResponse) : Prop where
  status : left.status = right.status
  authority : left.authority = right.authority
  user : left.user = right.user

theorem Agrees.refl (response : IdentityResponse) : Agrees response response :=
  ⟨rfl, rfl, rfl⟩

theorem Agrees.trans {first second third : IdentityResponse}
    (left : Agrees first second) (right : Agrees second third) :
    Agrees first third :=
  ⟨left.status.trans right.status, left.authority.trans right.authority,
    left.user.trans right.user⟩

theorem Agrees.mergeDetail {left right : IdentityResponse}
    (agrees : Agrees left right) (provider : Provider)
    (detail : UserDetail) :
    Agrees (mergeDetail left provider detail)
      (mergeDetail right provider detail) := by
  obtain ⟨user, status, details, authority⟩ := left
  obtain ⟨otherUser, otherStatus, otherDetails, otherAuthority⟩ := right
  obtain ⟨rfl, rfl, rfl⟩ := agrees
  rw [mergeDetail_eq, mergeDetail_eq, credited_eq, credited_eq]
  exact ⟨rfl, rfl, rfl⟩

/-- What the response of the loop always satisfies: its status is not below
the one it starts with, and its claims are not nil. -/
structure Started (response : IdentityResponse) : Prop where
  status : 1 ≤ priority response.status
  claims : response.user.claims = some response.user.claims.entries

theorem Started.mergeDetail {response : IdentityResponse}
    (started : Started response) (provider : Provider)
    (detail : UserDetail) :
    Started (mergeDetail response provider detail) := by
  constructor
  · rw [mergeDetail_status]
    split_ifs with decided
    · exact Nat.le_of_lt (Nat.lt_of_le_of_lt started.status decided.2)
    · exact started.status
  · rw [mergeDetail_claims]
    split_ifs
    · rfl
    · exact started.claims

theorem Started.mergeDetail_placeholder {response : IdentityResponse}
    (started : Started response) (provider : Provider) (login : String) :
    Agrees (Merger.mergeDetail response provider (provider.placeholder login))
      response := by
  have undecided : ¬priority response.status < priority Status.undefined := by
    have zero : priority Status.undefined = 0 := by decide
    omega
  constructor
  · rw [mergeDetail_status, if_neg]
    exact fun decided => undecided decided.2
  · rw [mergeDetail_authority, if_neg]
    exact fun decided => undecided decided.2.1
  · apply User.ext
    · exact mergeDetail_login response provider _
    · rw [mergeDetail_uid, if_neg]
      exact fun decided => undecided decided.2.1
    · rw [mergeDetail_name]
      split_ifs with unnamed
      · exact unnamed.2.symm
      · rfl
    · rw [mergeDetail_emails]
      split_ifs <;> rfl
    · rw [mergeDetail_groups]
      split_ifs
      · exact List.append_nil _
      · rfl
    · rw [mergeDetail_claims]
      split_ifs
      · rw [started.claims]
        exact congrArg some (nil_mergeMaps _)
      · rfl

/-! ## Whole lists of providers -/

section

variable {sprintf : String → String → String} {request : IdentityRequest}

/-- Leaving out the providers that fail leaves the merged response as it is,
details apart. -/
theorem Started.foldl_answers {response other : IdentityResponse}
    (started : Started response) (agrees : Agrees response other)
    {providers : List Provider}
    (answered : Answered sprintf request providers) :
    Agrees
      ((answers sprintf request providers).foldl
        (fun current answer => Merger.mergeDetail current answer.1 answer.2)
        response)
      ((answers sprintf request
          (providers.filter (·.succeeds request))).foldl
        (fun current answer => Merger.mergeDetail current answer.1 answer.2)
        other) := by
  induction providers generalizing response other with
  | nil => exact agrees
  | cons provider rest induction =>
      have laterAnswered : Answered sprintf request rest :=
        fun later member => answered later (List.mem_cons_of_mem _ member)
      obtain ⟨detail, found⟩ := answered provider List.mem_cons_self
      rw [answers_cons found, List.foldl_cons]
      cases outcome : provider.succeeds request with
      | true =>
          rw [List.filter_cons, if_pos outcome, answers_cons found,
            List.foldl_cons]
          exact induction (started.mergeDetail provider detail)
            (agrees.mergeDetail provider detail) laterAnswered
      | false =>
          have empty := Provider.detail_of_fails sprintf request outcome found
          rw [List.filter_cons, if_neg (by simp [outcome]), empty]
          exact induction (started.mergeDetail provider _)
            ((started.mergeDetail_placeholder provider _).trans agrees)
            laterAnswered

theorem started_initial (login : String) :
    Started
      { user := initUser login
        status := Status.userNotFound
        details := []
        authority := "" } :=
  ⟨Nat.le_of_eq priority_userNotFound.symm, rfl⟩

theorem answered_filter_succeeds (providers : List Provider) :
    Answered sprintf request (providers.filter (·.succeeds request)) := by
  intro provider member
  exact Provider.getUserDetail_of_succeeds sprintf request
    (List.mem_filter.mp member).2

end

/-- Failing providers.  The merger fails exactly when the exchange with a
critical provider does.  Otherwise its response is the one that it gives for
the providers whose exchange succeeds, except for the details, which list one
entry for each provider, in order. -/
theorem authenticate_failing_providers (sprintf : String → String → String)
    (request : IdentityRequest) (providers : List Provider) :
    ((∃ failure, authenticate sprintf providers request = .error failure) ↔
      ∃ provider ∈ providers, provider.critical = true ∧
        ∃ failure, provider.exchange request = .error failure) ∧
    ∀ response, authenticate sprintf providers request = .ok response →
      (∃ other, authenticate sprintf
            (providers.filter (·.succeeds request)) request = .ok other ∧
          response.status = other.status ∧
          response.authority = other.authority ∧
          response.user = other.user) ∧
        response.details.map .ok =
          providers.map fun provider =>
            provider.getUserDetail sprintf request.login
              request.password := by
  constructor
  · have fails : (∃ failure, authenticate sprintf providers request =
        .error failure) ↔ ¬Answered sprintf request providers := by
      constructor
      · rintro ⟨failure, returned⟩ answered
        have succeeded := (authenticate_ok_iff _).mpr ⟨answered, rfl⟩
        rw [returned] at succeeded
        cases succeeded
      · intro unanswered
        cases outcome : authenticate sprintf providers request with
        | error failure => exact ⟨failure, rfl⟩
        | ok response =>
            exact absurd ((authenticate_ok_iff response).mp outcome).1
              unanswered
    rw [fails]
    unfold Answered
    simp only [Provider.getUserDetail_ok_iff]
    push Not
    rfl
  · intro response returned
    obtain ⟨answered, rfl⟩ := (authenticate_ok_iff response).mp returned
    have agrees := (started_initial request.login).foldl_answers
      (Agrees.refl _) answered
    constructor
    · refine ⟨_, (authenticate_ok_iff _).mpr
        ⟨answered_filter_succeeds providers, rfl⟩, agrees.status,
        agrees.authority, ?_⟩
      have user : (mergeAnswers request.login
          (answers sprintf request providers)).user =
            (mergeAnswers request.login (answers sprintf request
              (providers.filter (·.succeeds request)))).user := agrees.user
      unfold withSortedGroups
      rw [user]
    · have details : (withSortedGroups (mergeAnswers request.login
          (answers sprintf request providers))).details =
            (answers sprintf request providers).map Prod.snd :=
        (enriched_mergeAnswers request.login _).details
      rw [details, List.map_map]
      exact map_answers answered

/-- A provider that is down, before the others. -/
def failingProviders : List Provider :=
  Provider.new { plainConfig "backup" with critical := some false }
      (fun _ => .error "connection refused") ::
    enrichingProviders

theorem authenticate_failing_providers_backup :
    ∃ response other,
      authenticate (fun _ text => text) failingProviders
          { login := "jim", password := "jim123" } = .ok response ∧
        authenticate (fun _ text => text) enrichingProviders
          { login := "jim", password := "jim123" } = .ok other ∧
        response.user = other.user ∧ response.details.length = 3 := by
  obtain ⟨response, answered⟩ : ∃ response,
      authenticate (fun _ text => text) failingProviders
        { login := "jim", password := "jim123" } = .ok response := ⟨_, rfl⟩
  obtain ⟨⟨other, returned, -, -, user⟩, details⟩ :=
    (authenticate_failing_providers (fun _ text => text)
      { login := "jim", password := "jim123" } failingProviders).2 response
      answered
  refine ⟨response, other, answered, returned, user, ?_⟩
  have lengths := congrArg List.length details
  rw [List.length_map, List.length_map] at lengths
  exact lengths

end Kubauth.Merger
