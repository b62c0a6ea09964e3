import Kubauth.Merger.Authenticator

/-!
# Enrichment by the merger

Besides the credential decision, the merger collects groups, emails, a name
and claims, each from the providers that are an authority for it.  Every field
follows its own discipline, and none depends on the others.
-/

namespace Kubauth.Merger

/-- The answers of the providers that are an authority of some kind. -/
def authorities (kind : ProviderSpec → Bool) (details : List UserDetail) :
    List UserDetail :=
  details.filter fun detail => kind detail.provider

/-- The first name that is not empty, or else the empty name. -/
def firstName (names : List String) : String :=
  (names.find? (· ≠ "")).getD ""

/-- The collected fields, in terms of the details seen so far. -/
structure Enriched (details : List UserDetail) (response : IdentityResponse) :
    Prop where
  groups : response.user.groups =
    (authorities (·.groupAuthority) details).flatMap (·.translated.groups)
  emails : response.user.emails =
    ((authorities (·.emailAuthority) details).flatMap
      (·.user.emails)).eraseDups
  name : response.user.name =
    firstName ((authorities (·.nameAuthority) details).map (·.user.name))
  claims : response.user.claims =
    some ((authorities (·.claimAuthority) details).foldl
      (fun claims detail => mergeMaps detail.translated.claims claims) [])
  details : response.details = details

/-! ## One answer -/

section

variable (response : IdentityResponse) (provider : Provider)
  (detail : UserDetail)

theorem mergeDetail_groups :
    (mergeDetail response provider detail).user.groups =
      if detail.provider.groupAuthority then
        response.user.groups ++ detail.translated.groups
      else response.user.groups := by
  rw [mergeDetail_eq, credited_eq]
  rfl

theorem mergeDetail_emails :
    (mergeDetail response provider detail).user.emails =
      if detail.provider.emailAuthority then
        appendIfNotPresent response.user.emails detail.user.emails
      else response.user.emails := by
  rw [mergeDetail_eq, credited_eq]
  rfl

theorem mergeDetail_name :
    (mergeDetail response provider detail).user.name =
      if detail.provider.nameAuthority ∧ response.user.name = "" then
        detail.user.name
      else response.user.name := by
  rw [mergeDetail_eq, credited_eq]
  rfl

theorem mergeDetail_claims :
    (mergeDetail response provider detail).user.claims =
      if detail.provider.claimAuthority then
        some (mergeMaps detail.translated.claims
          response.user.claims.entries)
      else response.user.claims := by
  rw [mergeDetail_eq, credited_eq]
  rfl

theorem mergeDetail_details :
    (mergeDetail response provider detail).details =
      response.details ++ [detail] := by
  rw [mergeDetail_eq, credited_eq]
  rfl

theorem mergeDetail_login :
    (mergeDetail response provider detail).user.login =
      response.user.login := by
  rw [mergeDetail_eq, credited_eq]
  rfl

end

theorem authorities_concat (kind : ProviderSpec → Bool)
    (details : List UserDetail) (detail : UserDetail) :
    authorities kind (details ++ [detail]) =
      authorities kind details ++
        if kind detail.provider then [detail] else [] := by
  rw [authorities, List.filter_append, List.filter_singleton]
  cases kind detail.provider <;> rfl

theorem firstName_concat (names : List String) (name : String) :
    firstName (names ++ [name]) =
      if firstName names = "" then name else firstName names := by
  unfold firstName
  rw [List.find?_append]
  cases found : names.find? (· ≠ "") with
  | none =>
      -- No name so far: this one is kept, be it empty or not.
      by_cases empty : name = ""
      · simp [empty]
      · simp [empty]
  | some first =>
      have kept : first ≠ "" := by
        simpa using List.find?_some found
      simp [kept]

theorem enriched_nil (request : IdentityRequest) :
    Enriched []
      { user := initUser request.login
        status := Status.userNotFound
        details := []
        authority := "" } := by
  constructor <;> rfl

theorem Enriched.mergeDetail {seen : List UserDetail}
    {response : IdentityResponse} (enriched : Enriched seen response)
    (provider : Provider) (detail : UserDetail) :
    Enriched (seen ++ [detail])
      (mergeDetail response provider detail) := by
  constructor
  · rw [mergeDetail_groups, authorities_concat, enriched.groups]
    split_ifs <;> simp
  · rw [mergeDetail_emails, authorities_concat, enriched.emails]
    split_ifs
    · rw [appendIfNotPresent_eraseDups]
      simp
    · simp
  · rw [mergeDetail_name, authorities_concat, enriched.name]
    by_cases authority : detail.provider.nameAuthority = true
    · simp only [authority, true_and, if_true, List.map_append,
        List.map_cons, List.map_nil, firstName_concat]
    · simp [authority]
  · rw [mergeDetail_claims, authorities_concat, enriched.claims]
    split_ifs <;> simp
  · rw [mergeDetail_details, enriched.details]

theorem Enriched.foldl {seen : List UserDetail} {response : IdentityResponse}
    (enriched : Enriched seen response) (later : List Answer) :
    Enriched (seen ++ later.map Prod.snd)
      (later.foldl
        (fun current answer => Merger.mergeDetail current answer.1 answer.2)
        response) := by
  induction later generalizing seen response with
  | nil => simpa using enriched
  | cons answer later induction =>
      have next := induction (enriched.mergeDetail answer.1 answer.2)
      simpa [List.append_assoc] using next

/-! ## The response -/

/-- What the loop of `Authenticate` makes of the answers. -/
def mergeAnswers (login : String) (answers : List Answer) :
    IdentityResponse :=
  answers.foldl
    (fun current answer => mergeDetail current answer.1 answer.2)
    { user := initUser login
      status := Status.userNotFound
      details := []
      authority := "" }

def withSortedGroups (response : IdentityResponse) : IdentityResponse :=
  { response with
    user :=
      { response.user with groups := dedupAndSort response.user.groups } }

theorem enriched_mergeAnswers (login : String) (answers : List Answer) :
    Enriched (answers.map Prod.snd) (mergeAnswers login answers) :=
  (enriched_nil { login := login, password := "" }).foldl answers

section

variable {sprintf : String → String → String} {request : IdentityRequest}
  {providers : List Provider}

/-- Every provider answers: none of them is critical and fails. -/
def Answered (sprintf : String → String → String)
    (request : IdentityRequest) (providers : List Provider) : Prop :=
  ∀ provider ∈ providers, ∃ detail,
    provider.getUserDetail sprintf request.login request.password =
      .ok detail

theorem answered_of_authenticateLoop {start final : IdentityResponse}
    (returned : authenticateLoop sprintf request providers start =
      .ok final) : Answered sprintf request providers := by
  induction providers generalizing start with
  | nil =>
      intro provider member
      cases member
  | cons first rest induction =>
      rw [authenticateLoop] at returned
      split at returned
      · cases returned
      · next detail found =>
          intro provider member
          rcases List.mem_cons.mp member with same | later
          · rw [same]
            exact ⟨detail, found⟩
          · exact induction returned provider later

/-- The merger returns a response exactly when every provider answers. -/
theorem authenticate_ok_iff (response : IdentityResponse) :
    authenticate sprintf providers request = .ok response ↔
      Answered sprintf request providers ∧
        response = withSortedGroups (mergeAnswers request.login
          (answers sprintf request providers)) := by
  constructor
  · intro returned
    have answered : Answered sprintf request providers := by
      unfold authenticate at returned
      split at returned
      · cases returned
      · next merged found => exact answered_of_authenticateLoop found
    refine ⟨answered, ?_⟩
    rw [authenticate, authenticateLoop_eq_foldl sprintf request providers _
      answered] at returned
    exact (Except.ok.inj returned).symm
  · rintro ⟨answered, rfl⟩
    rw [authenticate, authenticateLoop_eq_foldl sprintf request providers _
      answered]
    rfl

theorem answers_cons {provider : Provider} {detail : UserDetail}
    (found : provider.getUserDetail sprintf request.login request.password =
      .ok detail) :
    answers sprintf request (provider :: providers) =
      (provider, detail) :: answers sprintf request providers := by
  simp only [answers, List.filterMap_cons, found]

theorem map_answers (answered : Answered sprintf request providers) :
    (answers sprintf request providers).map (fun answer => .ok answer.2) =
      providers.map fun provider =>
        provider.getUserDetail sprintf request.login request.password := by
  induction providers with
  | nil => rfl
  | cons provider rest induction =>
      obtain ⟨detail, found⟩ := answered provider List.mem_cons_self
      have later := induction fun other member =>
        answered other (List.mem_cons_of_mem _ member)
      rw [answers_cons found, List.map_cons, List.map_cons, later, found]

theorem mem_authorities {kind : ProviderSpec → Bool}
    {details : List UserDetail} {detail : UserDetail} :
    detail ∈ authorities kind details ↔
      detail ∈ details ∧ kind detail.provider = true :=
  List.mem_filter

end

/-- The groups that the merger collects, as a set: those of the providers that
are an authority for groups. -/
theorem mem_groups_mergeAnswers (login : String) (answers : List Answer)
    (group : String) :
    group ∈ (withSortedGroups (mergeAnswers login answers)).user.groups ↔
      ∃ detail ∈ answers.map Prod.snd,
        detail.provider.groupAuthority = true ∧
          group ∈ detail.translated.groups := by
  have enriched := enriched_mergeAnswers login answers
  unfold withSortedGroups
  rw [mem_dedupAndSort, enriched.groups, List.mem_flatMap]
  simp only [mem_authorities, and_assoc]

/-- The enrichment of the user.  The groups are strictly increasing, and as a
set those of the authorities for groups, so that neither the order nor the
repetition of providers matters.  The emails are those of the authorities for
emails at their first occurrence.  The name is the first one that an authority
for names gives.  The details are those of the providers, in order. -/
theorem authenticate_enrichment (sprintf : String → String → String)
    (request : IdentityRequest) (providers : List Provider)
    (response : IdentityResponse)
    (returned : authenticate sprintf providers request = .ok response) :
    response.user.groups.Pairwise (· < ·) ∧
      (∀ group, group ∈ response.user.groups ↔
        ∃ detail ∈ response.details, detail.provider.groupAuthority = true ∧
          group ∈ detail.translated.groups) ∧
      (∀ rearranged : List Provider,
        (∀ provider, provider ∈ rearranged ↔ provider ∈ providers) →
        ∃ other, authenticate sprintf rearranged request = .ok other ∧
          other.user.groups = response.user.groups) ∧
      response.user.emails.Nodup ∧
      (∀ email, email ∈ response.user.emails ↔
        ∃ detail ∈ response.details, detail.provider.emailAuthority = true ∧
          email ∈ detail.user.emails) ∧
      response.user.emails =
        ((authorities (·.emailAuthority) response.details).flatMap
          (·.user.emails)).eraseDups ∧
      response.user.name =
        firstName ((authorities (·.nameAuthority) response.details).map
          (·.user.name)) ∧
      response.details.map .ok =
        providers.map fun provider =>
          provider.getUserDetail sprintf request.login request.password := by
  obtain ⟨answered, rfl⟩ := (authenticate_ok_iff response).mp returned
  have enriched := enriched_mergeAnswers request.login
    (answers sprintf request providers)
  have details : (withSortedGroups (mergeAnswers request.login
      (answers sprintf request providers))).details =
        (answers sprintf request providers).map Prod.snd := enriched.details
  have emails : (withSortedGroups (mergeAnswers request.login
      (answers sprintf request providers))).user.emails =
        ((authorities (·.emailAuthority) ((answers sprintf request
          providers).map Prod.snd)).flatMap (·.user.emails)).eraseDups :=
    enriched.emails
  rw [details]
  refine ⟨pairwise_dedupAndSort _, ?_, ?_, ?_, ?_, emails, enriched.name, ?_⟩
  · exact mem_groups_mergeAnswers request.login _
  · intro rearranged same
    have otherAnswered : Answered sprintf request rearranged :=
      fun provider member => answered provider ((same provider).mp member)
    refine ⟨_, (authenticate_ok_iff _).mpr ⟨otherAnswered, rfl⟩, ?_⟩
    apply (pairwise_dedupAndSort _).eq_of_mem_iff (pairwise_dedupAndSort _)
    intro group
    have sameDetails : ∀ detail,
        detail ∈ (answers sprintf request rearranged).map Prod.snd ↔
          detail ∈ (answers sprintf request providers).map Prod.snd := by
      intro detail
      simp only [answers, List.mem_map, List.mem_filterMap, same]
    have here := mem_groups_mergeAnswers request.login
      (answers sprintf request providers) group
    have there := mem_groups_mergeAnswers request.login
      (answers sprintf request rearranged) group
    simp only [sameDetails] at there
    exact there.trans here.symm
  · rw [emails]
    exact FirstOccurrences.nodup_eraseDups _
  · intro email
    rw [emails, List.mem_eraseDups, List.mem_flatMap]
    simp only [mem_authorities, and_assoc]
  · rw [List.map_map]
    exact map_answers answered

/-- A configuration that leaves everything to the defaults. -/
def plainConfig (name : String) : IdProviderConfig :=
  { name := name, credentialAuthority := none, groupAuthority := none,
    groupPattern := "", claimAuthority := none, claimPattern := "",
    nameAuthority := none, emailAuthority := none, critical := none,
    uidOffset := 0 }

def enrichingProviders : List Provider :=
  [ Provider.new (plainConfig "ldap") fun request => .ok
      { user :=
          { initUser request.login with
            emails := ["jim@corp", "jim@corp"], groups := ["ops", "dev"] }
        status := Status.passwordChecked, details := [], authority := "" },
    Provider.new (plainConfig "ucrd") fun request => .ok
      { user :=
          { initUser request.login with
            name := "Jim", emails := ["jim@home", "jim@corp"],
            groups := ["dev"] }
        status := Status.userNotFound, details := [], authority := "" } ]

theorem authenticate_enrichment_jim :
    ∃ response,
      authenticate (fun _ text => text) enrichingProviders
          { login := "jim", password := "jim123" } = .ok response ∧
        response.user.groups.Pairwise (· < ·) ∧
        "ops" ∈ response.user.groups ∧
        response.user.emails = ["jim@corp", "jim@home"] ∧
        response.user.name = "Jim" := by
  refine ⟨_, rfl, ?_⟩
  obtain ⟨increasing, groups, -, -, -, emails, name, -⟩ :=
    authenticate_enrichment (fun _ text => text)
      { login := "jim", password := "jim123" } enrichingProviders _ rfl
  refine ⟨increasing, ?_, emails.trans rfl, name.trans rfl⟩
  exact (groups "ops").mpr ⟨_, List.mem_cons_self, rfl, List.mem_cons_self⟩

end Kubauth.Merger
