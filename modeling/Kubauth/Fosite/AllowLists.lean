import Kubauth.Fosite

/-!
# Grants and the allow-lists of the client

Granting adds scopes and audiences that nobody asked for: `openid` for a client
that forces it, the client's own id for a request without an audience.  The
library checks what was granted against the client again when a token is
refreshed, with the strategies that accepted the request.
-/

namespace Kubauth

theorem KubauthClient.clientId_mem_getAudience (client : KubauthClient) :
    client.clientId ∈ client.getAudience := by
  unfold getAudience
  split
  · assumption
  · exact List.mem_append_right _ (List.mem_singleton_self _)

namespace Requester

theorem mem_foldl_grantScope (scopes : List String) (request : Requester)
    (scope : String) :
    scope ∈ (scopes.foldl grantScope request).grantedScopes ↔
      scope ∈ request.grantedScopes ∨ scope ∈ scopes := by
  induction scopes generalizing request with
  | nil => simp
  | cons first scopes induction =>
      rw [List.foldl_cons, induction, List.mem_cons, ← or_assoc]
      exact or_congr_left request.library.mem_grant

theorem mem_foldl_grantAudience (audiences : List String)
    (request : Requester) (audience : String) :
    audience ∈ (audiences.foldl grantAudience request).grantedAudience ↔
      audience ∈ request.grantedAudience ∨ audience ∈ audiences := by
  induction audiences generalizing request with
  | nil => simp
  | cons first audiences induction =>
      rw [List.foldl_cons, induction, List.mem_cons, ← or_assoc]
      exact or_congr_left request.library.mem_grant

theorem mem_handleScopes (request : Requester) (scope : String) :
    scope ∈ request.handleScopes.grantedScopes ↔
      scope ∈ request.grantedScopes ∨ scope ∈ request.requestedScopes ∨
        request.client.isForceOpenIdScope = true ∧ scope = "openid" := by
  simp only [handleScopes]
  by_cases forced : request.client.isForceOpenIdScope = true
  · rw [if_pos forced, grantScope, RequestLibrary.mem_grant,
      mem_foldl_grantScope, or_assoc]
    simp only [forced, true_and]
  · rw [if_neg forced, mem_foldl_grantScope]
    simp only [forced, Bool.false_eq_true, false_and, or_false]

theorem mem_handleAudience (request : Requester) (audience : String) :
    audience ∈ request.handleAudience.grantedAudience ↔
      audience ∈ request.grantedAudience ∨
        audience ∈ request.requestedAudience ∨
          request.requestedAudience = [] ∧
            audience = request.client.clientId := by
  unfold handleAudience
  split
  · next unasked =>
      rw [grantAudience, RequestLibrary.mem_grant, unasked]
      simp only [List.not_mem_nil, true_and, false_or]
  · next asked =>
      rw [mem_foldl_grantAudience]
      simp only [iff_false_intro asked, false_and, or_false]

@[simp] theorem handleScopes_client (request : Requester) :
    request.handleScopes.client = request.client :=
  handleScopes_keeps client (fun _ _ => rfl) request

@[simp] theorem handleAudience_client (request : Requester) :
    request.handleAudience.client = request.client :=
  handleAudience_keeps client (fun _ _ => rfl) request

@[simp] theorem handleAudience_grantedScopes (request : Requester) :
    request.handleAudience.grantedScopes = request.grantedScopes :=
  handleAudience_keeps grantedScopes (fun _ _ => rfl) request

@[simp] theorem handleScopes_requestedAudience (request : Requester) :
    request.handleScopes.requestedAudience = request.requestedAudience :=
  handleScopes_keeps requestedAudience (fun _ _ => rfl) request

@[simp] theorem handleScopes_grantedAudience (request : Requester) :
    request.handleScopes.grantedAudience = request.grantedAudience :=
  handleScopes_keeps grantedAudience (fun _ _ => rfl) request

section Strategies

-- The two strategies of the library, one item at a time.
variable (scopeAccepted audienceAccepted : List String → String → Prop)

/-- All that the request asks for is accepted for its client. -/
structure Accepted (request : Requester) : Prop where
  scopes : ∀ scope ∈ request.requestedScopes,
    scopeAccepted request.client.getScopes scope
  audiences : ∀ audience ∈ request.requestedAudience,
    audienceAccepted request.client.getAudience audience

/-- All that the request was granted is accepted for its client. -/
structure WithinAllowLists (request : Requester) : Prop where
  scopes : ∀ scope ∈ request.grantedScopes,
    scopeAccepted request.client.getScopes scope
  audiences : ∀ audience ∈ request.grantedAudience,
    audienceAccepted request.client.getAudience audience

end Strategies

/-- The strategy that accepts what is in the list, and nothing else. -/
def Listed (allowed : List String) (item : String) : Prop :=
  item ∈ allowed

variable {scopeAccepted audienceAccepted : List String → String → Prop}

/-- The scopes of the request were accepted, so only a forced one may not be.
Nothing is assumed of the audiences. -/
theorem withinAllowLists_grants {request : Requester}
    (accepted : ∀ scope ∈ request.requestedScopes,
      scopeAccepted request.client.getScopes scope) :
    request.handleScopes.handleAudience.WithinAllowLists scopeAccepted
        audienceAccepted ↔
      request.WithinAllowLists scopeAccepted audienceAccepted ∧
        (request.client.isForceOpenIdScope = true →
          scopeAccepted request.client.getScopes "openid") ∧
        (∀ audience ∈ request.requestedAudience,
          audienceAccepted request.client.getAudience audience) ∧
        (request.requestedAudience = [] →
          audienceAccepted request.client.getAudience
            request.client.clientId) := by
  have scopes := mem_handleScopes request
  have audiences := mem_handleAudience request.handleScopes
  simp only [handleScopes_grantedAudience, handleScopes_requestedAudience,
    handleScopes_client] at audiences
  constructor
  · rintro ⟨scopesWithin, audiencesWithin⟩
    simp only [handleAudience_grantedScopes, handleAudience_client,
      handleScopes_client] at scopesWithin audiencesWithin
    refine ⟨⟨?_, ?_⟩, ?_, ?_, ?_⟩
    · intro scope earlier
      exact scopesWithin scope ((scopes scope).mpr (Or.inl earlier))
    · intro audience earlier
      exact audiencesWithin audience
        ((audiences audience).mpr (Or.inl earlier))
    · intro forced
      exact scopesWithin "openid"
        ((scopes "openid").mpr (Or.inr (Or.inr ⟨forced, rfl⟩)))
    · intro audience requested
      exact audiencesWithin audience
        ((audiences audience).mpr (Or.inr (Or.inl requested)))
    · intro unasked
      exact audiencesWithin _
        ((audiences _).mpr (Or.inr (Or.inr ⟨unasked, rfl⟩)))
  · rintro ⟨before, allowed, asked, unasked⟩
    constructor <;>
      simp only [handleAudience_grantedScopes, handleAudience_client,
        handleScopes_client]
    · intro scope member
      obtain earlier | requested | ⟨forced, rfl⟩ := (scopes scope).mp member
      · exact before.scopes scope earlier
      · exact accepted scope requested
      · exact allowed forced
    · intro audience member
      obtain earlier | requested | ⟨none, rfl⟩ :=
        (audiences audience).mp member
      · exact before.audiences audience earlier
      · exact asked audience requested
      · exact unasked none

/-- Grants stay within the allow-lists of the client exactly when the client
does not force an `openid` that it does not allow, and lists the very audiences
that are asked for, and not only some that the strategy matches with them.  The
default audience is always listed.

The check of the library when a token is refreshed asks less of the audiences:
those of the request were accepted before, and only the default one is new to
its strategy. -/
theorem withinAllowLists_grants_iff {request : Requester}
    (accepted : request.Accepted scopeAccepted audienceAccepted) :
    (request.handleScopes.handleAudience.WithinAllowLists scopeAccepted
        Listed ↔
      request.WithinAllowLists scopeAccepted Listed ∧
        (request.client.isForceOpenIdScope = true →
          scopeAccepted request.client.getScopes "openid") ∧
        ∀ audience ∈ request.requestedAudience,
          audience ∈ request.client.getAudience) ∧
      (request.handleScopes.handleAudience.WithinAllowLists scopeAccepted
          audienceAccepted ↔
        request.WithinAllowLists scopeAccepted audienceAccepted ∧
          (request.client.isForceOpenIdScope = true →
            scopeAccepted request.client.getScopes "openid") ∧
          (request.requestedAudience = [] →
            audienceAccepted request.client.getAudience
              request.client.clientId)) := by
  rw [withinAllowLists_grants accepted.scopes,
    withinAllowLists_grants accepted.scopes]
  constructor
  · have default := request.client.clientId_mem_getAudience
    constructor
    · rintro ⟨before, forced, asked, -⟩
      exact ⟨before, forced, asked⟩
    · rintro ⟨before, forced, asked⟩
      exact ⟨before, forced, asked, fun _ => default⟩
  · constructor
    · rintro ⟨before, forced, -, unasked⟩
      exact ⟨before, forced, unasked⟩
    · rintro ⟨before, forced, unasked⟩
      exact ⟨before, forced, accepted.audiences, unasked⟩

/-- A request of a client that forces `openid`. -/
def forcingRequest (scopes audiences requested : List String) : Requester :=
  let spec : OidcClientSpec :=
    { (default : OidcClientSpec) with
      scopes := scopes
      audiences := audiences
      forceOpenIdScope := some true }
  { (default : Requester) with
    client :=
      { clientId := "portal"
        k8sObject := { (default : OidcClient) with spec := spec }
        hashedSecrets := [] }
    requestedScopes := ["profile"]
    requestedAudience := requested }

theorem forcingRequest_within (scopes audiences requested : List String)
    (scopeAccepted audienceAccepted : List String → String → Prop) :
    (forcingRequest scopes audiences requested).WithinAllowLists scopeAccepted
      audienceAccepted := by
  constructor <;> intro item member <;> cases member

theorem forcingRequest_accepted {scopes audiences requested : List String}
    {audienceAccepted : List String → String → Prop}
    (allowed : "profile" ∈ scopes)
    (matched : ∀ audience ∈ requested,
      audienceAccepted
        (forcingRequest scopes audiences requested).client.getAudience
        audience) :
    (forcingRequest scopes audiences requested).Accepted Listed
      audienceAccepted := by
  refine ⟨?_, matched⟩
  intro scope member
  obtain rfl : scope = "profile" := List.mem_singleton.mp member
  exact allowed

/-- The strategy that accepts what continues something in the list. -/
def ContinuesListed (allowed : List String) (item : String) : Prop :=
  ∃ listed ∈ allowed, listed.toList <+: item.toList

theorem continuesListed_of_mem {allowed : List String} {item : String}
    (member : item ∈ allowed) : ContinuesListed allowed item :=
  ⟨item, member, [], List.append_nil _⟩

theorem forced_openid_within :
    let request := forcingRequest ["profile", "openid"] ["https://api"]
      ["https://api"]
    request.handleScopes.handleAudience.WithinAllowLists Listed Listed ∧
      request.handleScopes.handleAudience.WithinAllowLists Listed
        ContinuesListed := by
  intro request
  have listed : ∀ audience ∈ request.requestedAudience,
      audience ∈ request.client.getAudience := by
    intro audience member
    obtain rfl := List.mem_singleton.mp member
    exact List.mem_cons_self
  have accepted : request.Accepted Listed ContinuesListed :=
    forcingRequest_accepted List.mem_cons_self
      (fun audience member => continuesListed_of_mem (listed audience member))
  have forced : Listed request.client.getScopes "openid" :=
    List.mem_cons_of_mem _ (List.mem_singleton_self "openid")
  obtain ⟨within, revalidated⟩ := withinAllowLists_grants_iff accepted
  constructor
  · exact within.mpr ⟨forcingRequest_within _ _ _ _ _, fun _ => forced, listed⟩
  · refine revalidated.mpr
      ⟨forcingRequest_within _ _ _ _ _, fun _ => forced, fun unasked => ?_⟩
    cases unasked

/-- `openid` is granted to a client that allows `profile` only.  And an audience
is granted that the client does not list, but one that it continues. -/
theorem forced_openid_outside :
    (let request := forcingRequest ["profile"] [] []
     request.Accepted Listed Listed ∧
      request.handleScopes.handleAudience.grantedScopes =
        ["profile", "openid"] ∧
      ¬request.handleScopes.handleAudience.WithinAllowLists Listed Listed) ∧
    (let request := forcingRequest ["profile", "openid"] ["https://api"]
      ["https://api/v1"]
     request.Accepted Listed ContinuesListed ∧
      request.handleScopes.handleAudience.WithinAllowLists Listed
        ContinuesListed ∧
      ¬request.handleScopes.handleAudience.WithinAllowLists Listed Listed) := by
  constructor
  · refine ⟨?_, rfl, ?_⟩
    · exact forcingRequest_accepted (List.mem_singleton_self _)
        (fun audience member => by cases member)
    · intro within
      have listed : "openid" ∈ ["profile"] :=
        within.scopes "openid" (by decide)
      exact absurd listed (by decide)
  · have matched : ∀ audience ∈ ["https://api/v1"],
        ContinuesListed ["https://api", "portal"] audience := by
      intro audience member
      obtain rfl := List.mem_singleton.mp member
      exact ⟨"https://api", List.mem_cons_self, by decide⟩
    have accepted : (forcingRequest ["profile", "openid"] ["https://api"]
        ["https://api/v1"]).Accepted Listed ContinuesListed :=
      forcingRequest_accepted List.mem_cons_self matched
    refine ⟨accepted, ?_, ?_⟩
    · refine (withinAllowLists_grants accepted.scopes).mpr ⟨?_, ?_, ?_, ?_⟩
      · exact forcingRequest_within _ _ _ _ _
      · intro
        exact List.mem_cons_of_mem _ (List.mem_singleton_self "openid")
      · exact matched
      · intro unasked
        cases unasked
    · intro within
      have listed : "https://api/v1" ∈ ["https://api", "portal"] :=
        within.audiences "https://api/v1" (by decide)
      exact absurd listed (by decide)

end Requester

end Kubauth
