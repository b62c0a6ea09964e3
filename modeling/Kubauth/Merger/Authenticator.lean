import Kubauth.Merger.Provider
import Mathlib.Data.List.Find
import Mathlib.Data.List.MinMax

/-!
# The merger

The merger asks every provider in turn and folds the answers into one
response.  Three of its fields are decided by the same comparison of status
priorities: the status, the authority and the uid.  They always come from one
provider, the first credential authority that reaches the highest priority.
-/

namespace Kubauth.Merger

def priorityByStatus : GoMap Status Nat :=
  [(Status.undefined, 0), (Status.userNotFound, 1),
    (Status.passwordMissing, 2), (Status.passwordUnchecked, 3),
    (Status.passwordChecked, 4), (Status.passwordFail, 4),
    (Status.disabled, 5)]

/-- A status outside the table has the zero priority. -/
def priority (status : Status) : Nat :=
  (priorityByStatus.get status).getD 0

/-- The body of the loop of `Authenticate`, once a provider has answered. -/
def mergeDetail (response : IdentityResponse) (provider : Provider)
    (detail : UserDetail) : IdentityResponse :=
  let credited : IdentityResponse :=
    if detail.provider.credentialAuthority then
      if priority response.status < priority detail.status then
        let decided := { response with status := detail.status }
        if priority Status.passwordMissing < priority detail.status then
          { decided with
            user := { decided.user with uid := detail.translated.uid }
            authority := provider.name }
        else decided
      else response
    else response
  let user := credited.user
  let groups :=
    if detail.provider.groupAuthority then
      user.groups ++ detail.translated.groups
    else user.groups
  let emails :=
    if detail.provider.emailAuthority then
      appendIfNotPresent user.emails detail.user.emails
    else user.emails
  let name :=
    if detail.provider.nameAuthority ∧ user.name = "" then detail.user.name
    else user.name
  let claims :=
    if detail.provider.claimAuthority then
      some (mergeMaps detail.translated.claims user.claims.entries)
    else user.claims
  { credited with
    user :=
      { user with
        groups := groups, emails := emails, name := name, claims := claims }
    details := credited.details ++ [detail] }

section

variable (sprintf : String → String → String)

/-- The loop of `Authenticate` over the providers not asked yet. -/
def authenticateLoop (request : IdentityRequest) :
    List Provider → IdentityResponse → Except String IdentityResponse
  | [], response => .ok response
  | provider :: rest, response =>
      match provider.getUserDetail sprintf request.login request.password with
      | .error failure => .error failure
      | .ok detail =>
          authenticateLoop request rest (mergeDetail response provider detail)

/-- `mergerAuthenticator.Authenticate`. -/
def authenticate (providers : List Provider) (request : IdentityRequest) :
    Except String IdentityResponse :=
  match authenticateLoop sprintf request providers
      { user := initUser request.login
        status := Status.userNotFound
        details := []
        authority := "" } with
  | .error failure => .error failure
  | .ok response =>
      .ok
        { response with
          user :=
            { response.user with
              groups := dedupAndSort response.user.groups } }

end

/-! ## Priorities -/

theorem priority_cases (status : Status) :
    priority status = 0 ∨ (status, priority status) ∈ priorityByStatus := by
  rw [priority]
  cases found : priorityByStatus.get status with
  | none => exact .inl rfl
  | some value => exact .inr (GoMap.mem_of_get found)

theorem priority_userNotFound : priority Status.userNotFound = 1 := by decide

theorem priority_eq_five_iff (status : Status) :
    priority status = 5 ↔ status = Status.disabled := by
  constructor
  · intro five
    have entry := priority_cases status
    rw [five] at entry
    simpa [priorityByStatus] using entry
  · rintro rfl
    decide

theorem priority_eq_four_iff (status : Status) :
    priority status = 4 ↔
      status = Status.passwordChecked ∨ status = Status.passwordFail := by
  constructor
  · intro four
    have entry := priority_cases status
    rw [four] at entry
    simpa [priorityByStatus] using entry
  · rintro (rfl | rfl) <;> decide

theorem priority_le_five (status : Status) : priority status ≤ 5 := by
  have table : ∀ entry ∈ priorityByStatus, entry.2 ≤ 5 := by decide
  obtain zero | member := priority_cases status
  · rw [zero]
    exact Nat.zero_le 5
  · exact table _ member

/-! ## The answers, and what the loop makes of them -/

/-- A provider together with what it answered. -/
abbrev Answer := Provider × UserDetail

namespace Answer

def priority (answer : Answer) : Nat :=
  Merger.priority answer.2.status

/-- Whether the answer says something about the password itself. -/
def testsPassword (answer : Answer) : Bool :=
  answer.2.status = Status.passwordChecked ∨
    answer.2.status = Status.passwordFail

end Answer

section

variable (sprintf : String → String → String)

/-- The answers of the providers that do not fail, in provider order. -/
def answers (request : IdentityRequest) (providers : List Provider) :
    List Answer :=
  providers.filterMap fun provider =>
    match provider.getUserDetail sprintf request.login request.password with
    | .ok detail => some (provider, detail)
    | .error _ => none

end

/-- The answers of the credential authorities. -/
def credentials (answers : List Answer) : List Answer :=
  answers.filter fun answer => answer.2.provider.credentialAuthority

/-- The first credential authority of maximal priority, provided that this
priority exceeds the one of `threshold`. -/
def decider (threshold : Status) (answers : List Answer) : Option Answer :=
  ((credentials answers).argmax Answer.priority).filter fun answer =>
    priority threshold < answer.priority

/-- The three fields decided by the comparison of priorities, in terms of the
answers seen so far. -/
structure Decided (answers : List Answer) (response : IdentityResponse) :
    Prop where
  status : response.status =
    ((decider Status.userNotFound answers).map (·.2.status)).getD
      Status.userNotFound
  authority : response.authority =
    ((decider Status.passwordMissing answers).map (·.1.name)).getD ""
  uid : response.user.uid =
    (decider Status.passwordMissing answers).bind (·.2.translated.uid)

/-- Every element before the first maximal one scores strictly less. -/
private theorem argmax_eq_find? {α : Type} (score : α → Nat)
    (items : List α) :
    ∀ winner, items.argmax score = some winner →
      items.find? (fun item => score winner ≤ score item) = some winner := by
  induction items using List.reverseRecOn with
  | nil => simp
  | append_singleton items item induction =>
      intro winner found
      rw [List.argmax_concat] at found
      cases previous : items.argmax score with
      | none =>
          have empty : items = [] := List.argmax_eq_none.mp previous
          subst empty
          simp [previous] at found
          subst winner
          simp
      | some best =>
          simp only [previous] at found
          split at found
          · next larger =>
              cases found
              have skipped : items.find? (fun candidate =>
                  score item ≤ score candidate) = none := by
                rw [List.find?_eq_none]
                intro candidate member
                have bound := List.le_of_mem_argmax member
                  (Option.mem_def.mpr previous)
                simp
                omega
              rw [List.find?_append, skipped]
              simp
          · rw [List.find?_append, induction winner (previous.trans found)]
            rfl

private theorem argmax_credentials_concat (seen : List Answer)
    (answer : Answer)
    (authority : answer.2.provider.credentialAuthority = true) :
    (credentials (seen ++ [answer])).argmax Answer.priority =
      match (credentials seen).argmax Answer.priority with
      | none => some answer
      | some best =>
          if best.priority < answer.priority then some answer
          else some best := by
  have appended :
      credentials (seen ++ [answer]) = credentials seen ++ [answer] := by
    simp [credentials, authority]
  rw [appended, List.argmax_concat]
  cases (credentials seen).argmax Answer.priority <;> rfl

private theorem decider_eq (threshold : Status) (answers : List Answer) :
    decider threshold answers =
      match (credentials answers).argmax Answer.priority with
      | none => none
      | some best =>
          if priority threshold < best.priority then some best else none := by
  rw [decider]
  cases (credentials answers).argmax Answer.priority with
  | none => rfl
  | some best => simp [Option.filter]

section

variable (response : IdentityResponse) (provider : Provider)
  (detail : UserDetail)

/-- The first part of `mergeDetail`, which looks at the status. -/
def credited : IdentityResponse :=
  if detail.provider.credentialAuthority then
    if priority response.status < priority detail.status then
      let decided := { response with status := detail.status }
      if priority Status.passwordMissing < priority detail.status then
        { decided with
          user := { decided.user with uid := detail.translated.uid }
          authority := provider.name }
      else decided
    else response
  else response

theorem credited_eq :
    credited response provider detail =
      { response with
        status :=
          if detail.provider.credentialAuthority = true ∧
              priority response.status < priority detail.status then
            detail.status
          else response.status
        authority :=
          if detail.provider.credentialAuthority = true ∧
              priority response.status < priority detail.status ∧
              priority Status.passwordMissing < priority detail.status then
            provider.name
          else response.authority
        user :=
          { response.user with
            uid :=
              if detail.provider.credentialAuthority = true ∧
                  priority response.status < priority detail.status ∧
                  priority Status.passwordMissing <
                    priority detail.status then
                detail.translated.uid
              else response.user.uid } } := by
  rw [credited]
  by_cases authority : detail.provider.credentialAuthority = true
  · by_cases higher : priority response.status < priority detail.status
    · by_cases tested :
          priority Status.passwordMissing < priority detail.status
      · simp only [authority, higher, tested, if_true, and_self]
      · simp only [authority, higher, tested, if_true, if_false, and_self,
          and_false]
    · simp only [authority, higher, if_true, if_false, and_false, false_and]
  · rw [if_neg authority, if_neg (fun both => authority both.1),
      if_neg (fun both => authority both.1),
      if_neg (fun both => authority both.1)]

/-- The second part of `mergeDetail`, which collects what the provider is an
authority for. -/
def collected : IdentityResponse :=
  { response with
    user :=
      { response.user with
        groups :=
          if detail.provider.groupAuthority then
            response.user.groups ++ detail.translated.groups
          else response.user.groups
        emails :=
          if detail.provider.emailAuthority then
            appendIfNotPresent response.user.emails detail.user.emails
          else response.user.emails
        name :=
          if detail.provider.nameAuthority ∧ response.user.name = "" then
            detail.user.name
          else response.user.name
        claims :=
          if detail.provider.claimAuthority then
            some (mergeMaps detail.translated.claims
              response.user.claims.entries)
          else response.user.claims }
    details := response.details ++ [detail] }

theorem mergeDetail_eq :
    mergeDetail response provider detail =
      collected (credited response provider detail) detail := rfl

theorem mergeDetail_status :
    (mergeDetail response provider detail).status =
      if detail.provider.credentialAuthority = true ∧
          priority response.status < priority detail.status then
        detail.status
      else response.status := by
  rw [mergeDetail_eq, credited_eq]
  rfl

theorem mergeDetail_authority :
    (mergeDetail response provider detail).authority =
      if detail.provider.credentialAuthority = true ∧
          priority response.status < priority detail.status ∧
          priority Status.passwordMissing < priority detail.status then
        provider.name
      else response.authority := by
  rw [mergeDetail_eq, credited_eq]
  rfl

theorem mergeDetail_uid :
    (mergeDetail response provider detail).user.uid =
      if detail.provider.credentialAuthority = true ∧
          priority response.status < priority detail.status ∧
          priority Status.passwordMissing < priority detail.status then
        detail.translated.uid
      else response.user.uid := by
  rw [mergeDetail_eq, credited_eq]
  rfl

end

theorem decided_nil (request : IdentityRequest) :
    Decided []
      { user := initUser request.login
        status := Status.userNotFound
        details := []
        authority := "" } := by
  constructor <;> rfl

/-- An equal answer never replaces the status that the response holds. -/
private theorem Decided.priority_status {seen : List Answer}
    {response : IdentityResponse} (decided : Decided seen response) :
    priority response.status =
      match (credentials seen).argmax Answer.priority with
      | none => 1
      | some best => if 1 < best.priority then best.priority else 1 := by
  rw [decided.status, decider_eq]
  cases (credentials seen).argmax Answer.priority with
  | none => simp [priority_userNotFound]
  | some best =>
      by_cases above : 1 < best.priority
      · simp only [priority_userNotFound, above, if_true, Option.map_some,
          Option.getD_some]
        rfl
      · simp only [priority_userNotFound, above, if_false, Option.map_none,
          Option.getD_none]

/-- One more answer changes the deciding provider exactly when it is a
credential authority whose priority exceeds both the one already reached and
the threshold. -/
private theorem Decided.decider_concat {seen : List Answer}
    {response : IdentityResponse} (decided : Decided seen response)
    (answer : Answer) (threshold : Status)
    (known : 1 ≤ priority threshold) :
    decider threshold (seen ++ [answer]) =
      if answer.2.provider.credentialAuthority = true ∧
          priority response.status < priority answer.2.status ∧
          priority threshold < priority answer.2.status then
        some answer
      else decider threshold seen := by
  by_cases authority : answer.2.provider.credentialAuthority = true
  · have reached := decided.priority_status
    have score : answer.priority = priority answer.2.status := rfl
    rw [decider_eq, decider_eq,
      argmax_credentials_concat seen answer authority]
    cases best : (credentials seen).argmax Answer.priority with
    | none =>
        simp only [best] at reached
        simp only [authority, true_and, reached, score]
        split_ifs <;> first | rfl | omega
    | some winner =>
        simp only [best] at reached
        by_cases larger : winner.priority < answer.priority
        · simp only [authority, true_and, reached, larger, if_true]
          split_ifs <;> first | rfl | omega
        · simp only [authority, true_and, reached, larger, if_false]
          split_ifs <;> first | rfl | omega
  · have unchanged : credentials (seen ++ [answer]) = credentials seen := by
      simp [credentials, authority]
    simp only [authority, Bool.false_eq_true, false_and, if_false, decider,
      unchanged]

theorem Decided.one_le_priority {seen : List Answer}
    {response : IdentityResponse} (decided : Decided seen response) :
    1 ≤ priority response.status := by
  rw [decided.priority_status]
  split
  · exact Nat.le_refl 1
  · split_ifs <;> omega

theorem Decided.mergeDetail {seen : List Answer}
    {response : IdentityResponse} (decided : Decided seen response)
    (answer : Answer) :
    Decided (seen ++ [answer])
      (mergeDetail response answer.1 answer.2) := by
  have reached := decided.one_le_priority
  constructor
  · rw [mergeDetail_status,
      decided.decider_concat answer Status.userNotFound (by decide),
      priority_userNotFound]
    by_cases exceeds : answer.2.provider.credentialAuthority = true ∧
        priority response.status < priority answer.2.status
    · have above : 1 < priority answer.2.status :=
        Nat.lt_of_le_of_lt reached exceeds.2
      simp [exceeds, above]
    · have kept : ¬(answer.2.provider.credentialAuthority = true ∧
          priority response.status < priority answer.2.status ∧
          1 < priority answer.2.status) :=
        fun all => exceeds ⟨all.1, all.2.1⟩
      simp only [exceeds, kept, if_false]
      exact decided.status
  · rw [mergeDetail_authority,
      decided.decider_concat answer Status.passwordMissing (by decide)]
    split_ifs
    · rfl
    · exact decided.authority
  · rw [mergeDetail_uid,
      decided.decider_concat answer Status.passwordMissing (by decide)]
    split_ifs
    · rfl
    · exact decided.uid

theorem Decided.foldl {seen : List Answer} {response : IdentityResponse}
    (decided : Decided seen response) (later : List Answer) :
    Decided (seen ++ later)
      (later.foldl
        (fun current answer => Merger.mergeDetail current answer.1 answer.2)
        response) := by
  induction later generalizing seen response with
  | nil => simpa using decided
  | cons answer later induction =>
      have next := induction (decided.mergeDetail answer)
      simpa [List.append_assoc] using next

theorem Answer.testsPassword_iff (answer : Answer) :
    answer.testsPassword = true ↔ answer.priority = 4 := by
  rw [Answer.priority, priority_eq_four_iff]
  simp [Answer.testsPassword]

/-- The password is accepted exactly when nobody disables the user and the
first authority that tested it accepts it. -/
theorem Decided.passwordChecked_iff {seen : List Answer}
    {response : IdentityResponse} (decided : Decided seen response) :
    response.status = Status.passwordChecked ↔
      (∀ answer ∈ credentials seen, answer.2.status ≠ Status.disabled) ∧
        ∃ first, (credentials seen).find? Answer.testsPassword = some first ∧
          first.2.status = Status.passwordChecked := by
  have status := decided.status
  rw [decider_eq] at status
  cases best : (credentials seen).argmax Answer.priority with
  | none =>
      have empty : credentials seen = [] := List.argmax_eq_none.mp best
      simp only [best, Option.map_none, Option.getD_none] at status
      rw [status, empty]
      simp [Status.userNotFound, Status.passwordChecked]
  | some winner =>
      have bound : ∀ answer ∈ credentials seen,
          answer.priority ≤ winner.priority := fun answer member =>
        List.le_of_mem_argmax member (Option.mem_def.mpr best)
      have member : winner ∈ credentials seen :=
        List.argmax_mem (Option.mem_def.mpr best)
      simp only [best, priority_userNotFound] at status
      rcases Nat.lt_trichotomy winner.priority 4 with below | equal | above
      · -- Nobody tested the password.
        have notChecked : response.status ≠ Status.passwordChecked := by
          intro checked
          have reached := decided.priority_status
          simp only [best, checked] at reached
          have four : priority Status.passwordChecked = 4 := by decide
          split_ifs at reached <;> omega
        have untested :
            (credentials seen).find? Answer.testsPassword = none := by
          rw [List.find?_eq_none]
          intro answer present tested
          have four := (Answer.testsPassword_iff answer).mp tested
          have := bound answer present
          omega
        simp [notChecked, untested]
      · -- The winner is the first authority that tested it.
        have enabled : ∀ answer ∈ credentials seen,
            answer.2.status ≠ Status.disabled := by
          intro answer present off
          have five : answer.priority = 5 :=
            (priority_eq_five_iff _).mpr off
          have := bound answer present
          omega
        have first : (credentials seen).find? Answer.testsPassword =
            some winner := by
          rw [← argmax_eq_find? Answer.priority _ winner best]
          apply List.find?_congr
          intro answer present
          rw [Bool.eq_iff_iff, Answer.testsPassword_iff, decide_eq_true_iff]
          have := bound answer present
          omega
        have kept : response.status = winner.2.status := by
          rw [status, equal]
          rfl
        rw [kept, first]
        simpa using fun _ => enabled
      · -- The winner disables the user.
        have five : winner.priority = 5 := by
          have := priority_le_five winner.2.status
          unfold Answer.priority at above ⊢
          omega
        have off : winner.2.status = Status.disabled :=
          (priority_eq_five_iff _).mp five
        have kept : response.status = Status.disabled := by
          rw [status, five]
          exact off
        constructor
        · intro checked
          rw [kept] at checked
          exact absurd checked (by decide)
        · rintro ⟨enabled, _⟩
          exact absurd off (enabled winner member)

/-- The priority of the status is a function of the set of answers. -/
theorem Decided.priority_status_perm {seen reordered : List Answer}
    {response other : IdentityResponse} (decided : Decided seen response)
    (otherDecided : Decided reordered other) (perm : seen.Perm reordered) :
    priority other.status = priority response.status := by
  have credentialsPerm : (credentials seen).Perm (credentials reordered) :=
    perm.filter _
  rw [decided.priority_status, otherDecided.priority_status]
  cases best : (credentials seen).argmax Answer.priority with
  | none =>
      have empty : credentials seen = [] := List.argmax_eq_none.mp best
      rw [empty] at credentialsPerm
      rw [List.Perm.nil_eq credentialsPerm |>.symm]
      rfl
  | some winner =>
      cases otherBest : (credentials reordered).argmax Answer.priority with
      | none =>
          have empty : credentials reordered = [] :=
            List.argmax_eq_none.mp otherBest
          have member := List.argmax_mem (Option.mem_def.mpr best)
          rw [credentialsPerm.mem_iff, empty] at member
          cases member
      | some otherWinner =>
          have forward : winner.priority ≤ otherWinner.priority :=
            List.le_of_mem_argmax
              (credentialsPerm.mem_iff.mp
                (List.argmax_mem (Option.mem_def.mpr best)))
              (Option.mem_def.mpr otherBest)
          have backward : otherWinner.priority ≤ winner.priority :=
            List.le_of_mem_argmax
              (credentialsPerm.mem_iff.mpr
                (List.argmax_mem (Option.mem_def.mpr otherBest)))
              (Option.mem_def.mpr best)
          have equal : winner.priority = otherWinner.priority :=
            Nat.le_antisymm forward backward
          simp only [equal]

/-! ## The response -/

section

variable (sprintf : String → String → String)

theorem authenticateLoop_eq_foldl (request : IdentityRequest)
    (providers : List Provider) (response : IdentityResponse)
    (answered : ∀ provider ∈ providers, ∃ detail,
      provider.getUserDetail sprintf request.login request.password =
        .ok detail) :
    authenticateLoop sprintf request providers response =
      .ok ((answers sprintf request providers).foldl
        (fun current answer => mergeDetail current answer.1 answer.2)
        response) := by
  induction providers generalizing response with
  | nil => rfl
  | cons provider rest induction =>
      obtain ⟨detail, found⟩ := answered provider List.mem_cons_self
      simp only [authenticateLoop, answers, List.filterMap_cons, found,
        List.foldl_cons]
      exact induction (mergeDetail response provider detail)
        fun later member => answered later (List.mem_cons_of_mem _ member)

theorem authenticate_decided (request : IdentityRequest)
    (providers : List Provider)
    (answered : ∀ provider ∈ providers, ∃ detail,
      provider.getUserDetail sprintf request.login request.password =
        .ok detail) :
    ∃ response, authenticate sprintf providers request = .ok response ∧
      Decided (answers sprintf request providers) response := by
  have decided := (decided_nil request).foldl
    (answers sprintf request providers)
  simp only [authenticate, authenticateLoop_eq_foldl sprintf request providers
    _ answered, List.nil_append] at decided ⊢
  exact ⟨_, rfl, ⟨decided.status, decided.authority, decided.uid⟩⟩

/-- The credential decision of the merger: status, authority and uid come from
one and the same provider, the password is accepted only when no authority
disables the user and the first one that tested it accepts it, and the
priority of the outcome does not depend on the order of the providers. -/
theorem authenticate_credentialDecision (request : IdentityRequest)
    (providers : List Provider)
    (answered : ∀ provider ∈ providers, ∃ detail,
      provider.getUserDetail sprintf request.login request.password =
        .ok detail) :
    ∃ response, authenticate sprintf providers request = .ok response ∧
      Decided (answers sprintf request providers) response ∧
      (response.status = Status.passwordChecked ↔
        (∀ answer ∈ credentials (answers sprintf request providers),
          answer.2.status ≠ Status.disabled) ∧
        ∃ first,
          (credentials (answers sprintf request providers)).find?
            Answer.testsPassword = some first ∧
          first.2.status = Status.passwordChecked) ∧
      ∀ reordered : List Provider, providers.Perm reordered →
        ∃ other, authenticate sprintf reordered request = .ok other ∧
          priority other.status = priority response.status := by
  obtain ⟨response, returned, decided⟩ :=
    authenticate_decided sprintf request providers answered
  refine ⟨response, returned, decided, decided.passwordChecked_iff, ?_⟩
  intro reordered perm
  obtain ⟨other, otherReturned, otherDecided⟩ :=
    authenticate_decided sprintf request reordered fun provider member =>
      answered provider (perm.mem_iff.mpr member)
  exact ⟨other, otherReturned,
    decided.priority_status_perm otherDecided (perm.filterMap _)⟩

end

/-- A directory that rejects the password and a user store that accepts it, in
this order: the first authority that tested the password wins. -/
def sampleProviders : List Provider :=
  [ Provider.new
      { name := "ldap", credentialAuthority := none, groupAuthority := none,
        groupPattern := "", claimAuthority := none, claimPattern := "",
        nameAuthority := none, emailAuthority := none, critical := none,
        uidOffset := 1000 }
      fun request => .ok
        { user := { initUser request.login with uid := some 7 }
          status := Status.passwordFail, details := [], authority := "" },
    Provider.new
      { name := "ucrd", credentialAuthority := none, groupAuthority := none,
        groupPattern := "", claimAuthority := none, claimPattern := "",
        nameAuthority := none, emailAuthority := none, critical := none,
        uidOffset := 0 }
      fun request => .ok
        { user := { initUser request.login with uid := some 9 }
          status := Status.passwordChecked, details := [], authority := "" } ]

theorem authenticate_credentialDecision_ldap :
    ∃ response,
      authenticate (fun _ text => text) sampleProviders
          { login := "jim", password := "jim123" } = .ok response ∧
        response.status = Status.passwordFail ∧
        response.authority = "ldap" ∧ response.user.uid = some 1007 := by
  obtain ⟨response, returned, decided, _⟩ :=
    authenticate_credentialDecision (fun _ text => text)
      { login := "jim", password := "jim123" } sampleProviders (by
        intro provider member
        simp only [sampleProviders, List.mem_cons, List.not_mem_nil,
          or_false] at member
        rcases member with rfl | rfl <;> exact ⟨_, rfl⟩)
  refine ⟨response, returned, ?_, ?_, ?_⟩
  · rw [decided.status]
    rfl
  · rw [decided.authority]
    rfl
  · rw [decided.uid]
    rfl

end Kubauth.Merger
