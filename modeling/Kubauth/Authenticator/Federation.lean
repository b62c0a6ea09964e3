import Kubauth.Authenticator

/-!
# Claims of identified users

`identify` writes what the identity response says about a user into the claims
of the response itself.  Two claims are lists, read from the map that they are
written to: the groups are a sorted union, the emails keep their order.
-/

namespace Kubauth.HttpProvider

/-! ## Lists among the claims -/

/-- A string or an array. -/
def isListable : Value → Bool
  | .str _ => true
  | .strs _ => true
  | .arr _ => true
  | _ => false

/-- The claim is present, not null, and neither a string nor an array. -/
def Misfit (claims : Claims) (key : String) : Prop :=
  ∃ value, GoMap.get claims key = some value ∧ value ≠ .null ∧
    isListable value = false

/-- The strings of a claim, if it has any. -/
def strings (claims : Claims) (key : String) : List String :=
  match GoMap.get claims key with
  | some (.strs texts) => texts
  | some (.arr items) =>
      items.filterMap fun item =>
        match item with
        | .str text => some text
        | _ => none
  | some (.str text) => [text]
  | _ => []

theorem getStringArrayInMap_of_misfit {claims : Claims} {key : String}
    (misfit : Misfit claims key) :
    getStringArrayInMap claims key =
      .error ("entry Claims[" ++ key ++ "] is not a []string") := by
  obtain ⟨value, found, present, unlisted⟩ := misfit
  rw [getStringArrayInMap, found]
  cases value with
  | null => exact absurd rfl present
  | str text => cases unlisted
  | strs texts => cases unlisted
  | arr items => cases unlisted
  | bool value => rfl
  | num value => rfl
  | int value => rfl
  | map entries => rfl

theorem getStringArrayInMap_of_fit {claims : Claims} {key : String}
    (fit : ¬Misfit claims key) :
    getStringArrayInMap claims key = .ok (strings claims key) := by
  rw [getStringArrayInMap, strings]
  cases found : GoMap.get claims key with
  | none => rfl
  | some value =>
      cases value with
      | null => rfl
      | str text => rfl
      | strs texts => rfl
      | arr items => rfl
      | bool value => exact absurd ⟨_, found, nofun, rfl⟩ fit
      | num value => exact absurd ⟨_, found, nofun, rfl⟩ fit
      | int value => exact absurd ⟨_, found, nofun, rfl⟩ fit
      | map entries => exact absurd ⟨_, found, nofun, rfl⟩ fit

/-! ## The claims that are written -/

/-- The groups of the response and of its claims. -/
def federatedGroups (response : IdentityResponse) (claims : Claims) :
    List String :=
  dedupAndSort (response.user.groups ++ strings claims "groups")

def federatedEmails (response : IdentityResponse) (claims : Claims) :
    List String :=
  appendIfNotPresent response.user.emails (strings claims "emails")

def textEntry (text : String) : Option Value :=
  if text = "" then none else some (.str text)

def listEntry (texts : List String) : Option Value :=
  if texts = [] then none else some (.strs texts)

/-- What `identify` writes, in its order. -/
def additions (response : IdentityResponse) (claims : Claims) :
    List (String × Option Value) :=
  let emails := federatedEmails response claims
  [("name", textEntry response.user.name),
    ("groups", listEntry (federatedGroups response claims)),
    ("emails", listEntry emails),
    ("email", emails.head?.map .str),
    ("authority", textEntry response.authority),
    ("uid", response.user.uid.map .int)]

def federated (response : IdentityResponse) (claims : Claims) : Claims :=
  (additions response claims).foldl GoMap.put claims

theorem handleName_eq (name : String) (claims : Claims) :
    handleName name claims = GoMap.put claims ("name", textEntry name) := by
  by_cases empty : name = ""
  · simp [handleName, GoMap.put, textEntry, empty]
  · simp [handleName, GoMap.put, textEntry, empty]

theorem handleAuthority_eq (authority : String) (claims : Claims) :
    handleAuthority authority claims =
      GoMap.put claims ("authority", textEntry authority) := by
  by_cases empty : authority = ""
  · simp [handleAuthority, GoMap.put, textEntry, empty]
  · simp [handleAuthority, GoMap.put, textEntry, empty]

theorem handleUid_eq (uid : Option Int) (claims : Claims) :
    handleUid uid claims = GoMap.put claims ("uid", uid.map .int) := by
  cases uid with
  | none => rfl
  | some number => rfl

theorem handleGroups_of_fit (groups : List String) {claims : Claims}
    (fit : ¬Misfit claims "groups") :
    handleGroups groups claims =
      .ok (GoMap.put claims ("groups",
        listEntry (dedupAndSort (groups ++ strings claims "groups")))) := by
  rw [handleGroups, getStringArrayInMap_of_fit fit]
  dsimp only
  cases dedupAndSort (groups ++ strings claims "groups") with
  | nil => rfl
  | cons first rest => rfl

theorem handleEmails_of_fit (emails : List String) {claims : Claims}
    (fit : ¬Misfit claims "emails") :
    let all := appendIfNotPresent emails (strings claims "emails")
    handleEmails emails claims =
      .ok (GoMap.put (GoMap.put claims ("emails", listEntry all))
        ("email", all.head?.map .str)) := by
  rw [handleEmails, getStringArrayInMap_of_fit fit]
  dsimp only
  cases appendIfNotPresent emails (strings claims "emails") with
  | nil => rfl
  | cons first rest => rfl

/-! ## Identified users -/

/-- The claims that `identify` may write. -/
def writtenKeys : List String :=
  ["name", "groups", "emails", "email", "authority", "uid"]

theorem get_federated {response : IdentityResponse} {claims : Claims}
    {key : String} {value : Option Value}
    (member : (key, value) ∈ additions response claims) :
    GoMap.get (federated response claims) key =
      value.or (GoMap.get claims key) := by
  have distinct : writtenKeys.Nodup := by decide
  change ((additions response claims).map Prod.fst).Nodup at distinct
  exact GoMap.get_foldl_put_of_mem claims distinct member

theorem get_federated_of_other (response : IdentityResponse) (claims : Claims)
    {key : String} (other : key ∉ writtenKeys) :
    GoMap.get (federated response claims) key = GoMap.get claims key :=
  GoMap.get_foldl_put_of_not_mem claims other

theorem misfit_congr {first second : Claims} {key : String}
    (same : GoMap.get first key = GoMap.get second key) :
    Misfit first key ↔ Misfit second key := by
  rw [Misfit, Misfit, same]

theorem strings_congr {first second : Claims} {key : String}
    (same : GoMap.get first key = GoMap.get second key) :
    strings first key = strings second key := by
  rw [strings, strings, same]

theorem get_put_name (claims : Claims) (name : Option Value) {key : String}
    (other : "name" ≠ key) :
    GoMap.get (GoMap.put claims ("name", name)) key =
      GoMap.get claims key := by
  rw [GoMap.get_put, if_neg other]

/-- The emails are read after the name and the groups were written. -/
theorem get_put_groups (claims : Claims) (name groups : Option Value) :
    GoMap.get (GoMap.put (GoMap.put claims ("name", name)) ("groups", groups))
        "emails" = GoMap.get claims "emails" := by
  have other : "groups" ≠ "emails" := by decide
  rw [GoMap.get_put, if_neg other, get_put_name claims name (by decide)]

theorem identify_of_fit {exchange : Exchange} {login password : String}
    {response : IdentityResponse}
    (answered : exchange { login := login, password := password } =
      .ok response)
    (groups : ¬Misfit response.user.claims.entries "groups")
    (emails : ¬Misfit response.user.claims.entries "emails") :
    identify exchange login password =
      .ok
        ({ login := login
           claims := some (federated response response.user.claims.entries)
           fullName := response.user.name },
          response.status) := by
  have named := get_put_name response.user.claims.entries
    (textEntry response.user.name) (show "name" ≠ "groups" by decide)
  have grouped := get_put_groups response.user.claims.entries
    (textEntry response.user.name)
  simp only [identify, answered, handleName_eq]
  rw [handleGroups_of_fit _ ((misfit_congr named).not.mpr groups)]
  dsimp only
  rw [handleEmails_of_fit _ ((misfit_congr (grouped _)).not.mpr emails)]
  dsimp only
  rw [strings_congr named, strings_congr (grouped _), handleAuthority_eq,
    handleUid_eq]
  rfl

theorem identify_of_misfit {exchange : Exchange} {login password : String}
    {response : IdentityResponse}
    (answered : exchange { login := login, password := password } =
      .ok response)
    (misfit : Misfit response.user.claims.entries "groups" ∨
      Misfit response.user.claims.entries "emails") :
    ∃ failure, identify exchange login password = .error failure := by
  have named := get_put_name response.user.claims.entries
    (textEntry response.user.name) (show "name" ≠ "groups" by decide)
  have grouped := get_put_groups response.user.claims.entries
    (textEntry response.user.name)
  simp only [identify, answered, handleName_eq]
  by_cases groups : Misfit response.user.claims.entries "groups"
  · rw [handleGroups,
      getStringArrayInMap_of_misfit ((misfit_congr named).mpr groups)]
    exact ⟨_, rfl⟩
  · have emails := misfit.resolve_left groups
    rw [handleGroups_of_fit _ ((misfit_congr named).not.mpr groups)]
    dsimp only
    rw [handleEmails,
      getStringArrayInMap_of_misfit ((misfit_congr (grouped _)).mpr emails)]
    exact ⟨_, rfl⟩

/-! ## Processing the result once more -/

theorem strings_of_get {claims : Claims} {key : String} {texts : List String}
    (found : GoMap.get claims key = some (.strs texts)) :
    strings claims key = texts := by
  rw [strings, found]

theorem get_of_listEntry {before after : Claims} {key : String}
    {texts : List String}
    (written : GoMap.get after key =
      (listEntry texts).or (GoMap.get before key)) :
    texts = [] ∧ GoMap.get after key = GoMap.get before key ∨
      GoMap.get after key = some (.strs texts) := by
  by_cases empty : texts = []
  · rw [listEntry, if_pos empty, Option.none_or] at written
    exact Or.inl ⟨empty, written⟩
  · rw [listEntry, if_neg empty, Option.some_or] at written
    exact Or.inr written

theorem not_misfit_of_listEntry {before after : Claims} {key : String}
    {texts : List String} (fit : ¬Misfit before key)
    (written : GoMap.get after key =
      (listEntry texts).or (GoMap.get before key)) :
    ¬Misfit after key := by
  obtain ⟨-, same⟩ | found := get_of_listEntry written
  · exact (misfit_congr same).not.mpr fit
  · rintro ⟨value, held, -, unlisted⟩
    rw [found] at held
    cases held
    cases unlisted

section Again

variable (response : IdentityResponse) (claims : Claims)

theorem get_federated_groups :
    GoMap.get (federated response claims) "groups" =
      (listEntry (federatedGroups response claims)).or
        (GoMap.get claims "groups") :=
  get_federated (by simp [additions])

theorem get_federated_emails :
    GoMap.get (federated response claims) "emails" =
      (listEntry (federatedEmails response claims)).or
        (GoMap.get claims "emails") :=
  get_federated (by simp [additions])

theorem federatedGroups_federated :
    federatedGroups response (federated response claims) =
      federatedGroups response claims := by
  obtain ⟨-, same⟩ | found := get_of_listEntry
    (get_federated_groups response claims)
  · rw [federatedGroups, federatedGroups, strings_congr same]
  · rw [federatedGroups, strings_of_get found]
    exact dedupAndSort_append_self _ _

theorem federatedEmails_federated :
    federatedEmails response (federated response claims) =
      federatedEmails response claims := by
  obtain ⟨-, same⟩ | found := get_of_listEntry
    (get_federated_emails response claims)
  · rw [federatedEmails, federatedEmails, strings_congr same]
  · rw [federatedEmails, strings_of_get found]
    exact appendIfNotPresent_self _ _

theorem federated_federated :
    federated response (federated response claims) =
      federated response claims := by
  have again : additions response (federated response claims) =
      additions response claims := by
    rw [additions, federatedGroups_federated, federatedEmails_federated,
      additions]
  rw [federated, again]
  apply GoMap.foldl_put_of_get
  intro key value member
  rw [get_federated member, Option.some_or]

end Again

/-! ## The result -/

/-- What the claims of an identified user are made of. -/
structure Federates (response : IdentityResponse) (old claims : Claims) :
    Prop where
  groups : ∃ groups : List String,
    groups.Pairwise (· < ·) ∧
      (∀ text, text ∈ groups ↔
        text ∈ response.user.groups ∨ text ∈ strings old "groups") ∧
      GoMap.get claims "groups" =
        if groups = [] then GoMap.get old "groups" else some (.strs groups)
  emails : ∃ emails : List String,
    emails = response.user.emails ++
        ((strings old "emails").filter fun email =>
          email ∉ response.user.emails).eraseDups ∧
      match emails with
      | [] => GoMap.get claims "emails" = GoMap.get old "emails" ∧
          GoMap.get claims "email" = GoMap.get old "email"
      | first :: _ => GoMap.get claims "emails" = some (.strs emails) ∧
          GoMap.get claims "email" = some (.str first)
  name : GoMap.get claims "name" =
    if response.user.name = "" then GoMap.get old "name"
    else some (.str response.user.name)
  authority : GoMap.get claims "authority" =
    if response.authority = "" then GoMap.get old "authority"
    else some (.str response.authority)
  uid : GoMap.get claims "uid" =
    match response.user.uid with
    | none => GoMap.get old "uid"
    | some number => some (.int number)
  others : ∀ key ∉ writtenKeys, GoMap.get claims key = GoMap.get old key

theorem get_federated_text {response : IdentityResponse} {claims : Claims}
    {key text : String}
    (member : (key, textEntry text) ∈ additions response claims) :
    GoMap.get (federated response claims) key =
      if text = "" then GoMap.get claims key else some (.str text) := by
  rw [get_federated member, textEntry]
  by_cases empty : text = ""
  · rw [if_pos empty, if_pos empty, Option.none_or]
  · rw [if_neg empty, if_neg empty, Option.some_or]

theorem federates_federated (response : IdentityResponse) (claims : Claims) :
    Federates response claims (federated response claims) := by
  constructor
  case groups =>
    refine ⟨federatedGroups response claims, pairwise_dedupAndSort _, ?_, ?_⟩
    · intro text
      rw [federatedGroups, mem_dedupAndSort, List.mem_append]
    · rw [get_federated_groups, listEntry]
      split
      · rw [Option.none_or]
      · rw [Option.some_or]
  case emails =>
    have mail : GoMap.get (federated response claims) "email" =
        ((federatedEmails response claims).head?.map .str).or
          (GoMap.get claims "email") :=
      get_federated (by simp [additions])
    refine ⟨federatedEmails response claims, appendIfNotPresent_eq _ _, ?_⟩
    rw [get_federated_emails, mail]
    cases federatedEmails response claims with
    | nil => exact ⟨rfl, rfl⟩
    | cons first rest => exact ⟨rfl, rfl⟩
  case name => exact get_federated_text (by simp [additions])
  case authority => exact get_federated_text (by simp [additions])
  case uid =>
    have number : GoMap.get (federated response claims) "uid" =
        (response.user.uid.map .int).or (GoMap.get claims "uid") :=
      get_federated (by simp [additions])
    rw [number]
    cases response.user.uid with
    | none => rfl
    | some uid => rfl
  case others => exact fun key other => get_federated_of_other _ _ other

/-- After a successful exchange, `identify` fails exactly on a list claim of
another type.  Otherwise the claims of the user federate those of the response
with the response itself, and a response that already had them would give the
same user. -/
theorem identify_federates {exchange : Exchange} {login password : String}
    {response : IdentityResponse}
    (answered : exchange { login := login, password := password } =
      .ok response) :
    ((∃ failure, identify exchange login password = .error failure) ↔
        Misfit response.user.claims.entries "groups" ∨
          Misfit response.user.claims.entries "emails") ∧
      ∀ user status, identify exchange login password = .ok (user, status) →
        ∃ claims, user.claims = some claims ∧
          Federates response response.user.claims.entries claims ∧
          ∀ second : Exchange,
            second { login := login, password := password } =
                .ok { response with
                  user := { response.user with claims := user.claims } } →
              identify second login password = .ok (user, status) := by
  by_cases misfit : Misfit response.user.claims.entries "groups" ∨
      Misfit response.user.claims.entries "emails"
  · obtain ⟨failure, refused⟩ := identify_of_misfit answered misfit
    refine ⟨⟨fun _ => misfit, fun _ => ⟨failure, refused⟩⟩, ?_⟩
    intro user status identified
    rw [refused] at identified
    cases identified
  · obtain ⟨groups, emails⟩ := not_or.mp misfit
    have accepted := identify_of_fit answered groups emails
    constructor
    · constructor
      · rintro ⟨failure, refused⟩
        rw [accepted] at refused
        cases refused
      · exact fun found => absurd found misfit
    · intro user status identified
      rw [accepted] at identified
      cases identified
      refine ⟨_, rfl, federates_federated _ _, ?_⟩
      intro second repeated
      have fitting := identify_of_fit repeated
        (not_misfit_of_listEntry groups (get_federated_groups _ _))
        (not_misfit_of_listEntry emails (get_federated_emails _ _))
      rw [fitting]
      have same := federated_federated response response.user.claims.entries
      exact congrArg (fun claims : Claims => Except.ok
        ({ login := login, claims := some claims,
           fullName := response.user.name : OidcUser }, response.status)) same

/-- A user with a group of their own and one among their claims. -/
def sampleResponse : IdentityResponse :=
  { user :=
      { initUser "alice" with
        groups := ["ops"]
        claims := some [("groups", .arr [.str "dev", .null])] }
    status := Status.passwordChecked
    details := []
    authority := "ldap" }

theorem identify_federates_sample :
    ∃ user, identify (fun _ => .ok sampleResponse) "alice" "secret" =
        .ok (user, Status.passwordChecked) ∧
      ∃ claims, user.claims = some claims ∧
        Federates sampleResponse sampleResponse.user.claims.entries claims := by
  have answered : (fun _ => .ok sampleResponse : Exchange)
      { login := "alice", password := "secret" } = .ok sampleResponse := rfl
  obtain ⟨user, identified⟩ : ∃ user,
      identify (fun _ => .ok sampleResponse) "alice" "secret" =
        .ok (user, Status.passwordChecked) := ⟨_, rfl⟩
  obtain ⟨claims, same, federates, -⟩ :=
    (identify_federates answered).2 user _ identified
  exact ⟨user, identified, claims, same, federates⟩

end Kubauth.HttpProvider
