import Kubauth.Api
import Kubauth.Proto
import Mathlib.Data.List.DropRight

/-!
# Users held as Kubernetes resources

A login is looked up among the user resources, after the claims of the groups
that it is bound to have been merged.  Claims are arbitrary JSON documents: the
schema of the resources does not require an object.  A document that is not an
object makes the merge fail.  The failure is assigned to a variable that the
next call overwrites, and the claims merged so far are replaced by nil.
-/

namespace Kubauth.Ucrd

structure GroupBinding where
  group : String
  deriving Repr, DecidableEq, Inhabited

/-- The claims of a resource are a raw JSON document, given by its value. -/
structure GroupSpec where
  claims : Option Value
  deriving Repr, Inhabited

structure UserSpec where
  name : String
  emails : List String
  passwordHash : String
  uid : Option Int
  claims : Option Value
  disabled : Option Bool
  deriving Repr, Inhabited

/-- How the calls that one `Authenticate` makes to the API end.  A group is
asked for by its position as well, since two reads of one group may end
differently. -/
structure Calls where
  listGroupBindings : Except ApiError (List GroupBinding)
  getGroup : Nat → String → Except ApiError GroupSpec
  getUser : Except ApiError UserSpec

/-- What `json.Unmarshal` says of a document that is not an object. -/
def unmarshalError (kind : String) : String :=
  "json: cannot unmarshal " ++ kind ++
    " into Go value of type map[string]interface \x7b\x7d"

/-- `json.Unmarshal` into a map, which null makes nil. -/
def unmarshal : Value → Except String ClaimSet
  | .map entries => .ok (some entries)
  | .null => .ok none
  | .bool _ => .error (unmarshalError "bool")
  | .num _ => .error (unmarshalError "number")
  | .int _ => .error (unmarshalError "number")
  | .str _ => .error (unmarshalError "string")
  | .strs _ => .error (unmarshalError "array")
  | .arr _ => .error (unmarshalError "array")

/-- `merge`: the claims and the error that it returns. -/
def merge (a : ClaimSet) : Option Value → ClaimSet × Option String
  | none => (a, none)
  | some raw =>
      match unmarshal raw with
      | .error failure => (none, some failure)
      | .ok decoded => (some (mergeMaps a.entries decoded.entries), none)

/-- The groups of the bindings, sorted. -/
def sortedGroups (bindings : List GroupBinding) : List String :=
  (bindings.map (·.group)).insertionSort (· ≤ ·)

/-- The loop over the groups, from a position on.  A missing group is skipped,
and the error of `merge` is lost. -/
def mergeGroups (calls : Calls) :
    Nat → List String → ClaimSet → Except String ClaimSet
  | _, [], claims => .ok claims
  | position, group :: rest, claims =>
      match calls.getGroup position group with
      | .error failure =>
          match failure.ignoreNotFound with
          | some failure =>
              .error ("error fetching Group " ++ group ++ ": " ++
                failure.message)
          | none => mergeGroups calls (position + 1) rest claims
      | .ok spec =>
          mergeGroups calls (position + 1) rest (merge claims spec.claims).1

section

variable (compareHashAndPassword : String → String → Bool)

/-- The status of a user that exists. -/
def userStatus (spec : UserSpec) (password : String) : Status :=
  if boolPtrFalse spec.disabled then Status.disabled
  else if spec.passwordHash = "" then Status.passwordMissing
  else if password = "" then Status.passwordUnchecked
  else if compareHashAndPassword spec.passwordHash password then
    Status.passwordChecked
  else Status.passwordFail

/-- `crdAuthenticator.Authenticate`, once the groups are sorted. -/
def authenticateGroups (calls : Calls) (request : IdentityRequest)
    (groups : List String) : Except String IdentityResponse :=
  match mergeGroups calls 0 groups (initUser request.login).claims with
  | .error failure => .error failure
  | .ok claims =>
      let known :=
        { initUser request.login with groups := groups, claims := claims }
      match calls.getUser with
      | .error failure =>
          match failure.ignoreNotFound with
          | some failure =>
              .error ("error fetching User '" ++ request.login ++ "': " ++
                failure.message)
          | none =>
              .ok
                { user := known, status := Status.userNotFound,
                  details := [], authority := "" }
      | .ok spec =>
          .ok
            { user :=
                { known with
                  uid := spec.uid
                  name := spec.name
                  emails := spec.emails
                  claims := (merge claims spec.claims).1 }
              status :=
                userStatus compareHashAndPassword spec request.password
              details := []
              authority := "" }

/-- The error of a failed listing. -/
def listError (request : IdentityRequest) (failure : ApiError) : String :=
  "failed to list groupBindings for user " ++ request.login ++ ": " ++
    failure.message

/-- `crdAuthenticator.Authenticate`. -/
def authenticate (calls : Calls) (request : IdentityRequest) :
    Except String IdentityResponse :=
  match calls.listGroupBindings with
  | .error failure => .error (listError request failure)
  | .ok bindings =>
      authenticateGroups compareHashAndPassword calls request
        (sortedGroups bindings)

end

/-! ## The documents that are merged -/

/-- The documents of the groups that exist, from a position on. -/
def groupDocuments (calls : Calls) : Nat → List String → List Value
  | _, [] => []
  | position, group :: rest =>
      match calls.getGroup position group with
      | .error _ => groupDocuments calls (position + 1) rest
      | .ok spec =>
          spec.claims.toList ++ groupDocuments calls (position + 1) rest

/-- The document of the user, if it exists. -/
def userDocuments (calls : Calls) : List Value :=
  match calls.getUser with
  | .error _ => []
  | .ok spec => spec.claims.toList

/-- All the documents, in the order in which they are merged. -/
def documents (calls : Calls) : List Value :=
  match calls.listGroupBindings with
  | .error _ => []
  | .ok bindings =>
      groupDocuments calls 0 (sortedGroups bindings) ++ userDocuments calls

/-- A document that `json.Unmarshal` accepts: an object or null. -/
def wellFormed : Value → Bool
  | .map _ => true
  | .null => true
  | _ => false

/-- The document is an object that has the key. -/
def Contributes (raw : Value) (key : String) : Prop :=
  ∃ entries, raw = .map entries ∧ (GoMap.get entries key).isSome = true

/-- The claims after a list of documents. -/
def mergeDocuments (claims : ClaimSet) (raws : List Value) : ClaimSet :=
  raws.foldl (fun merged raw => (merge merged (some raw)).1) claims

theorem merge_toList (claims : ClaimSet) (raw : Option Value) :
    (merge claims raw).1 = mergeDocuments claims raw.toList := by
  cases raw with
  | none => rfl
  | some raw => rfl

theorem mergeDocuments_append (claims : ClaimSet) (first second : List Value) :
    mergeDocuments claims (first ++ second) =
      mergeDocuments (mergeDocuments claims first) second :=
  List.foldl_append

/-- A call fails for another reason than a missing object. -/
def Calls.Fails (calls : Calls) : Prop :=
  (∃ failure, calls.listGroupBindings = .error failure) ∨
    (∃ bindings position group message,
      calls.listGroupBindings = .ok bindings ∧
        (sortedGroups bindings)[position]? = some group ∧
        calls.getGroup position group = .error (.other message)) ∨
    ∃ message, calls.getUser = .error (.other message)

/-- A read of a group, from a position on, fails. -/
private def GroupFails (calls : Calls) (position : Nat)
    (groups : List String) : Prop :=
  ∃ index group message, groups[index]? = some group ∧
    calls.getGroup (position + index) group = .error (.other message)

private theorem groupFails_cons (calls : Calls) (position : Nat)
    (group : String) (rest : List String) :
    GroupFails calls position (group :: rest) ↔
      (∃ message, calls.getGroup position group =
          .error (.other message)) ∨
        GroupFails calls (position + 1) rest := by
  constructor
  · rintro ⟨index, present, message, found, failed⟩
    cases index with
    | zero =>
        rw [List.getElem?_cons_zero] at found
        cases found
        exact .inl ⟨message, failed⟩
    | succ index =>
        rw [List.getElem?_cons_succ] at found
        rw [← Nat.add_assoc, Nat.add_right_comm] at failed
        exact .inr ⟨index, present, message, found, failed⟩
  · rintro (⟨message, failed⟩ | ⟨index, present, message, found, failed⟩)
    · exact ⟨0, group, message, rfl, failed⟩
    · rw [Nat.add_right_comm, Nat.add_assoc] at failed
      exact ⟨index + 1, present, message, found, failed⟩

/-- The loop over the groups ends with an error if a read fails, and else with
all their documents merged. -/
private theorem mergeGroups_cases (calls : Calls) (position : Nat)
    (groups : List String) (claims : ClaimSet) :
    (GroupFails calls position groups ∧
      ∃ failure, mergeGroups calls position groups claims =
        .error failure) ∨
      (¬GroupFails calls position groups ∧
        mergeGroups calls position groups claims =
          .ok (mergeDocuments claims
            (groupDocuments calls position groups))) := by
  induction groups generalizing position claims with
  | nil =>
      right
      refine ⟨?_, rfl⟩
      rintro ⟨index, group, message, found, -⟩
      cases found
  | cons group rest induction =>
      rw [groupFails_cons, mergeGroups, groupDocuments]
      cases read : calls.getGroup position group with
      | error failure =>
          cases failure with
          | other message =>
              exact .inl ⟨.inl ⟨message, rfl⟩, _, rfl⟩
          | notFound message =>
              have skipped : ¬∃ other : String,
                  (.error (.notFound message) : Except ApiError GroupSpec) =
                    .error (.other other) := by simp
              rw [or_iff_right skipped]
              exact induction (position + 1) claims
      | ok spec =>
          have succeeded : ¬∃ other : String,
              (.ok spec : Except ApiError GroupSpec) =
                .error (.other other) := by simp
          rw [or_iff_right succeeded, mergeDocuments_append, ← merge_toList]
          exact induction (position + 1) (merge claims spec.claims).1

section

variable (compareHashAndPassword : String → String → Bool) (calls : Calls)
  (request : IdentityRequest)

private theorem authenticateGroups_cases (groups : List String) :
    ((GroupFails calls 0 groups ∨
        ∃ message, calls.getUser = .error (.other message)) ∧
      ∃ failure,
        authenticateGroups compareHashAndPassword calls request groups =
          .error failure) ∨
      (¬(GroupFails calls 0 groups ∨
          ∃ message, calls.getUser = .error (.other message)) ∧
        ∃ response,
          authenticateGroups compareHashAndPassword calls request groups =
              .ok response ∧
            response.user.claims =
              mergeDocuments (some [])
                (groupDocuments calls 0 groups ++ userDocuments calls)) := by
  unfold authenticateGroups userDocuments
  rcases mergeGroups_cases calls 0 groups (some []) with
    ⟨fails, failure, merged⟩ | ⟨succeeds, merged⟩
  · left
    refine ⟨.inl fails, failure, ?_⟩
    simp only [initUser, merged]
  · rw [or_iff_right succeeds]
    simp only [initUser, merged]
    cases user : calls.getUser with
    | error failure =>
        cases failure with
        | other message => exact .inl ⟨⟨message, rfl⟩, _, rfl⟩
        | notFound message =>
            right
            refine ⟨by simp, _, rfl, ?_⟩
            rw [List.append_nil]
    | ok spec =>
        right
        refine ⟨by simp, _, rfl, ?_⟩
        rw [mergeDocuments_append, ← merge_toList]

/-- The claims of a response are all the documents merged, in order. -/
theorem authenticateGroups_claims {groups : List String}
    {response : IdentityResponse}
    (returned : authenticateGroups compareHashAndPassword calls request
      groups = .ok response) :
    response.user.claims =
      mergeDocuments (some [])
        (groupDocuments calls 0 groups ++ userDocuments calls) := by
  rcases authenticateGroups_cases compareHashAndPassword calls request
    groups with ⟨-, failure, failed⟩ | ⟨-, other, succeeded, claims⟩
  · rw [failed] at returned
    cases returned
  · rw [succeeded] at returned
    cases returned
    exact claims

/-- `Authenticate` fails when a call does, and otherwise the claims are all the
documents merged, in order. -/
theorem authenticate_cases :
    (calls.Fails ∧ ∃ failure,
      authenticate compareHashAndPassword calls request = .error failure) ∨
      (¬calls.Fails ∧ ∃ response,
        authenticate compareHashAndPassword calls request = .ok response ∧
          response.user.claims =
            mergeDocuments (some []) (documents calls)) := by
  unfold authenticate Calls.Fails documents
  cases list : calls.listGroupBindings with
  | error failure => exact .inl ⟨.inl ⟨failure, rfl⟩, _, rfl⟩
  | ok bindings =>
      have listed : ¬∃ failure : ApiError,
          (.ok bindings : Except ApiError (List GroupBinding)) =
            .error failure := by simp
      have reads : (∃ present position group message,
          (.ok bindings : Except ApiError (List GroupBinding)) =
              .ok present ∧
            (sortedGroups present)[position]? = some group ∧
            calls.getGroup position group = .error (.other message)) ↔
          GroupFails calls 0 (sortedGroups bindings) := by
        unfold GroupFails
        simp
      rw [or_iff_right listed, reads]
      exact authenticateGroups_cases compareHashAndPassword calls request
        (sortedGroups bindings)

end

/-! ## The keys of the merged claims -/

theorem get_merge_isSome (claims : ClaimSet) (raw : Value) (key : String) :
    (GoMap.get (merge claims (some raw)).1.entries key).isSome = true ↔
      wellFormed raw = true ∧
        ((GoMap.get claims.entries key).isSome = true ∨
          Contributes raw key) := by
  cases raw with
  | map entries =>
      have contributes : Contributes (.map entries) key ↔
          (GoMap.get entries key).isSome = true := by
        constructor
        · rintro ⟨others, same, present⟩
          cases same
          exact present
        · exact fun present => ⟨entries, rfl, present⟩
      rw [contributes]
      simp only [merge, unmarshal, ClaimSet.entries_some, get_mergeMaps,
        wellFormed, true_and]
      cases GoMap.get claims.entries key <;>
        cases GoMap.get entries key <;> simp
  | null =>
      simp only [merge, unmarshal, ClaimSet.entries_some,
        ClaimSet.entries_none, get_mergeMaps, GoMap.get_nil, wellFormed,
        true_and, Contributes]
      cases GoMap.get claims.entries key <;> simp
  | _ => simp [merge, unmarshal, wellFormed]

/-- The keys that survive are those of the documents after the last one that is
malformed. -/
theorem get_mergeDocuments_isSome (raws : List Value) (key : String) :
    (GoMap.get (mergeDocuments (some []) raws).entries key).isSome = true ↔
      ∃ raw ∈ raws.rtakeWhile wellFormed, Contributes raw key := by
  induction raws using List.reverseRecOn with
  | nil => simp [mergeDocuments]
  | append_singleton raws raw induction =>
      have next : mergeDocuments (some []) (raws ++ [raw]) =
          (merge (mergeDocuments (some []) raws) (some raw)).1 := by
        rw [mergeDocuments_append]
        rfl
      rw [next, get_merge_isSome, induction, List.rtakeWhile_concat]
      cases formed : wellFormed raw with
      | false => simp
      | true =>
          simp only [if_true, true_and, List.mem_append, List.mem_singleton,
            or_and_right, exists_or, exists_eq_left]

/-- The response holds every key that a document contributes. -/
def Complete (calls : Calls) (response : IdentityResponse) : Prop :=
  ∀ raw ∈ documents calls, ∀ key, Contributes raw key →
    (GoMap.get response.user.claims.entries key).isSome = true

/-- No claim is silently dropped exactly when a call fails, so that an error is
returned, or every key contributed at all is contributed after the last
document that is neither an object nor null. -/
theorem authenticate_complete_iff
    (compareHashAndPassword : String → String → Bool) (calls : Calls)
    (request : IdentityRequest) :
    (∀ response, authenticate compareHashAndPassword calls request =
        .ok response → Complete calls response) ↔
      calls.Fails ∨
        ∀ raw ∈ documents calls, ∀ key, Contributes raw key →
          ∃ later ∈ (documents calls).rtakeWhile wellFormed,
            Contributes later key := by
  rcases authenticate_cases compareHashAndPassword calls request with
    ⟨fails, failure, returned⟩ | ⟨succeeds, response, returned, claims⟩
  · constructor
    · exact fun _ => .inl fails
    · intro _ response impossible
      rw [returned] at impossible
      cases impossible
  · rw [or_iff_right succeeds]
    have complete : Complete calls response ↔
        ∀ raw ∈ documents calls, ∀ key, Contributes raw key →
          ∃ later ∈ (documents calls).rtakeWhile wellFormed,
            Contributes later key := by
      unfold Complete
      simp only [claims, get_mergeDocuments_isSome]
    rw [← complete]
    constructor
    · exact fun all => all response returned
    · intro held other same
      rw [returned] at same
      cases same
      exact held

/-- A user whose claims are a text, bound to a group with claims. -/
def sampleCalls : Calls :=
  { listGroupBindings := .ok [{ group := "dev" }]
    getGroup := fun _ _ =>
      .ok { claims := some (.map [("team", .str "blue")]) }
    getUser := .ok
      { name := "Alice", emails := [], passwordHash := "", uid := none,
        claims := some (.str "none"), disabled := none } }

/-- The claims of the group are lost, and no error is returned. -/
theorem authenticate_drops_claims :
    ¬∀ response, authenticate (fun _ _ => false) sampleCalls
        { login := "alice", password := "" } = .ok response →
      Complete sampleCalls response := by
  intro all
  have complete := all _ rfl
  have present := complete (.map [("team", .str "blue")])
    List.mem_cons_self "team" ⟨_, rfl, rfl⟩
  cases present

end Kubauth.Ucrd
