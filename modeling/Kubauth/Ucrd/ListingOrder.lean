import Kubauth.Claims.Paths
import Kubauth.Ucrd.Authenticator

/-!
# The order in which bindings are listed

The API lists the bindings of a user in no particular order, and the sort by
group may exchange bindings of one group.  Neither can be seen in the response.
Where the claims are objects, those of the user take precedence, and then those
of the last group by name.
-/

namespace Kubauth.Ucrd

section Sorting

variable {β : Type} (group : β → String)

/-- What `sort.Slice` promises: the same bindings in the order of their groups.
Bindings of one group may be in any order. -/
structure SortsByGroup (sort : List β → List β) : Prop where
  perm : ∀ items, (sort items).Perm items
  sorted : ∀ items, (sort items).Pairwise fun first second =>
    group first ≤ group second

theorem SortsByGroup.map_group {sort : List β → List β}
    (sorts : SortsByGroup group sort) (items : List β) :
    (sort items).map group = (items.map group).insertionSort (· ≤ ·) := by
  have ordered : ((sort items).map group).Pairwise (· ≤ ·) :=
    List.pairwise_map.mpr (sorts.sorted items)
  have same : ((sort items).map group).Perm
      ((items.map group).insertionSort (· ≤ ·)) :=
    ((sorts.perm items).map group).trans
      (List.perm_insertionSort (· ≤ ·) (items.map group)).symm
  exact same.eq_of_pairwise' ordered
    (List.pairwise_insertionSort (· ≤ ·) (items.map group))

theorem SortsByGroup.map_group_of_perm {first second : List β → List β}
    (firstSorts : SortsByGroup group first)
    (secondSorts : SortsByGroup group second) {items others : List β}
    (permuted : items.Perm others) :
    (first items).map group = (second others).map group := by
  have same : (first items).Perm (second others) :=
    (firstSorts.perm items).trans
      (permuted.trans (secondSorts.perm others).symm)
  have ordered := List.pairwise_map.mpr (firstSorts.sorted items)
  have others := List.pairwise_map.mpr (secondSorts.sorted others)
  exact (same.map group).eq_of_pairwise' ordered others

end Sorting

section

variable {β : Type} (group : β → String)
  (compareHashAndPassword : String → String → Bool)

/-- `crdAuthenticator.Authenticate`, with the listed bindings and the sort that
it calls.  Of a binding only its group is read. -/
def authenticateBy (sort : List β → List β)
    (listed : Except ApiError (List β)) (calls : Calls)
    (request : IdentityRequest) : Except String IdentityResponse :=
  match listed with
  | .error failure => .error (listError request failure)
  | .ok items =>
      authenticateGroups compareHashAndPassword calls request
        ((sort items).map group)

theorem authenticate_eq_authenticateBy {sort : List β → List β}
    (sorts : SortsByGroup group sort) {listed : Except ApiError (List β)}
    {calls : Calls}
    (same : calls.listGroupBindings =
      listed.map (List.map fun item => { group := group item }))
    (request : IdentityRequest) :
    authenticate compareHashAndPassword calls request =
      authenticateBy group compareHashAndPassword sort listed calls
        request := by
  unfold authenticate authenticateBy
  rw [same]
  cases listed with
  | error failure => rfl
  | ok items =>
      have groups : sortedGroups
          (items.map fun item => { group := group item }) =
            (sort items).map group := by
        rw [sortedGroups, sorts.map_group, List.map_map]
        rfl
      exact congrArg
        (authenticateGroups compareHashAndPassword calls request) groups

end

/-! ## Documents by position -/

/-- The document that is read for the group at an index, when the reads are
counted from a position on. -/
def ReadsFrom (calls : Calls) (position : Nat) (groups : List String)
    (index : Nat) (raw : Value) : Prop :=
  ∃ group spec, groups[index]? = some group ∧
    calls.getGroup (position + index) group = .ok spec ∧
    spec.claims = some raw

theorem ReadsFrom.cons {calls : Calls} {position : Nat} {groups : List String}
    {index : Nat} {raw : Value}
    (reads : ReadsFrom calls (position + 1) groups index raw)
    (group : String) :
    ReadsFrom calls position (group :: groups) (index + 1) raw := by
  obtain ⟨present, spec, found, read, claims⟩ := reads
  rw [Nat.add_assoc, Nat.add_comm 1] at read
  exact ⟨present, spec, found, read, claims⟩

theorem ReadsFrom.tail {calls : Calls} {position : Nat} {group : String}
    {groups : List String} {index : Nat} {raw : Value}
    (reads : ReadsFrom calls position (group :: groups) (index + 1) raw) :
    ReadsFrom calls (position + 1) groups index raw := by
  obtain ⟨present, spec, found, read, claims⟩ := reads
  rw [Nat.add_comm index, ← Nat.add_assoc] at read
  exact ⟨present, spec, found, read, claims⟩

/-- The document of a group, if there is one, comes before those of the
rest. -/
theorem groupDocuments_cons (calls : Calls) (position : Nat) (group : String)
    (groups : List String) :
    ∃ first : Option Value,
      groupDocuments calls position (group :: groups) =
          first.toList ++ groupDocuments calls (position + 1) groups ∧
        ∀ raw, ReadsFrom calls position (group :: groups) 0 raw ↔
          first = some raw := by
  rw [groupDocuments]
  cases read : calls.getGroup position group with
  | error failure =>
      refine ⟨none, rfl, fun raw =>
        iff_of_false ?_ (Option.some_ne_none raw).symm⟩
      rintro ⟨present, spec, found, succeeded, -⟩
      cases found
      cases read.symm.trans succeeded
  | ok spec =>
      refine ⟨spec.claims, rfl, fun raw => ⟨?_, ?_⟩⟩
      · rintro ⟨present, other, found, succeeded, claims⟩
        cases found
        cases read.symm.trans succeeded
        exact claims
      · exact fun claims => ⟨group, spec, rfl, read, claims⟩

theorem exists_readsFrom {calls : Calls} {position : Nat}
    {groups : List String} {raw : Value}
    (member : raw ∈ groupDocuments calls position groups) :
    ∃ index, ReadsFrom calls position groups index raw := by
  induction groups generalizing position with
  | nil => cases member
  | cons group groups induction =>
      obtain ⟨first, split, reads⟩ :=
        groupDocuments_cons calls position group groups
      rw [split, List.mem_append, Option.mem_toList] at member
      obtain here | later := member
      · exact ⟨0, (reads raw).mpr here⟩
      · obtain ⟨index, read⟩ := induction later
        exact ⟨index + 1, read.cons group⟩

/-- The documents behind the one at an index are those of later groups. -/
theorem groupDocuments_split {calls : Calls} {position : Nat}
    {groups : List String} {index : Nat} {raw : Value}
    (read : ReadsFrom calls position groups index raw) :
    ∃ before after,
      groupDocuments calls position groups = before ++ raw :: after ∧
        ∀ later ∈ after, ∃ other, index < other ∧
          ReadsFrom calls position groups other later := by
  induction groups generalizing position index with
  | nil =>
      obtain ⟨group, spec, found, -⟩ := read
      cases found
  | cons group groups induction =>
      obtain ⟨first, split, reads⟩ :=
        groupDocuments_cons calls position group groups
      cases index with
      | zero =>
          rw [split, (reads raw).mp read]
          refine ⟨[], groupDocuments calls (position + 1) groups, rfl, ?_⟩
          intro later member
          obtain ⟨other, found⟩ := exists_readsFrom member
          exact ⟨other + 1, Nat.succ_pos other, found.cons group⟩
      | succ index =>
          obtain ⟨before, after, tail, behind⟩ := induction read.tail
          refine ⟨first.toList ++ before, after, ?_, ?_⟩
          · rw [split, tail, List.append_assoc]
          · intro later member
            obtain ⟨other, further, found⟩ := behind later member
            exact ⟨other + 1, Nat.succ_lt_succ further, found.cons group⟩

/-! ## Precedence -/

theorem mergeDocuments_of_objects {raws : List Value}
    (objects : ∀ raw ∈ raws, raw.isMap = true) (claims : Claims) :
    ∃ merged, mergeDocuments (some claims) raws = some merged ∧
      Value.map merged = raws.foldl mergeValue (.map claims) := by
  induction raws generalizing claims with
  | nil => exact ⟨claims, rfl, rfl⟩
  | cons raw raws induction =>
      obtain ⟨entries, rfl⟩ :=
        Value.exists_of_isMap (objects raw List.mem_cons_self)
      have rest : ∀ later ∈ raws, later.isMap = true :=
        fun later member => objects later (List.mem_cons_of_mem _ member)
      obtain ⟨merged, same, tree⟩ := induction rest (mergeMaps claims entries)
      refine ⟨merged, same, ?_⟩
      rw [tree, List.foldl_cons, mergeValue_map_map]

/-- What the claims of a response have at a path, when all the documents are
objects. -/
structure Precedence (calls : Calls) (groups : List String)
    (claims : Claims) : Prop where
  user : ∀ raw ∈ userDocuments calls, ∀ path value,
    raw.atPath path = some value → value.isLeaf = true →
      (Value.map claims).atPath path = some value
  group : ∀ position raw, ReadsFrom calls 0 groups position raw →
    ∀ path value, raw.atPath path = some value → value.isLeaf = true →
      (∀ later other, position < later →
        ReadsFrom calls 0 groups later other → other.Silent path) →
      (∀ other ∈ userDocuments calls, other.Silent path) →
        (Value.map claims).atPath path = some value

theorem userDocuments_eq_singleton {calls : Calls} {raw : Value}
    (member : raw ∈ userDocuments calls) : userDocuments calls = [raw] := by
  unfold userDocuments at member ⊢
  split at member
  · cases member
  · rw [Option.mem_toList] at member
    exact congrArg Option.toList member

theorem precedence_of_objects {calls : Calls} {groups : List String}
    (objects : ∀ raw ∈ groupDocuments calls 0 groups ++ userDocuments calls,
      raw.isMap = true) :
    ∃ claims,
      mergeDocuments (some [])
          (groupDocuments calls 0 groups ++ userDocuments calls) =
        some claims ∧ Precedence calls groups claims := by
  obtain ⟨claims, merged, tree⟩ := mergeDocuments_of_objects objects []
  refine ⟨claims, merged, ?_, ?_⟩
  · intro raw member path value found leaf
    rw [tree, userDocuments_eq_singleton member]
    exact Value.atPath_foldl_of_leaf _ _ found leaf nofun
  · intro position raw read path value found leaf laterSilent userSilent
    obtain ⟨before, after, split, behind⟩ := groupDocuments_split read
    rw [tree, split, List.append_assoc, List.cons_append]
    apply Value.atPath_foldl_of_leaf _ _ found leaf
    intro other member
    obtain later | user := List.mem_append.mp member
    · obtain ⟨index, further, reads⟩ := behind other later
      exact laterSilent index other further reads
    · exact userSilent other user

/-- Neither the order of the listing nor the sort is seen in the result.  When
all documents are objects, a leaf of the user's claims is kept, and so is a
leaf of the last group by name that has anything at its path, unless a later
document has something else than an object on the way. -/
theorem authenticate_listing_order {β : Type} {group : β → String}
    (compareHashAndPassword : String → String → Bool)
    {first second : List β → List β} (firstSorts : SortsByGroup group first)
    (secondSorts : SortsByGroup group second) {items others : List β}
    (permuted : items.Perm others) (calls : Calls)
    (request : IdentityRequest) :
    authenticateBy group compareHashAndPassword first (.ok items) calls
        request =
      authenticateBy group compareHashAndPassword second (.ok others) calls
        request ∧
      ∀ response,
        authenticateBy group compareHashAndPassword first (.ok items) calls
            request = .ok response →
          (∀ raw ∈ groupDocuments calls 0 ((first items).map group) ++
              userDocuments calls, raw.isMap = true) →
            ∃ claims, response.user.claims = some claims ∧
              Precedence calls ((first items).map group) claims := by
  constructor
  · exact congrArg
      (authenticateGroups compareHashAndPassword calls request)
      (firstSorts.map_group_of_perm group secondSorts permuted)
  · intro response returned objects
    obtain ⟨claims, merged, precedence⟩ := precedence_of_objects objects
    refine ⟨claims, ?_, precedence⟩
    rw [← merged]
    exact authenticateGroups_claims compareHashAndPassword calls request
      returned

theorem sortsByGroup_insertionSort {β : Type} (group : β → String) :
    SortsByGroup group
      (List.insertionSort fun first second => group first ≤ group second) := by
  have total : Std.Total fun first second : β =>
      group first ≤ group second := ⟨fun _ _ => le_total _ _⟩
  have trans : IsTrans β fun first second =>
      group first ≤ group second := ⟨fun _ _ _ => le_trans⟩
  exact ⟨fun items => List.perm_insertionSort _ items,
    fun items => List.pairwise_insertionSort _ items⟩

/-- Each group names itself as the team, and the user has an address. -/
def teamCalls : Calls :=
  { listGroupBindings := .ok []
    getGroup := fun _ group =>
      .ok { claims := some (.map [("team", .str group)]) }
    getUser := .ok
      { name := "Alice", emails := [], passwordHash := "", uid := none,
        claims := some (.map [("mail", .str "alice@example")]),
        disabled := none } }

/-- The bindings of alice, with their own names. -/
def teamBindings : List (String × String) :=
  [("first", "ops"), ("second", "dev"), ("third", "dev")]

theorem authenticate_listing_order_team :
    let sort := List.insertionSort fun first second : String × String =>
      first.2 ≤ second.2
    let result := fun bindings =>
      authenticateBy Prod.snd (fun _ _ => false) sort (.ok bindings) teamCalls
        { login := "alice", password := "" }
    result teamBindings = result teamBindings.reverse ∧
      ∃ response claims, result teamBindings = .ok response ∧
        response.user.claims = some claims ∧
        (Value.map claims).atPath ["team"] = some (.str "ops") := by
  intro sort result
  have sorts : SortsByGroup Prod.snd sort := sortsByGroup_insertionSort _
  have groups : (sort teamBindings).map Prod.snd = ["dev", "dev", "ops"] := rfl
  obtain ⟨same, precedence⟩ := authenticate_listing_order (fun _ _ => false)
    sorts sorts (List.reverse_perm teamBindings).symm teamCalls
    { login := "alice", password := "" }
  refine ⟨same, ?_⟩
  obtain ⟨response, returned⟩ : ∃ response,
      result teamBindings = .ok response := ⟨_, rfl⟩
  rw [groups] at precedence
  obtain ⟨claims, held, precedence⟩ := precedence response returned (by decide)
  refine ⟨response, claims, returned, held, ?_⟩
  apply precedence.group 2 (.map [("team", .str "ops")])
    ⟨"ops", _, rfl, rfl, rfl⟩ ["team"] (.str "ops") rfl rfl
  · rintro later other further ⟨group, spec, found, -⟩
    rw [List.getElem?_eq_none further] at found
    cases found
  · intro other member
    rw [List.mem_singleton.mp member]
    refine ⟨rfl, ?_⟩
    rintro ⟨shorter, found, pre, different, reached, noMap⟩
    obtain rfl | ⟨rest, rfl, tail⟩ := List.prefix_cons_iff.mp pre
    · cases reached
      cases noMap
    · rw [List.prefix_nil.mp tail] at different
      exact different rfl

end Kubauth.Ucrd
