import Kubauth.Claims.Paths
import Kubauth.Merger.Enrichment

/-!
# Precedence of claims in the merger

The merger merges the claims of each provider below those it has collected
already.  An earlier provider therefore wins, path by path, except that maps
and lists of strings are merged.
-/

namespace Kubauth.Merger

/-- The claims of the providers that are an authority for claims, in order. -/
def claimSources (sprintf : String → String → String)
    (request : IdentityRequest) (providers : List Provider) : List Claims :=
  (authorities (·.claimAuthority)
    ((answers sprintf request providers).map Prod.snd)).map
    (·.translated.claims)

/-- The claims collected by the loop. -/
def mergeSources (start : Claims) (sources : List Claims) : Claims :=
  sources.foldl (fun merged claims => mergeMaps claims merged) start

theorem mergeSources_cons (start claims : Claims) (sources : List Claims) :
    mergeSources start (claims :: sources) =
      mergeSources (mergeMaps claims start) sources := rfl

theorem mergeSources_append (start : Claims) (first second : List Claims) :
    mergeSources start (first ++ second) =
      mergeSources (mergeSources start first) second :=
  List.foldl_append

theorem authenticate_claims {sprintf : String → String → String}
    {request : IdentityRequest} {providers : List Provider}
    {response : IdentityResponse}
    (returned : authenticate sprintf providers request = .ok response) :
    response.user.claims =
      some (mergeSources [] (claimSources sprintf request providers)) := by
  obtain ⟨-, rfl⟩ := (authenticate_ok_iff response).mp returned
  have enriched := enriched_mergeAnswers request.login
    (answers sprintf request providers)
  have merged : (withSortedGroups (mergeAnswers request.login
      (answers sprintf request providers))).user.claims = _ :=
    enriched.claims
  rw [merged, mergeSources, claimSources, List.foldl_map]

/-! ## Where a collected value comes from -/

section

variable {path : List String} {start : Claims} {sources : List Claims}

/-- Run: a kind of values that no merge makes out of others is collected from
one of the sources. -/
theorem atPath_mergeSources_origin (kind : Value → Prop)
    (closed : ∀ left right, kind (mergeValue left right) →
      kind left ∨ kind right) {value : Value}
    (found : Value.atPath path (.map (mergeSources start sources)) =
      some value) (holds : kind value) :
    (∃ origin, Value.atPath path (.map start) = some origin ∧ kind origin) ∨
      ∃ claims ∈ sources, ∃ origin,
        Value.atPath path (.map claims) = some origin ∧ kind origin := by
  induction sources generalizing start with
  | nil => exact .inl ⟨value, found, holds⟩
  | cons claims rest induction =>
      rw [mergeSources_cons] at found
      rcases induction found with
        ⟨origin, merged, known⟩ | ⟨later, member, origin, reached, known⟩
      · rw [← mergeValue_map_map] at merged
        rcases Value.atPath_mergeValue_cases merged with
          left | right | ⟨first, second, left, right, rfl⟩
        · exact .inr ⟨claims, List.mem_cons_self, origin, left, known⟩
        · exact .inl ⟨origin, right, known⟩
        · rcases closed first second known with knownFirst | knownSecond
          · exact .inr ⟨claims, List.mem_cons_self, first, left, knownFirst⟩
          · exact .inl ⟨second, right, knownSecond⟩
      · exact .inr ⟨later, List.mem_cons_of_mem _ member, origin, reached,
          known⟩

private theorem ne_nil_of_atPath {claims : Claims} {value : Value}
    (found : Value.atPath path (.map claims) = some value)
    (noMap : value.isMap = false) : path ≠ [] := by
  rintro rfl
  obtain rfl := Option.some.inj found
  cases noMap

private theorem exists_source (kind : Value → Prop)
    (closed : ∀ left right, kind (mergeValue left right) →
      kind left ∨ kind right) {value : Value}
    (found : Value.atPath path (.map (mergeSources [] sources)) =
      some value) (holds : kind value) (proper : path ≠ []) :
    ∃ claims ∈ sources, ∃ origin,
      Value.atPath path (.map claims) = some origin ∧ kind origin := by
  rcases atPath_mergeSources_origin kind closed found holds with
    ⟨origin, atStart, -⟩ | source
  · cases path with
    | nil => exact absurd rfl proper
    | cons key rest => cases atStart
  · exact source

/-- A map is only made out of two maps. -/
private theorem not_map_origin (left right : Value)
    (noMap : (mergeValue left right).isMap = false) :
    left.isMap = false ∨ right.isMap = false := by
  cases leftMap : left.isMap with
  | false => exact .inl rfl
  | true =>
      cases rightMap : right.isMap with
      | false => exact .inr rfl
      | true =>
          obtain ⟨a, rfl⟩ := Value.exists_of_isMap leftMap
          obtain ⟨b, rfl⟩ := Value.exists_of_isMap rightMap
          rw [mergeValue_map_map] at noMap
          cases noMap

private theorem not_strings_origin (left right : Value)
    (noStrings : (mergeValue left right).isStrings = false) :
    left.isStrings = false ∨ right.isStrings = false := by
  cases leftStrings : left.isStrings with
  | false => exact .inl rfl
  | true =>
      cases rightStrings : right.isStrings with
      | false => exact .inr rfl
      | true =>
          obtain ⟨a, rfl⟩ := Value.exists_of_isStrings leftStrings
          obtain ⟨b, rfl⟩ := Value.exists_of_isStrings rightStrings
          rw [mergeValue_strs_strs] at noStrings
          cases noStrings

private theorem leaf_origin {value : Value} (leaf : value.isLeaf = true)
    (left right : Value) (same : mergeValue left right = value) :
    left = value ∨ right = value := by
  by_cases maps : left.isMap = true ∧ right.isMap = true
  · obtain ⟨a, rfl⟩ := Value.exists_of_isMap maps.1
    obtain ⟨b, rfl⟩ := Value.exists_of_isMap maps.2
    rw [mergeValue_map_map] at same
    subst same
    cases leaf
  · by_cases strings : left.isStrings = true ∧ right.isStrings = true
    · obtain ⟨a, rfl⟩ := Value.exists_of_isStrings strings.1
      obtain ⟨b, rfl⟩ := Value.exists_of_isStrings strings.2
      rw [mergeValue_strs_strs] at same
      subst same
      cases leaf
    · rw [mergeValue_eq_right maps strings] at same
      exact .inr same

/-- Sources that block nowhere are collected into claims that do not block. -/
theorem not_blocks_mergeSources
    (unblocked : ∀ claims ∈ sources, ¬Value.Blocks path (.map claims)) :
    ¬Value.Blocks path (.map (mergeSources [] sources)) := by
  rintro ⟨shorter, found, pre, different, reached, noMap⟩
  obtain ⟨claims, member, origin, atSource, originNoMap⟩ :=
    exists_source (fun value => value.isMap = false) not_map_origin reached
      noMap (ne_nil_of_atPath reached noMap)
  exact unblocked claims member
    ⟨shorter, origin, pre, different, atSource, originNoMap⟩

/-! ## What later sources cannot change -/

theorem atPath_mergeSources_of_leaf {value : Value}
    (leaf : value.isLeaf = true)
    (found : Value.atPath path (.map start) = some value) :
    Value.atPath path (.map (mergeSources start sources)) = some value := by
  induction sources generalizing start with
  | nil => exact found
  | cons claims rest induction =>
      rw [mergeSources_cons]
      apply induction
      rw [← mergeValue_map_map]
      obtain ⟨merged, reached, same | ⟨first, -, same⟩⟩ :=
        @Value.atPath_mergeValue_right path (.map claims) _ _ found
      · rw [reached, same]
      · rw [reached, same, mergeValue_of_isLeaf first leaf]

private theorem mergeValue_strings_right (left : Value)
    (texts : List String) :
    ∃ merged, mergeValue left (.strs texts) = .strs merged ∧
      ∀ text ∈ texts, text ∈ merged := by
  cases leftStrings : left.isStrings with
  | false =>
      refine ⟨texts, ?_, fun _ member => member⟩
      exact mergeValue_eq_right (by simp [Value.isMap]) (by simp [leftStrings])
  | true =>
      obtain ⟨first, rfl⟩ := Value.exists_of_isStrings leftStrings
      refine ⟨_, mergeValue_strs_strs first texts, fun text member => ?_⟩
      rw [List.mem_eraseDups]
      exact List.mem_append_right first member

theorem atPath_mergeSources_of_strings {texts : List String}
    (found : Value.atPath path (.map start) = some (.strs texts)) :
    ∃ merged, Value.atPath path (.map (mergeSources start sources)) =
        some (.strs merged) ∧ ∀ text ∈ texts, text ∈ merged := by
  induction sources generalizing start texts with
  | nil => exact ⟨texts, found, fun _ member => member⟩
  | cons claims rest induction =>
      rw [mergeSources_cons]
      have next : ∃ grown,
          Value.atPath path (.map (mergeMaps claims start)) =
              some (.strs grown) ∧ ∀ text ∈ texts, text ∈ grown := by
        rw [← mergeValue_map_map]
        obtain ⟨merged, reached, same | ⟨first, -, same⟩⟩ :=
          @Value.atPath_mergeValue_right path (.map claims) _ _ found
        · exact ⟨texts, by rw [reached, same], fun _ member => member⟩
        · obtain ⟨grown, strings, contains⟩ :=
            mergeValue_strings_right first texts
          exact ⟨grown, by rw [reached, same, strings], contains⟩
      obtain ⟨grown, reached, contains⟩ := next
      obtain ⟨merged, final, grows⟩ := induction reached
      exact ⟨merged, final, fun text member =>
        grows text (contains text member)⟩

end

private theorem atPath_mergeSources_none {path : List String}
    {sources : List Claims} (proper : path ≠ [])
    (absent : ∀ claims ∈ sources, Value.atPath path (.map claims) = none) :
    Value.atPath path (.map (mergeSources [] sources)) = none := by
  cases found : Value.atPath path (.map (mergeSources [] sources)) with
  | none => rfl
  | some value =>
      obtain ⟨claims, member, origin, atSource, -⟩ :=
        exists_source (fun _ => True) (fun _ _ _ => .inl trivial) found
          trivial proper
      rw [absent claims member] at atSource
      cases atSource

/-- The precedence of claims.  A leaf is kept if no earlier source holds a
value at its path or blocks it, whatever the later ones hold.  The texts of a
list of strings are kept if no earlier source holds anything but a list of
strings at its path or blocks it.  Every collected leaf is a leaf of some
source at the same path. -/
theorem authenticate_claim_precedence
    (sprintf : String → String → String) (request : IdentityRequest)
    (providers : List Provider) (response : IdentityResponse)
    (returned : authenticate sprintf providers request = .ok response) :
    ∃ claims, response.user.claims = some claims ∧
      (∀ before source after path value,
        claimSources sprintf request providers = before ++ source :: after →
        Value.atPath path (.map source) = some value →
        value.isLeaf = true →
        (∀ earlier ∈ before, Value.atPath path (.map earlier) = none ∧
          ¬Value.Blocks path (.map earlier)) →
        Value.atPath path (.map claims) = some value) ∧
      (∀ before source after path texts,
        claimSources sprintf request providers = before ++ source :: after →
        Value.atPath path (.map source) = some (.strs texts) →
        (∀ earlier ∈ before,
          (∀ found, Value.atPath path (.map earlier) = some found →
            found.isStrings = true) ∧
          ¬Value.Blocks path (.map earlier)) →
        ∃ merged, Value.atPath path (.map claims) = some (.strs merged) ∧
          ∀ text ∈ texts, text ∈ merged) ∧
      ∀ path value, Value.atPath path (.map claims) = some value →
        value.isLeaf = true →
        ∃ source ∈ claimSources sprintf request providers,
          Value.atPath path (.map source) = some value := by
  refine ⟨_, authenticate_claims returned, ?_, ?_, ?_⟩
  · intro before source after path value split found leaf earlier
    have noMap := Value.not_map_of_isLeaf leaf
    rw [split, mergeSources_append, mergeSources_cons]
    apply atPath_mergeSources_of_leaf leaf
    rw [← mergeValue_map_map,
      Value.atPath_mergeValue_left found
        (not_blocks_mergeSources fun claims member =>
          (earlier claims member).2),
      atPath_mergeSources_none (ne_nil_of_atPath found noMap)
        (fun claims member => (earlier claims member).1)]
  · intro before source after path texts split found earlier
    rw [split, mergeSources_append, mergeSources_cons]
    have kept := Value.atPath_mergeValue_left found
      (not_blocks_mergeSources fun claims member => (earlier claims member).2)
    rw [mergeValue_map_map] at kept
    cases collected : Value.atPath path (.map (mergeSources [] before)) with
    | none =>
        rw [collected] at kept
        exact atPath_mergeSources_of_strings kept
    | some other =>
        have strings : other.isStrings = true := by
          rw [← Bool.not_eq_false]
          intro noStrings
          obtain ⟨claims, member, origin, atSource, no⟩ :=
            exists_source (fun value => value.isStrings = false)
              not_strings_origin collected noStrings
              (ne_nil_of_atPath found rfl)
          rw [(earlier claims member).1 origin atSource] at no
          cases no
        obtain ⟨others, rfl⟩ := Value.exists_of_isStrings strings
        rw [collected] at kept
        simp only [mergeValue_strs_strs] at kept
        obtain ⟨merged, reached, grows⟩ :=
          @atPath_mergeSources_of_strings path _ after _ kept
        refine ⟨merged, reached, fun text member => grows text ?_⟩
        rw [List.mem_eraseDups]
        exact List.mem_append_left others member
  · intro path value found leaf
    obtain ⟨source, member, origin, atSource, rfl⟩ :=
      exists_source (fun origin => origin = value) (leaf_origin leaf) found
        rfl (ne_nil_of_atPath found (Value.not_map_of_isLeaf leaf))
    exact ⟨source, member, atSource⟩

/-- Two providers that disagree on one claim of an organisation. -/
def claimingProviders : List Provider :=
  [ Provider.new (plainConfig "ldap") fun request => .ok
      { user :=
          { initUser request.login with
            claims := some [("org", .map [("team", .str "blue")])] }
        status := Status.userNotFound, details := [], authority := "" },
    Provider.new (plainConfig "ucrd") fun request => .ok
      { user :=
          { initUser request.login with
            claims := some [("org", .map [("team", .str "red"),
              ("site", .null)])] }
        status := Status.userNotFound, details := [], authority := "" } ]

theorem authenticate_claim_precedence_org :
    ∃ response claims,
      authenticate (fun _ text => text) claimingProviders
          { login := "jim", password := "" } = .ok response ∧
        response.user.claims = some claims ∧
        Value.atPath ["org", "team"] (.map claims) = some (.str "blue") ∧
        Value.atPath ["org", "site"] (.map claims) = some .null := by
  obtain ⟨response, returned⟩ : ∃ response,
      authenticate (fun _ text => text) claimingProviders
        { login := "jim", password := "" } = .ok response := ⟨_, rfl⟩
  obtain ⟨claims, collected, leaves, -, -⟩ :=
    authenticate_claim_precedence (fun _ text => text)
      { login := "jim", password := "" } claimingProviders response returned
  have sources : claimSources (fun _ text => text)
      { login := "jim", password := "" } claimingProviders =
        [[("org", .map [("team", .str "blue")])],
          [("org", .map [("team", .str "red"), ("site", .null)])]] := rfl
  refine ⟨response, claims, returned, collected, ?_, ?_⟩
  · apply leaves [] _ _ ["org", "team"] _ sources rfl rfl
    intro earlier member
    cases member
  · apply leaves [_] _ [] ["org", "site"] _ sources rfl rfl
    intro earlier member
    obtain rfl := List.mem_singleton.mp member
    refine ⟨rfl, ?_⟩
    rintro ⟨shorter, found, pre, different, reached, noMap⟩
    rcases List.prefix_cons_iff.mp pre with rfl | ⟨rest, rfl, below⟩
    · obtain rfl := Option.some.inj reached
      cases noMap
    · rcases List.prefix_cons_iff.mp below with rfl | ⟨last, rfl, ended⟩
      · obtain rfl := Option.some.inj reached
        cases noMap
      · rw [List.prefix_nil.mp ended] at different
        exact different rfl

end Kubauth.Merger
