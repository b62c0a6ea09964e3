import Kubauth.Claims.Paths

/-!
# Normalizing before or after a merge

The merge of an upstream login works on normalized claims, the other ones on
claims as they were decoded.  A decoded list of strings is a `[]interface{}`,
which the merge overrides instead of concatenating.
-/

namespace Kubauth

namespace Value

/-- The texts of a list of strings, in either representation. -/
def texts? : Value → Option (List String)
  | .strs texts => some texts
  | .arr items => interfaceSliceToStringSlice items
  | _ => none

/-- What a value shows of itself at its path: maps are seen through their
entries. -/
def face : Value → Option Value
  | .map _ => none
  | value => some value

/-- What may meet at one path without a difference: if both are lists of
strings, and not both of type `[]string`, then merging changes nothing in the
second one. -/
def Compatible (left right : Value) : Prop :=
  ∀ texts others, left.texts? = some texts → right.texts? = some others →
    (left.isStrings = true ∧ right.isStrings = true) ∨
      (others.Nodup ∧ texts.eraseDups <+: others)

/-- Two trees that cannot be told apart: the same paths lead to maps, and the
other paths to the same values. -/
def Same (left right : Value) : Prop :=
  ∀ path, (atPath path left).map face = (atPath path right).map face

end Value

/-! ## Shapes of normalized values -/

theorem isMap_normalizeStringArrayValue (value : Value) :
    (normalizeStringArrayValue value).isMap = value.isMap := by
  cases value with
  | arr items =>
      rw [normalizeStringArrayValue]
      cases interfaceSliceToStringSlice items <;> rfl
  | map entries =>
      rw [normalizeStringArrayValue]
      rfl
  | _ => simp [normalizeStringArrayValue]

theorem normalizeStringArrayValue_of_texts {value : Value}
    {texts : List String} (found : value.texts? = some texts) :
    normalizeStringArrayValue value = .strs texts := by
  cases value with
  | strs present =>
      obtain rfl : present = texts := Option.some.inj found
      simp [normalizeStringArrayValue]
  | arr items =>
      have converted : interfaceSliceToStringSlice items = some texts := found
      rw [normalizeStringArrayValue, converted]
  | _ => cases found

theorem isStrings_normalizeStringArrayValue {value : Value}
    (noTexts : value.texts? = none) :
    (normalizeStringArrayValue value).isStrings = false := by
  cases value with
  | strs present => cases noTexts
  | arr items =>
      have unconverted : interfaceSliceToStringSlice items = none := noTexts
      rw [normalizeStringArrayValue, unconverted]
      rfl
  | map entries =>
      rw [normalizeStringArrayValue]
      rfl
  | _ => simp [normalizeStringArrayValue, Value.isStrings]

/-! ## Merging and normalizing -/

/-- Below maps, the two orders differ exactly when two lists of strings are
not compatible. -/
theorem normalize_mergeValue_iff {left right : Value}
    (noMaps : ¬(left.isMap = true ∧ right.isMap = true)) :
    normalizeStringArrayValue (mergeValue left right) =
        mergeValue (normalizeStringArrayValue left)
          (normalizeStringArrayValue right) ↔
      Value.Compatible left right := by
  by_cases strings : left.isStrings = true ∧ right.isStrings = true
  · obtain ⟨a, rfl⟩ := Value.exists_of_isStrings strings.1
    obtain ⟨b, rfl⟩ := Value.exists_of_isStrings strings.2
    constructor
    · intro _ texts others _ _
      exact .inl ⟨rfl, rfl⟩
    · intro _
      simp [normalizeStringArrayValue, mergeValue]
  · rw [mergeValue_eq_right noMaps strings]
    have noNormalizedMaps :
        ¬((normalizeStringArrayValue left).isMap = true ∧
          (normalizeStringArrayValue right).isMap = true) := by
      rw [isMap_normalizeStringArrayValue, isMap_normalizeStringArrayValue]
      exact noMaps
    cases leftTexts : left.texts? with
    | none =>
        have noStrings := isStrings_normalizeStringArrayValue leftTexts
        rw [mergeValue_eq_right noNormalizedMaps (by simp [noStrings])]
        constructor
        · intro _ texts others found _
          rw [leftTexts] at found
          cases found
        · exact fun _ => rfl
    | some texts =>
        cases rightTexts : right.texts? with
        | none =>
            have noStrings := isStrings_normalizeStringArrayValue rightTexts
            rw [mergeValue_eq_right noNormalizedMaps (by simp [noStrings])]
            constructor
            · intro _ first second _ found
              rw [rightTexts] at found
              cases found
            · exact fun _ => rfl
        | some others =>
            rw [normalizeStringArrayValue_of_texts leftTexts,
              normalizeStringArrayValue_of_texts rightTexts,
              mergeValue_strs_strs, Value.strs.injEq, eq_comm,
              FirstOccurrences.eraseDups_append_eq_right_iff]
            constructor
            · intro condition first second firstFound secondFound
              rw [leftTexts] at firstFound
              rw [rightTexts] at secondFound
              cases firstFound
              cases secondFound
              exact .inr condition
            · intro compatible
              rcases compatible texts others leftTexts rightTexts with
                both | condition
              · exact absurd both strings
              · exact condition

private theorem atPath_normalize_merge (a b : Claims) (key : String)
    (path : List String) :
    Value.atPath (key :: path)
        (normalizeStringArrayValue (mergeValue (.map a) (.map b))) =
      match GoMap.get a key, GoMap.get b key with
      | none, none => none
      | none, some second =>
          Value.atPath path (normalizeStringArrayValue second)
      | some first, none =>
          Value.atPath path (normalizeStringArrayValue first)
      | some first, some second =>
          Value.atPath path
            (normalizeStringArrayValue (mergeValue first second)) := by
  rw [mergeValue_map_map, normalizeStringArrayValue, Value.atPath_map_cons,
    get_normalizeStringArray, get_mergeMaps]
  cases GoMap.get a key <;> cases GoMap.get b key <;> rfl

private theorem atPath_merge_normalize (a b : Claims) (key : String)
    (path : List String) :
    Value.atPath (key :: path)
        (mergeValue (normalizeStringArrayValue (.map a))
          (normalizeStringArrayValue (.map b))) =
      match GoMap.get a key, GoMap.get b key with
      | none, none => none
      | none, some second =>
          Value.atPath path (normalizeStringArrayValue second)
      | some first, none =>
          Value.atPath path (normalizeStringArrayValue first)
      | some first, some second =>
          Value.atPath path (mergeValue (normalizeStringArrayValue first)
            (normalizeStringArrayValue second)) := by
  rw [normalizeStringArrayValue, normalizeStringArrayValue,
    mergeValue_map_map, Value.atPath_map_cons, get_mergeMaps,
    get_normalizeStringArray, get_normalizeStringArray]
  cases GoMap.get a key <;> cases GoMap.get b key <;> rfl

theorem Value.face_of_not_map {value : Value} (noMap : value.isMap = false) :
    value.face = some value := by
  cases value with
  | map entries => cases noMap
  | _ => rfl

theorem Value.not_map_of_texts {value : Value} {texts : List String}
    (found : value.texts? = some texts) : value.isMap = false := by
  cases value with
  | map entries => cases found
  | _ => rfl

/-- Values that show the same although they were merged differently are
compatible. -/
private theorem compatible_of_face {left right : Value}
    (same : (normalizeStringArrayValue (mergeValue left right)).face =
      (mergeValue (normalizeStringArrayValue left)
        (normalizeStringArrayValue right)).face) :
    Value.Compatible left right := by
  intro texts others leftTexts rightTexts
  have rightMap := Value.not_map_of_texts rightTexts
  have noMaps : ¬(left.isMap = true ∧ right.isMap = true) := by
    simp [rightMap]
  have before : (normalizeStringArrayValue
      (mergeValue left right)).isMap = false := by
    rw [isMap_normalizeStringArrayValue]
    by_cases strings : left.isStrings = true ∧ right.isStrings = true
    · obtain ⟨a, rfl⟩ := Value.exists_of_isStrings strings.1
      obtain ⟨b, rfl⟩ := Value.exists_of_isStrings strings.2
      rw [mergeValue_strs_strs]
      rfl
    · rw [mergeValue_eq_right noMaps strings, rightMap]
  have after : (mergeValue (normalizeStringArrayValue left)
      (normalizeStringArrayValue right)).isMap = false := by
    rw [normalizeStringArrayValue_of_texts leftTexts,
      normalizeStringArrayValue_of_texts rightTexts, mergeValue_strs_strs]
    rfl
  rw [Value.face_of_not_map before, Value.face_of_not_map after] at same
  exact (normalize_mergeValue_iff noMaps).mp (Option.some.inj same) texts
    others leftTexts rightTexts

private theorem compatible_of_same {path : List String}
    {left right first second : Value}
    (same : Value.Same (normalizeStringArrayValue (mergeValue left right))
      (mergeValue (normalizeStringArrayValue left)
        (normalizeStringArrayValue right)))
    (inLeft : Value.atPath path left = some first)
    (inRight : Value.atPath path right = some second) :
    Value.Compatible first second := by
  induction path generalizing left right with
  | nil =>
      obtain rfl : left = first := Option.some.inj inLeft
      obtain rfl : right = second := Option.some.inj inRight
      exact compatible_of_face (Option.some.inj (same []))
  | cons key path induction =>
      cases leftMap : left.isMap with
      | false =>
          rw [Value.atPath_cons_of_not_map leftMap] at inLeft
          cases inLeft
      | true =>
          cases rightMap : right.isMap with
          | false =>
              rw [Value.atPath_cons_of_not_map rightMap] at inRight
              cases inRight
          | true =>
              obtain ⟨a, rfl⟩ := Value.exists_of_isMap leftMap
              obtain ⟨b, rfl⟩ := Value.exists_of_isMap rightMap
              rw [Value.atPath_map_cons] at inLeft inRight
              obtain ⟨below, foundLeft, inLeft⟩ :=
                Option.bind_eq_some_iff.mp inLeft
              obtain ⟨other, foundRight, inRight⟩ :=
                Option.bind_eq_some_iff.mp inRight
              refine induction (fun rest => ?_) inLeft inRight
              have sameBelow := same (key :: rest)
              rw [atPath_normalize_merge, atPath_merge_normalize, foundLeft,
                foundRight] at sameBelow
              exact sameBelow

/-- Without a difference at the paths where lists meet there is none. -/
private theorem same_of_compatible {left right : Value}
    (compatible : ∀ path first second,
      Value.atPath path left = some first →
      Value.atPath path right = some second →
      Value.Compatible first second) :
    Value.Same (normalizeStringArrayValue (mergeValue left right))
      (mergeValue (normalizeStringArrayValue left)
        (normalizeStringArrayValue right)) := by
  intro path
  induction path generalizing left right with
  | nil =>
      by_cases maps : left.isMap = true ∧ right.isMap = true
      · obtain ⟨a, rfl⟩ := Value.exists_of_isMap maps.1
        obtain ⟨b, rfl⟩ := Value.exists_of_isMap maps.2
        rw [mergeValue_map_map, normalizeStringArrayValue,
          normalizeStringArrayValue, normalizeStringArrayValue,
          mergeValue_map_map]
        rfl
      · rw [(normalize_mergeValue_iff maps).mpr (compatible [] _ _ rfl rfl)]
  | cons key path induction =>
      by_cases maps : left.isMap = true ∧ right.isMap = true
      · obtain ⟨a, rfl⟩ := Value.exists_of_isMap maps.1
        obtain ⟨b, rfl⟩ := Value.exists_of_isMap maps.2
        rw [atPath_normalize_merge, atPath_merge_normalize]
        cases foundLeft : GoMap.get a key with
        | none => cases GoMap.get b key <;> rfl
        | some below =>
            cases foundRight : GoMap.get b key with
            | none => rfl
            | some other =>
                refine induction fun rest first second inLeft inRight => ?_
                apply compatible (key :: rest) first second
                · rw [Value.atPath_map_cons, foundLeft]
                  exact inLeft
                · rw [Value.atPath_map_cons, foundRight]
                  exact inRight
      · rw [(normalize_mergeValue_iff maps).mpr (compatible [] _ _ rfl rfl)]

/-- Normalizing after a merge gives the same claims as normalizing before it
exactly when, wherever two lists of strings meet that are not both normalized
already, the second one starts with the texts of the first one and repeats
nothing. -/
theorem normalize_mergeMaps_iff (a b : Claims) :
    Value.Same (.map (normalizeStringArray (mergeMaps a b)))
        (.map (mergeMaps (normalizeStringArray a)
          (normalizeStringArray b))) ↔
      ∀ path first second, Value.atPath path (.map a) = some first →
        Value.atPath path (.map b) = some second →
        Value.Compatible first second := by
  have before : Value.map (normalizeStringArray (mergeMaps a b)) =
      normalizeStringArrayValue (mergeValue (.map a) (.map b)) := by
    rw [mergeValue_map_map, normalizeStringArrayValue]
  have after : Value.map (mergeMaps (normalizeStringArray a)
      (normalizeStringArray b)) =
        mergeValue (normalizeStringArrayValue (.map a))
          (normalizeStringArrayValue (.map b)) := by
    rw [normalizeStringArrayValue, normalizeStringArrayValue,
      mergeValue_map_map]
  rw [before, after]
  constructor
  · intro same path first second inLeft inRight
    exact compatible_of_same same inLeft inRight
  · exact same_of_compatible

/-- Two decoded lists of groups: the raw merge keeps the second one only. -/
theorem normalize_mergeMaps_groups :
    ¬Value.Same
      (.map (normalizeStringArray
        (mergeMaps [("groups", .arr [.str "dev"])]
          [("groups", .arr [.str "ops"])])))
      (.map (mergeMaps
        (normalizeStringArray [("groups", .arr [.str "dev"])])
        (normalizeStringArray [("groups", .arr [.str "ops"])]))) := by
  intro same
  have lists := same ["groups"]
  simp [mergeMaps, mergeEntries, mergeValue, normalizeStringArray,
    normalizeStringArrayValue, interfaceSliceToStringSlice, GoMap.get,
    Value.atPath, Value.face, mergeStringSlicesDeduped, appendUnseen] at lists

end Kubauth
