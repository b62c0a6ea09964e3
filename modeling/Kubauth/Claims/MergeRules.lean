import Kubauth.Claims.Paths

/-!
# The documented rules of merging

The documentation of claim merging gives rules for a key that both maps hold:
maps are merged recursively, lists of strings are concatenated without
duplicates, and in all other cases the value of the second map is taken if it
is not null.  `mergeMaps` takes that value even if it is null.
-/

namespace Kubauth

/-- `Merges left right value`: the rules make `value` of the values `left` and
`right` that two maps hold under one key. -/
inductive Merges : Value → Value → Value → Prop where
  | maps {a b out : Claims}
      (keys : ∀ key, (GoMap.get out key).isSome ↔
        (GoMap.get a key).isSome ∨ (GoMap.get b key).isSome)
      (left : ∀ key value, GoMap.get a key = some value →
        GoMap.get b key = none → GoMap.get out key = some value)
      (right : ∀ key value, GoMap.get a key = none →
        GoMap.get b key = some value → GoMap.get out key = some value)
      (both : ∀ key first second value, GoMap.get a key = some first →
        GoMap.get b key = some second → GoMap.get out key = some value →
        Merges first second value) :
      Merges (.map a) (.map b) (.map out)
  | strings (a b : List String) :
      Merges (.strs a) (.strs b) (.strs (a ++ b).eraseDups)
  | kept (value : Value) : Merges value .null value
  | overridden {value override : Value}
      (notNull : override ≠ .null)
      (noMaps : ¬(value.isMap = true ∧ override.isMap = true))
      (noStrings : ¬(value.isStrings = true ∧ override.isStrings = true)) :
      Merges value override override

/-- The second tree holds no null where the first one holds something else. -/
def NoNullOver (left right : Value) : Prop :=
  ∀ path, Value.atPath path right = some .null →
    Value.atPath path left = none ∨ Value.atPath path left = some .null

theorem NoNullOver.below {a b : Claims}
    (harmless : NoNullOver (.map a) (.map b)) {key : String}
    {first second : Value} (inLeft : GoMap.get a key = some first)
    (inRight : GoMap.get b key = some second) : NoNullOver first second := by
  intro path null
  have result := harmless (key :: path)
  rw [Value.atPath_map_cons, Value.atPath_map_cons, inLeft, inRight,
    Option.bind_some, Option.bind_some] at result
  exact result null

/-- The rules for maps, which `mergeMaps` follows if it follows the rules below
every key. -/
theorem merges_mergeMaps_iff (a b : Claims) :
    Merges (.map a) (.map b) (.map (mergeMaps a b)) ↔
      ∀ key first second, GoMap.get a key = some first →
        GoMap.get b key = some second →
        Merges first second (mergeValue first second) := by
  constructor
  · intro merges key first second inLeft inRight
    generalize result : Value.map (mergeMaps a b) = out at merges
    cases merges with
    | maps keys left right both =>
        apply both key first second _ inLeft inRight
        rw [← Value.map.inj result, get_mergeMaps, inLeft, inRight]
    | overridden notNull noMaps noStrings => exact absurd ⟨rfl, rfl⟩ noMaps
  · intro below
    constructor
    · intro key
      rw [get_mergeMaps]
      cases GoMap.get a key <;> cases GoMap.get b key <;> simp
    · intro key value inLeft absent
      rw [get_mergeMaps, inLeft, absent]
    · intro key value absent inRight
      rw [get_mergeMaps, absent, inRight]
    · intro key first second value inLeft inRight result
      rw [get_mergeMaps, inLeft, inRight] at result
      obtain rfl := Option.some.inj result
      exact below key first second inLeft inRight

/-- A violation of the rules is found at the end of a path. -/
theorem noNullOver_of_merges {path : List String} {left right : Value}
    (merges : Merges left right (mergeValue left right))
    (null : Value.atPath path right = some .null) :
    Value.atPath path left = none ∨
      Value.atPath path left = some .null := by
  induction path generalizing left right with
  | nil =>
      obtain rfl : right = .null := Option.some.inj null
      rw [mergeValue_of_isLeaf left rfl] at merges
      cases merges with
      | kept => exact .inr rfl
      | overridden notNull => exact absurd rfl notNull
  | cons key path induction =>
      cases rightMap : right.isMap with
      | false =>
          rw [Value.atPath_cons_of_not_map rightMap] at null
          cases null
      | true =>
          cases leftMap : left.isMap with
          | false => exact .inl (Value.atPath_cons_of_not_map leftMap key path)
          | true =>
              obtain ⟨a, rfl⟩ := Value.exists_of_isMap leftMap
              obtain ⟨b, rfl⟩ := Value.exists_of_isMap rightMap
              rw [mergeValue_map_map, merges_mergeMaps_iff] at merges
              rw [Value.atPath_map_cons] at null ⊢
              cases inRight : GoMap.get b key with
              | none =>
                  rw [inRight] at null
                  cases null
              | some second =>
                  rw [inRight, Option.bind_some] at null
                  cases inLeft : GoMap.get a key with
                  | none => exact .inl rfl
                  | some first =>
                      exact induction (merges key first second inLeft inRight)
                        null

private theorem merges_of_not_maps {left right : Value}
    (noMaps : ¬(left.isMap = true ∧ right.isMap = true))
    (harmless : NoNullOver left right) :
    Merges left right (mergeValue left right) := by
  by_cases strings : left.isStrings = true ∧ right.isStrings = true
  · obtain ⟨a, rfl⟩ := Value.exists_of_isStrings strings.1
    obtain ⟨b, rfl⟩ := Value.exists_of_isStrings strings.2
    rw [mergeValue_strs_strs]
    exact .strings a b
  · rw [mergeValue_eq_right noMaps strings]
    by_cases null : right = .null
    · subst null
      rcases harmless [] rfl with absent | same
      · cases absent
      · obtain rfl : left = .null := Option.some.inj same
        exact .kept .null
    · exact .overridden null noMaps strings

mutual

theorem merges_mergeValue (left right : Value)
    (harmless : NoNullOver left right) :
    Merges left right (mergeValue left right) := by
  cases left with
  | map a =>
      cases right with
      | map b =>
          rw [mergeValue_map_map, merges_mergeMaps_iff]
          intro key first second inLeft inRight
          exact merges_mergeValue_of_get a inLeft
            (harmless.below inLeft inRight)
      | _ => exact merges_of_not_maps (by simp [Value.isMap]) harmless
  | _ => exact merges_of_not_maps (by simp [Value.isMap]) harmless

theorem merges_mergeValue_of_get (a : List (String × Value)) {key : String}
    {first second : Value} (found : GoMap.get a key = some first)
    (harmless : NoNullOver first second) :
    Merges first second (mergeValue first second) := by
  cases a with
  | nil => cases found
  | cons entry rest =>
      obtain ⟨present, value⟩ := entry
      rw [GoMap.get_cons] at found
      split at found
      · obtain rfl := Option.some.inj found
        exact merges_mergeValue value second harmless
      · exact merges_mergeValue_of_get rest found harmless

end

/-- `MergeMaps` meets its documented rules exactly where no null of the second
map overrides a value of the first one, at any depth. -/
theorem mergeMaps_meets_rules_iff (a b : Claims) :
    Merges (.map a) (.map b) (.map (mergeMaps a b)) ↔
      ∀ path, Value.atPath path (.map b) = some .null →
        Value.atPath path (.map a) = none ∨
          Value.atPath path (.map a) = some .null := by
  rw [← mergeValue_map_map]
  constructor
  · intro merges path null
    exact noNullOver_of_merges merges null
  · exact merges_mergeValue (.map a) (.map b)

/-- A null claim of the second map erases the claim of the first one. -/
theorem mergeMaps_null_overrides :
    ¬Merges (.map [("team", .str "blue")]) (.map [("team", .null)])
      (.map (mergeMaps [("team", .str "blue")] [("team", .null)])) := by
  intro merges
  rcases @noNullOver_of_merges ["team"] _ _ merges rfl with absent | null
  · cases absent
  · cases null

end Kubauth
