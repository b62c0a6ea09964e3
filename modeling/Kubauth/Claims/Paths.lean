import Kubauth.Claims

/-!
# Paths in claim trees

A path is a list of keys, followed from map to map.  What a merge of two trees
holds at a path depends only on what the two trees hold there and on whether
the second one has something else than a map on the way.
-/

namespace Kubauth

namespace Value

def isMap : Value → Bool
  | .map _ => true
  | _ => false

/-- Whether the value is a `[]string`. -/
def isStrings : Value → Bool
  | .strs _ => true
  | _ => false

/-- A value that no merge looks into. -/
def isLeaf (value : Value) : Bool :=
  !value.isMap && !value.isStrings

/-- The value that a path leads to. -/
def atPath : List String → Value → Option Value
  | [], value => some value
  | key :: path, .map entries => (GoMap.get entries key).bind (atPath path)
  | _ :: _, _ => none

/-- On the way along the path there is something else than a map. -/
def Blocks (path : List String) (value : Value) : Prop :=
  ∃ shorter found, shorter <+: path ∧ shorter ≠ path ∧
    atPath shorter value = some found ∧ found.isMap = false

theorem exists_of_isMap {value : Value} (isMap : value.isMap = true) :
    ∃ entries, value = .map entries := by
  cases value with
  | map entries => exact ⟨entries, rfl⟩
  | _ => cases isMap

theorem exists_of_isStrings {value : Value}
    (isStrings : value.isStrings = true) : ∃ texts, value = .strs texts := by
  cases value with
  | strs texts => exact ⟨texts, rfl⟩
  | _ => cases isStrings

theorem not_map_of_isLeaf {value : Value} (leaf : value.isLeaf = true) :
    value.isMap = false := by
  cases value with
  | map entries => cases leaf
  | _ => rfl

theorem not_strings_of_isLeaf {value : Value} (leaf : value.isLeaf = true) :
    value.isStrings = false := by
  cases value with
  | strs texts => cases leaf
  | _ => rfl

@[simp] theorem atPath_nil (value : Value) : atPath [] value = some value :=
  rfl

@[simp] theorem atPath_map_cons (key : String) (path : List String)
    (entries : Claims) :
    atPath (key :: path) (.map entries) =
      (GoMap.get entries key).bind (atPath path) := rfl

theorem atPath_cons_of_not_map {value : Value} (noMap : value.isMap = false)
    (key : String) (path : List String) :
    atPath (key :: path) value = none := by
  cases value with
  | map entries => cases noMap
  | _ => rfl

theorem not_blocks_tail {key : String} {path : List String}
    {entries : Claims} {value : Value}
    (found : GoMap.get entries key = some value)
    (unblocked : ¬Blocks (key :: path) (.map entries)) : ¬Blocks path value := by
  rintro ⟨shorter, other, pre, different, reached, noMap⟩
  apply unblocked
  refine ⟨key :: shorter, other, ?_, ?_, ?_, noMap⟩
  · exact List.prefix_cons_inj key |>.mpr pre
  · intro same
    exact different (List.cons.inj same).2
  · rw [atPath_map_cons, found]
    exact reached

theorem isMap_of_not_blocks {key : String} {path : List String}
    {value : Value} (unblocked : ¬Blocks (key :: path) value) :
    value.isMap = true := by
  rw [← Bool.not_eq_false]
  intro noMap
  exact unblocked ⟨[], value, List.nil_prefix, List.cons_ne_nil key path |>.symm,
    rfl, noMap⟩

end Value

/-! ## The value under a key that both maps hold -/

theorem mergeValue_map_map (a b : Claims) :
    mergeValue (.map a) (.map b) = .map (mergeMaps a b) := by
  rw [mergeValue, mergeMaps]

theorem mergeValue_strs_strs (a b : List String) :
    mergeValue (.strs a) (.strs b) = .strs (a ++ b).eraseDups := by
  rw [mergeValue, mergeStringSlicesDeduped_eq]

theorem mergeValue_eq_right {value override : Value}
    (noMaps : ¬(value.isMap = true ∧ override.isMap = true))
    (noStrings : ¬(value.isStrings = true ∧ override.isStrings = true)) :
    mergeValue value override = override := by
  cases value with
  | map a =>
      cases override with
      | map b => exact absurd ⟨rfl, rfl⟩ noMaps
      | _ => simp [mergeValue]
  | strs a =>
      cases override with
      | strs b => exact absurd ⟨rfl, rfl⟩ noStrings
      | _ => simp [mergeValue]
  | _ => simp [mergeValue]

theorem mergeValue_of_isLeaf (value : Value) {override : Value}
    (leaf : override.isLeaf = true) :
    mergeValue value override = override := by
  apply mergeValue_eq_right
  · simp [Value.not_map_of_isLeaf leaf]
  · simp [Value.not_strings_of_isLeaf leaf]

/-! ## Merges along a path -/

namespace Value

theorem atPath_mergeValue_cases {path : List String}
    {left right value : Value}
    (found : atPath path (mergeValue left right) = some value) :
    atPath path left = some value ∨ atPath path right = some value ∨
      ∃ first second, atPath path left = some first ∧
        atPath path right = some second ∧
        value = mergeValue first second := by
  induction path generalizing left right with
  | nil =>
      rw [atPath_nil] at found
      exact .inr (.inr ⟨left, right, rfl, rfl, (Option.some.inj found).symm⟩)
  | cons key path induction =>
      by_cases maps : left.isMap = true ∧ right.isMap = true
      · obtain ⟨a, rfl⟩ := exists_of_isMap maps.1
        obtain ⟨b, rfl⟩ := exists_of_isMap maps.2
        rw [mergeValue_map_map, atPath_map_cons, get_mergeMaps] at found
        rw [atPath_map_cons, atPath_map_cons]
        cases inLeft : GoMap.get a key with
        | none =>
            simp only [inLeft] at found
            exact .inr (.inl found)
        | some first =>
            cases inRight : GoMap.get b key with
            | none =>
                simp only [inLeft, inRight] at found
                exact .inl found
            | some second =>
                simp only [inLeft, inRight, Option.bind_some] at found
                exact induction found
      · by_cases strings : left.isStrings = true ∧ right.isStrings = true
        · obtain ⟨a, rfl⟩ := exists_of_isStrings strings.1
          obtain ⟨b, rfl⟩ := exists_of_isStrings strings.2
          rw [mergeValue_strs_strs] at found
          cases found
        · rw [mergeValue_eq_right maps strings] at found
          exact .inr (.inl found)

theorem atPath_mergeValue_right {path : List String}
    {left right second : Value}
    (found : atPath path right = some second) :
    ∃ value, atPath path (mergeValue left right) = some value ∧
      (value = second ∨ ∃ first, atPath path left = some first ∧
        value = mergeValue first second) := by
  induction path generalizing left right with
  | nil =>
      obtain rfl : right = second := Option.some.inj found
      exact ⟨_, rfl, .inr ⟨left, rfl, rfl⟩⟩
  | cons key path induction =>
      cases rightMap : right.isMap with
      | false =>
          rw [atPath_cons_of_not_map rightMap] at found
          cases found
      | true =>
          obtain ⟨b, rfl⟩ := exists_of_isMap rightMap
          cases leftMap : left.isMap with
          | false =>
              refine ⟨second, ?_, .inl rfl⟩
              rw [mergeValue_eq_right (by simp [leftMap])
                (by simp [isStrings])]
              exact found
          | true =>
              obtain ⟨a, rfl⟩ := exists_of_isMap leftMap
              rw [mergeValue_map_map, atPath_map_cons, get_mergeMaps,
                atPath_map_cons]
              rw [atPath_map_cons] at found
              cases inRight : GoMap.get b key with
              | none =>
                  rw [inRight] at found
                  cases found
              | some below =>
                  rw [inRight, Option.bind_some] at found
                  cases inLeft : GoMap.get a key with
                  | none => exact ⟨second, found, .inl rfl⟩
                  | some first => exact induction found

/-- The merge keeps the paths of the first tree that the second one does not
block. -/
theorem atPath_mergeValue_left {path : List String}
    {left right first : Value}
    (found : atPath path left = some first) (unblocked : ¬Blocks path right) :
    atPath path (mergeValue left right) =
      some (match atPath path right with
        | none => first
        | some second => mergeValue first second) := by
  induction path generalizing left right with
  | nil =>
      obtain rfl : left = first := Option.some.inj found
      rfl
  | cons key path induction =>
      cases leftMap : left.isMap with
      | false =>
          rw [atPath_cons_of_not_map leftMap] at found
          cases found
      | true =>
          obtain ⟨a, rfl⟩ := exists_of_isMap leftMap
          obtain ⟨b, rfl⟩ := exists_of_isMap (isMap_of_not_blocks unblocked)
          rw [mergeValue_map_map, atPath_map_cons, get_mergeMaps,
            atPath_map_cons]
          rw [atPath_map_cons] at found
          cases inLeft : GoMap.get a key with
          | none =>
              rw [inLeft] at found
              cases found
          | some below =>
              rw [inLeft, Option.bind_some] at found
              cases inRight : GoMap.get b key with
              | none => simpa using found
              | some other =>
                  exact induction found (not_blocks_tail inRight unblocked)

/-! ## Sequences of merges -/

/-- The tree has nothing at the path, and nothing but maps on the way. -/
def Silent (path : List String) (value : Value) : Prop :=
  atPath path value = none ∧ ¬Blocks path value

/-- A leaf of the second tree replaces what the first one has there. -/
theorem atPath_mergeValue_of_leaf (left : Value) {path : List String}
    {right value : Value} (found : atPath path right = some value)
    (leaf : value.isLeaf = true) :
    atPath path (mergeValue left right) = some value := by
  obtain ⟨merged, reached, same | ⟨first, -, same⟩⟩ :=
    @atPath_mergeValue_right path left right value found
  · rw [reached, same]
  · rw [reached, same, mergeValue_of_isLeaf first leaf]

theorem atPath_foldl_of_silent {path : List String} {start value : Value}
    (found : atPath path start = some value) {trees : List Value}
    (silent : ∀ tree ∈ trees, Silent path tree) :
    atPath path (trees.foldl mergeValue start) = some value := by
  induction trees generalizing start with
  | nil => exact found
  | cons tree trees induction =>
      obtain ⟨absent, unblocked⟩ := silent tree List.mem_cons_self
      have kept := atPath_mergeValue_left found unblocked
      rw [absent] at kept
      exact induction kept fun later member =>
        silent later (List.mem_cons_of_mem _ member)

/-- In a sequence of merges the last tree that is not silent decides, if it has
a leaf. -/
theorem atPath_foldl_of_leaf (start : Value) (before : List Value)
    {path : List String} {tree value : Value}
    (found : atPath path tree = some value) (leaf : value.isLeaf = true)
    {after : List Value} (silent : ∀ later ∈ after, Silent path later) :
    atPath path ((before ++ tree :: after).foldl mergeValue start) =
      some value := by
  rw [List.foldl_append, List.foldl_cons]
  exact atPath_foldl_of_silent (atPath_mergeValue_of_leaf _ found leaf) silent

end Value

end Kubauth
