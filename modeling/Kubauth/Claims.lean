import Kubauth.GoMap
import Kubauth.Misc
import Mathlib.Data.Rat.Defs

/-!
# Claim trees

Claims are `map[string]interface{}` values.  A decoded JSON document only
holds `[]interface{}` arrays; `normalizeStringArray` turns the ones made of
strings alone into `[]string`, which is the shape `mergeMaps` concatenates.
-/

namespace Kubauth

/-- A dynamically typed claim.  `strs` is a `[]string` and `arr` a
`[]interface{}`; `num` is a decoded JSON number and `int` a Go `int`. -/
inductive Value where
  | null
  | bool (value : Bool)
  | num (value : Rat)
  | int (value : Int)
  | str (value : String)
  | strs (values : List String)
  | arr (items : List Value)
  | map (entries : List (String × Value))
  deriving Repr, Inhabited

/-- The entries of a `map[string]interface{}`. -/
abbrev Claims := GoMap String Value

/-- A claim set that may be the nil map. -/
abbrev ClaimSet := Option Claims

/-- Reading a nil map finds nothing, exactly as reading an empty one. -/
def ClaimSet.entries (claims : ClaimSet) : Claims :=
  claims.getD []

@[simp] theorem ClaimSet.entries_some (claims : Claims) :
    ClaimSet.entries (some claims) = claims := rfl

@[simp] theorem ClaimSet.entries_none : ClaimSet.entries none = [] := rfl

/-- `s, _ := claims[key].(string)`: the empty string when the claim is absent
or is not a string. -/
def Claims.getString (claims : Claims) (key : String) : String :=
  match GoMap.get claims key with
  | some (.str text) => text
  | _ => ""

theorem Claims.get_of_getString {claims : Claims} {key text : String}
    (read : Claims.getString claims key = text) (nonempty : text ≠ "") :
    GoMap.get claims key = some (.str text) := by
  unfold Claims.getString at read
  split at read
  · next found => rw [found, read]
  · exact absurd read.symm nonempty

/-! ## Merging -/

mutual

/-- The value `mergeMaps` stores under a key that both maps hold. -/
def mergeValue : Value → Value → Value
  | .map a, .map b =>
      .map (mergeEntries a b ++ b.filter fun entry =>
        (GoMap.get a entry.1).isNone)
  | .strs a, .strs b => .strs (mergeStringSlicesDeduped a b)
  | _, b => b

/-- The entries of the first map, each updated by the second one. -/
def mergeEntries : List (String × Value) → List (String × Value) →
    List (String × Value)
  | [], _ => []
  | (key, value) :: rest, b =>
      (key,
        match GoMap.get b key with
        | none => value
        | some override => mergeValue value override) ::
      mergeEntries rest b

end

/-- `MergeMaps`.  `out` starts as a copy of `a` and every key of `b` is visited
once, in no fixed order, while `out[k]` is still `a[k]`: so the keys of `a`
keep their place and the other keys of `b` follow. -/
def mergeMaps (a b : Claims) : Claims :=
  mergeEntries a b ++ b.filter fun entry => (GoMap.get a entry.1).isNone

private theorem get_mergeEntries (a b : Claims) (key : String) :
    GoMap.get (mergeEntries a b) key =
      match GoMap.get a key, GoMap.get b key with
      | none, _ => none
      | some value, none => some value
      | some value, some override => some (mergeValue value override) := by
  induction a with
  | nil => simp [mergeEntries]
  | cons entry rest induction =>
      obtain ⟨present, value⟩ := entry
      simp only [mergeEntries, GoMap.get_cons]
      by_cases same : present = key
      · subst present
        cases GoMap.get b key <;> simp
      · simpa [same] using induction

private theorem get_append (first second : Claims) (key : String) :
    GoMap.get (first ++ second) key =
      (GoMap.get first key).or (GoMap.get second key) := by
  induction first with
  | nil => simp
  | cons entry rest induction =>
      obtain ⟨present, value⟩ := entry
      by_cases same : present = key
      · simp [GoMap.get_cons, same]
      · simp [GoMap.get_cons, same, induction]

private theorem get_filter_absent (a b : Claims) (key : String) :
    GoMap.get (b.filter fun entry => (GoMap.get a entry.1).isNone) key =
      if (GoMap.get a key).isNone then GoMap.get b key else none := by
  induction b with
  | nil => simp
  | cons entry rest induction =>
      obtain ⟨present, value⟩ := entry
      by_cases same : present = key
      · subst present
        by_cases absent : (GoMap.get a key).isNone = true
        · simp [absent, GoMap.get_cons]
        · simpa [List.filter_cons, absent] using induction
      · by_cases absent : (GoMap.get a present).isNone = true
        · simpa [List.filter_cons, absent, GoMap.get_cons, same]
            using induction
        · simpa [List.filter_cons, absent, GoMap.get_cons, same]
            using induction

/-- What `mergeMaps` holds under a key, in terms of the two maps alone. -/
theorem get_mergeMaps (a b : Claims) (key : String) :
    GoMap.get (mergeMaps a b) key =
      match GoMap.get a key, GoMap.get b key with
      | none, override => override
      | some value, none => some value
      | some value, some override => some (mergeValue value override) := by
  simp only [mergeMaps, get_append, get_mergeEntries, get_filter_absent]
  cases GoMap.get a key <;> cases GoMap.get b key <;> simp

theorem nil_mergeMaps (b : Claims) : mergeMaps [] b = b := by
  simp [mergeMaps, mergeEntries]

theorem mergeMaps_nil (a : Claims) : mergeMaps a [] = a := by
  rw [mergeMaps, List.filter_nil, List.append_nil]
  induction a with
  | nil => rfl
  | cons entry rest induction =>
      obtain ⟨key, value⟩ := entry
      rw [mergeEntries, GoMap.get_nil, induction]

/-- A string claim comes from the second map as soon as that map holds the
key at all. -/
theorem getString_mergeMaps (a b : Claims) (key : String) :
    Claims.getString (mergeMaps a b) key =
      if (GoMap.get b key).isSome then Claims.getString b key
      else Claims.getString a key := by
  unfold Claims.getString
  rw [get_mergeMaps]
  cases GoMap.get b key with
  | none => cases GoMap.get a key <;> simp
  | some override =>
      cases GoMap.get a key with
      | none => simp
      | some value => cases value <;> cases override <;> simp [mergeValue]

/-! ## Normalization -/

/-- `interfaceSliceToStringSlice`: the slice as a `[]string`, when every
element is a string. -/
def interfaceSliceToStringSlice : List Value → Option (List String)
  | [] => some []
  | .str text :: rest => (interfaceSliceToStringSlice rest).map (text :: ·)
  | _ :: _ => none

mutual

def normalizeStringArrayValue : Value → Value
  | .map entries => .map (normalizeStringArray entries)
  | .arr items =>
      match interfaceSliceToStringSlice items with
      | some texts => .strs texts
      | none => .arr (normalizeStringArrayItems items)
  | value => value

/-- `NormalizeStringArray` on the entries of a map that is not nil. -/
def normalizeStringArray : List (String × Value) → List (String × Value)
  | [] => []
  | (key, value) :: rest =>
      (key, normalizeStringArrayValue value) :: normalizeStringArray rest

def normalizeStringArrayItems : List Value → List Value
  | [] => []
  | item :: rest =>
      normalizeStringArrayValue item :: normalizeStringArrayItems rest

end

/-- `NormalizeStringArray`, which leaves the nil map alone. -/
def ClaimSet.normalizeStringArray (claims : ClaimSet) : ClaimSet :=
  claims.map Kubauth.normalizeStringArray

@[simp] theorem ClaimSet.entries_normalizeStringArray (claims : ClaimSet) :
    claims.normalizeStringArray.entries =
      Kubauth.normalizeStringArray claims.entries := by
  cases claims with
  | none => rfl
  | some entries => rfl

theorem get_normalizeStringArray (claims : Claims) (key : String) :
    GoMap.get (normalizeStringArray claims) key =
      (GoMap.get claims key).map normalizeStringArrayValue := by
  induction claims with
  | nil => simp [normalizeStringArray]
  | cons entry rest induction =>
      obtain ⟨present, value⟩ := entry
      by_cases same : present = key
      · simp [normalizeStringArray, GoMap.get_cons, same]
      · simp [normalizeStringArray, GoMap.get_cons, same, induction]

@[simp] theorem getString_normalizeStringArray (claims : Claims)
    (key : String) :
    Claims.getString (normalizeStringArray claims) key =
      Claims.getString claims key := by
  unfold Claims.getString
  rw [get_normalizeStringArray]
  cases found : GoMap.get claims key with
  | none => simp
  | some value =>
      cases value with
      | arr items =>
          simp only [Option.map_some, normalizeStringArrayValue]
          cases interfaceSliceToStringSlice items <;> simp
      | _ => simp [normalizeStringArrayValue]

end Kubauth
