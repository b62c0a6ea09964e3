import Kubauth.Claims

/-!
# The normal form of claims

A list of strings may be held as a `[]string` or as a `[]interface{}`.
Normalizing chooses the first wherever it can, at any depth, and changes nothing
else: the trees that it takes to one tree are those that differ in this choice.
-/

namespace Kubauth

/-! ## Trees with no string arrays -/

mutual

/-- The tree with every `[]string` turned back into a `[]interface{}`. -/
def Value.loosened : Value → Value
  | .map entries => .map (loosenedEntries entries)
  | .arr items => .arr (loosenedItems items)
  | .strs texts => .arr (texts.map .str)
  | value => value

def loosenedEntries : List (String × Value) → List (String × Value)
  | [] => []
  | (key, value) :: rest => (key, value.loosened) :: loosenedEntries rest

def loosenedItems : List Value → List Value
  | [] => []
  | item :: rest => item.loosened :: loosenedItems rest

end

/-- `Within inner outer`: the tree `inner` is `outer` or somewhere in it. -/
inductive Value.Within (inner : Value) : Value → Prop where
  | self : Within inner inner
  | item {item : Value} {items : List Value} :
      item ∈ items → Within inner item → Within inner (.arr items)
  | entry {key : String} {value : Value} {entries : List (String × Value)} :
      (key, value) ∈ entries → Within inner value →
      Within inner (.map entries)

/-! ## Lists of strings -/

theorem interfaceSliceToStringSlice_map_str (texts : List String) :
    interfaceSliceToStringSlice (texts.map .str) = some texts := by
  induction texts with
  | nil => rfl
  | cons text rest induction =>
      rw [List.map_cons, interfaceSliceToStringSlice, induction]
      rfl

theorem eq_map_str_of_some {items : List Value} {texts : List String}
    (converted : interfaceSliceToStringSlice items = some texts) :
    items = texts.map .str := by
  induction items generalizing texts with
  | nil =>
      cases converted
      rfl
  | cons item rest induction =>
      cases item with
      | str text =>
          obtain ⟨others, tail, rfl⟩ := Option.map_eq_some_iff.mp converted
          rw [induction tail, List.map_cons]
      | _ => cases converted

theorem loosenedItems_map_str (texts : List String) :
    loosenedItems (texts.map .str) = texts.map .str := by
  induction texts with
  | nil => rfl
  | cons text rest induction =>
      rw [List.map_cons, loosenedItems, induction]
      rfl

theorem interfaceSliceToStringSlice_normalized (items : List Value) :
    interfaceSliceToStringSlice (normalizeStringArrayItems items) =
      interfaceSliceToStringSlice items := by
  induction items with
  | nil => rfl
  | cons item rest induction =>
      rw [normalizeStringArrayItems]
      cases item with
      | str text => exact congrArg (Option.map (text :: ·)) induction
      | arr inner =>
          rw [normalizeStringArrayValue]
          cases interfaceSliceToStringSlice inner with
          | none => rfl
          | some texts => rfl
      | _ => rfl

/-! ## Normalized trees -/

section

variable {items : List Value} {texts : List String}

theorem normalizeStringArrayValue_of_some
    (converted : interfaceSliceToStringSlice items = some texts) :
    normalizeStringArrayValue (.arr items) = .strs texts := by
  rw [normalizeStringArrayValue, converted]

theorem normalizeStringArrayValue_of_none
    (mixed : interfaceSliceToStringSlice items = none) :
    normalizeStringArrayValue (.arr items) =
      .arr (normalizeStringArrayItems items) := by
  rw [normalizeStringArrayValue, mixed]

end

mutual

theorem normalizeStringArrayValue_idempotent : ∀ value : Value,
    normalizeStringArrayValue (normalizeStringArrayValue value) =
      normalizeStringArrayValue value
  | .map entries => by
      rw [normalizeStringArrayValue, normalizeStringArrayValue,
        normalizeStringArray_idempotent entries]
  | .arr items => by
      cases slice : interfaceSliceToStringSlice items with
      | some texts =>
          rw [normalizeStringArrayValue_of_some slice]
          rfl
      | none =>
          have mixed := interfaceSliceToStringSlice_normalized items
          rw [normalizeStringArrayValue_of_none slice,
            normalizeStringArrayValue_of_none (mixed.trans slice),
            normalizeStringArrayItems_idempotent items]
  | .null => rfl
  | .bool _ => rfl
  | .num _ => rfl
  | .int _ => rfl
  | .str _ => rfl
  | .strs _ => rfl

theorem normalizeStringArray_idempotent : ∀ entries : List (String × Value),
    normalizeStringArray (normalizeStringArray entries) =
      normalizeStringArray entries
  | [] => rfl
  | (key, value) :: rest => by
      rw [normalizeStringArray, normalizeStringArray,
        normalizeStringArrayValue_idempotent value,
        normalizeStringArray_idempotent rest]

theorem normalizeStringArrayItems_idempotent : ∀ items : List Value,
    normalizeStringArrayItems (normalizeStringArrayItems items) =
      normalizeStringArrayItems items
  | [] => rfl
  | item :: rest => by
      rw [normalizeStringArrayItems, normalizeStringArrayItems,
        normalizeStringArrayValue_idempotent item,
        normalizeStringArrayItems_idempotent rest]

end

mutual

theorem loosened_normalizeStringArrayValue : ∀ value : Value,
    (normalizeStringArrayValue value).loosened = value.loosened
  | .map entries => by
      rw [normalizeStringArrayValue, Value.loosened, Value.loosened,
        loosenedEntries_normalizeStringArray entries]
  | .arr items => by
      cases slice : interfaceSliceToStringSlice items with
      | some texts =>
          rw [normalizeStringArrayValue_of_some slice,
            eq_map_str_of_some slice, Value.loosened, Value.loosened,
            loosenedItems_map_str]
      | none =>
          rw [normalizeStringArrayValue_of_none slice, Value.loosened,
            Value.loosened, loosenedItems_normalizeStringArrayItems items]
  | .null => rfl
  | .bool _ => rfl
  | .num _ => rfl
  | .int _ => rfl
  | .str _ => rfl
  | .strs _ => rfl

theorem loosenedEntries_normalizeStringArray :
    ∀ entries : List (String × Value),
      loosenedEntries (normalizeStringArray entries) = loosenedEntries entries
  | [] => rfl
  | (key, value) :: rest => by
      rw [normalizeStringArray, loosenedEntries, loosenedEntries,
        loosened_normalizeStringArrayValue value,
        loosenedEntries_normalizeStringArray rest]

theorem loosenedItems_normalizeStringArrayItems : ∀ items : List Value,
    loosenedItems (normalizeStringArrayItems items) = loosenedItems items
  | [] => rfl
  | item :: rest => by
      rw [normalizeStringArrayItems, loosenedItems, loosenedItems,
        loosened_normalizeStringArrayValue item,
        loosenedItems_normalizeStringArrayItems rest]

end

/-- The value is an array that could be held as a `[]string`. -/
def Value.Convertible (value : Value) : Prop :=
  ∃ items, value = .arr items ∧ ∀ item ∈ items, ∃ text, item = .str text

theorem exists_map_str {items : List Value}
    (strings : ∀ item ∈ items, ∃ text, item = .str text) :
    ∃ texts : List String, items = texts.map .str := by
  induction items with
  | nil => exact ⟨[], rfl⟩
  | cons item rest induction =>
      obtain ⟨text, rfl⟩ := strings item List.mem_cons_self
      obtain ⟨texts, rfl⟩ := induction fun later member =>
        strings later (List.mem_cons_of_mem _ member)
      exact ⟨text :: texts, rfl⟩

/-- An array that is left as it is has an element that is no string. -/
theorem not_convertible_of_none {items : List Value}
    (mixed : interfaceSliceToStringSlice items = none) :
    ¬(Value.arr (normalizeStringArrayItems items)).Convertible := by
  rintro ⟨others, same, strings⟩
  cases same
  obtain ⟨texts, converted⟩ := exists_map_str strings
  have found := interfaceSliceToStringSlice_map_str texts
  rw [← converted, interfaceSliceToStringSlice_normalized, mixed] at found
  cases found

theorem normalizeStringArrayItems_eq_map (items : List Value) :
    normalizeStringArrayItems items =
      items.map normalizeStringArrayValue := by
  induction items with
  | nil => rfl
  | cons item rest induction =>
      rw [normalizeStringArrayItems, induction, List.map_cons]

theorem normalizeStringArray_eq_map (entries : List (String × Value)) :
    normalizeStringArray entries =
      entries.map fun entry =>
        (entry.1, normalizeStringArrayValue entry.2) := by
  induction entries with
  | nil => rfl
  | cons entry rest induction =>
      rw [normalizeStringArray, induction, List.map_cons]

theorem arr_eq_normalizeStringArrayValue {items : List Value} {value : Value}
    (same : .arr items = normalizeStringArrayValue value) :
    ∃ old, interfaceSliceToStringSlice old = none ∧
      items = normalizeStringArrayItems old := by
  cases value with
  | arr old =>
      cases slice : interfaceSliceToStringSlice old with
      | none =>
          rw [normalizeStringArrayValue_of_none slice] at same
          cases same
          exact ⟨old, slice, rfl⟩
      | some texts =>
          rw [normalizeStringArrayValue_of_some slice] at same
          cases same
  | _ => cases same

theorem map_eq_normalizeStringArrayValue {entries : List (String × Value)}
    {value : Value} (same : .map entries = normalizeStringArrayValue value) :
    ∃ old, entries = normalizeStringArray old := by
  cases value with
  | map old =>
      cases same
      exact ⟨old, rfl⟩
  | arr old =>
      cases slice : interfaceSliceToStringSlice old with
      | none =>
          rw [normalizeStringArrayValue_of_none slice] at same
          cases same
      | some texts =>
          rw [normalizeStringArrayValue_of_some slice] at same
          cases same
  | _ => cases same

theorem not_convertible_of_within {inner outer : Value}
    (within : inner.Within outer) {value : Value}
    (normalized : outer = normalizeStringArrayValue value) :
    ¬inner.Convertible := by
  induction within generalizing value with
  | self =>
      rintro ⟨items, rfl, strings⟩
      obtain ⟨old, mixed, rfl⟩ := arr_eq_normalizeStringArrayValue normalized
      exact not_convertible_of_none mixed ⟨_, rfl, strings⟩
  | item member _ induction =>
      obtain ⟨old, -, rfl⟩ := arr_eq_normalizeStringArrayValue normalized
      rw [normalizeStringArrayItems_eq_map] at member
      obtain ⟨source, -, same⟩ := List.mem_map.mp member
      exact induction same.symm
  | entry member _ induction =>
      obtain ⟨old, rfl⟩ := map_eq_normalizeStringArrayValue normalized
      rw [normalizeStringArray_eq_map] at member
      obtain ⟨source, -, same⟩ := List.mem_map.mp member
      exact induction (Prod.mk.inj same).2.symm

/-! ## Claim sets -/

/-- The claims with every `[]string` turned back into a `[]interface{}`. -/
def ClaimSet.loosened (claims : ClaimSet) : ClaimSet :=
  claims.map loosenedEntries

/-- Normalizing again changes nothing, what is normalized means what it meant,
and every array that is left has an element that is no string. -/
theorem normalizeStringArray_normalForm (claims : ClaimSet) :
    claims.normalizeStringArray.normalizeStringArray =
        claims.normalizeStringArray ∧
      claims.normalizeStringArray.loosened = claims.loosened ∧
      ∀ items : List Value,
        (Value.arr items).Within
            (.map claims.normalizeStringArray.entries) →
          ∃ item ∈ items, ∀ text, item ≠ .str text := by
  refine ⟨?_, ?_, ?_⟩
  · cases claims with
    | none => rfl
    | some entries =>
        exact congrArg some (normalizeStringArray_idempotent entries)
  · cases claims with
    | none => rfl
    | some entries =>
        exact congrArg some (loosenedEntries_normalizeStringArray entries)
  · intro items within
    have normalized : Value.map claims.normalizeStringArray.entries =
        normalizeStringArrayValue (.map claims.entries) := by
      rw [ClaimSet.entries_normalizeStringArray, normalizeStringArrayValue]
    have mixed := not_convertible_of_within within normalized
    by_contra! strings
    exact mixed ⟨items, rfl, strings⟩

end Kubauth
