import Mathlib.Data.List.Nodup
import Mathlib.Logic.Function.Basic

/-!
# Finite maps as association lists

A map is the list of its entries in insertion order.  Writing a key that is
already present replaces its value in place, and writing a new key appends
it, so that two maps built by the same writes are the same list.  The raw
list is used, rather than a map bundled with its invariant, because a map may
then occur inside the type of its own values.
-/

/-- A finite map from `κ` to `ν`, listed in insertion order. -/
abbrev GoMap (κ : Type u) (ν : Type v) := List (κ × ν)

namespace GoMap

variable {κ : Type u} {ν : Type v} [DecidableEq κ]

/-- The value stored under `key`, if any. -/
def get (mapping : GoMap κ ν) (key : κ) : Option ν :=
  match mapping with
  | [] => none
  | (present, value) :: rest =>
      if present = key then some value else get rest key

/-- Store `value` under `key`, replacing the value already there. -/
def set (mapping : GoMap κ ν) (key : κ) (value : ν) : GoMap κ ν :=
  match mapping with
  | [] => [(key, value)]
  | (present, old) :: rest =>
      if present = key then (key, value) :: rest
      else (present, old) :: set rest key value

/-- Remove every entry stored under `key`. -/
def delete (mapping : GoMap κ ν) (key : κ) : GoMap κ ν :=
  mapping.filter fun entry => entry.1 ≠ key

@[simp] theorem get_nil (key : κ) : get ([] : GoMap κ ν) key = none := rfl

theorem get_cons (present key : κ) (value : ν) (rest : GoMap κ ν) :
    get ((present, value) :: rest) key =
      if present = key then some value else get rest key := rfl

@[simp] theorem get_set_self (mapping : GoMap κ ν) (key : κ) (value : ν) :
    get (set mapping key value) key = some value := by
  induction mapping with
  | nil => simp [set, get]
  | cons entry rest induction =>
      by_cases same : entry.1 = key
      · simp [set, get, same]
      · simp [set, get, same, induction]

theorem get_set_of_ne (mapping : GoMap κ ν) {written key : κ} (value : ν)
    (different : written ≠ key) :
    get (set mapping written value) key = get mapping key := by
  induction mapping with
  | nil => simp [set, get, different]
  | cons entry rest induction =>
      obtain ⟨present, old⟩ := entry
      by_cases same : present = written
      · subst present
        simp [set, get, different]
      · by_cases found : present = key
        · subst key
          simp [set, get, same]
        · simp [set, get, same, found, induction]

theorem get_set (mapping : GoMap κ ν) (written key : κ) (value : ν) :
    get (set mapping written value) key =
      if written = key then some value else get mapping key := by
  by_cases same : written = key
  · subst written
    simp
  · simp [get_set_of_ne mapping value same, same]

@[simp] theorem get_delete_self (mapping : GoMap κ ν) (key : κ) :
    get (delete mapping key) key = none := by
  induction mapping with
  | nil => rfl
  | cons entry rest induction =>
      obtain ⟨present, value⟩ := entry
      unfold delete at induction ⊢
      by_cases same : present = key
      · simpa [List.filter_cons, same] using induction
      · simpa [List.filter_cons, same, get] using induction

theorem get_delete_of_ne (mapping : GoMap κ ν) {removed key : κ}
    (different : removed ≠ key) :
    get (delete mapping removed) key = get mapping key := by
  induction mapping with
  | nil => rfl
  | cons entry rest induction =>
      obtain ⟨present, value⟩ := entry
      unfold delete at induction ⊢
      by_cases same : present = removed
      · subst present
        simpa [List.filter_cons, get, different] using induction
      · by_cases found : present = key
        · subst key
          simp [get, same]
        · simpa [List.filter_cons, get, same, found] using induction

theorem get_delete (mapping : GoMap κ ν) (removed key : κ) :
    get (delete mapping removed) key =
      if removed = key then none else get mapping key := by
  by_cases same : removed = key
  · subst removed
    simp
  · simp [get_delete_of_ne mapping same, same]

theorem get_filter_of_get {mapping : GoMap κ ν} {key : κ} {value : ν}
    {keep : κ × ν → Bool} (found : get mapping key = some value)
    (kept : keep (key, value) = true) :
    get (mapping.filter keep) key = some value := by
  induction mapping with
  | nil => cases found
  | cons entry rest induction =>
      obtain ⟨present, old⟩ := entry
      rw [get_cons] at found
      by_cases same : present = key
      · subst same
        rw [if_pos rfl] at found
        cases found
        rw [List.filter_cons_of_pos kept, get_cons, if_pos rfl]
      · rw [if_neg same] at found
        by_cases held : keep (present, old) = true
        · rw [List.filter_cons_of_pos held, get_cons, if_neg same]
          exact induction found
        · rw [List.filter_cons_of_neg held]
          exact induction found

theorem get_filter_of_none {mapping : GoMap κ ν} {key : κ}
    (keep : κ × ν → Bool) (absent : get mapping key = none) :
    get (mapping.filter keep) key = none := by
  induction mapping with
  | nil => rfl
  | cons entry rest induction =>
      obtain ⟨present, value⟩ := entry
      rw [get_cons] at absent
      split at absent
      · cases absent
      · next other =>
          rw [List.filter_cons]
          split
          · rw [get_cons, if_neg other]
            exact induction absent
          · exact induction absent

theorem mem_of_get {mapping : GoMap κ ν} {key : κ} {value : ν}
    (found : get mapping key = some value) : (key, value) ∈ mapping := by
  induction mapping with
  | nil => cases found
  | cons entry rest induction =>
      obtain ⟨present, old⟩ := entry
      rw [get_cons] at found
      by_cases same : present = key
      · rw [if_pos same] at found
        cases found
        exact same ▸ List.mem_cons_self
      · rw [if_neg same] at found
        exact List.mem_cons_of_mem _ (induction found)

theorem get_eq_none_of_notMem {mapping : GoMap κ ν} {key : κ}
    (absent : key ∉ mapping.map Prod.fst) : get mapping key = none := by
  induction mapping with
  | nil => rfl
  | cons entry rest induction =>
      rw [List.map_cons, List.mem_cons, not_or] at absent
      rw [get_cons, if_neg (Ne.symm absent.1)]
      exact induction absent.2

theorem get_filter {mapping : GoMap κ ν}
    (distinct : (mapping.map Prod.fst).Nodup) (keep : κ × ν → Bool)
    (key : κ) :
    get (mapping.filter keep) key =
      (get mapping key).filter fun value => keep (key, value) := by
  induction mapping with
  | nil => rfl
  | cons entry rest induction =>
      obtain ⟨present, value⟩ := entry
      rw [List.map_cons, List.nodup_cons] at distinct
      have tail := induction distinct.2
      rw [List.filter_cons, get_cons]
      by_cases same : present = key
      · subst same
        rw [get_eq_none_of_notMem distinct.1] at tail
        rw [if_pos rfl]
        split
        · next kept =>
            rw [get_cons, if_pos rfl, Option.filter_some, if_pos kept]
        · next dropped =>
            rw [tail, Option.filter_none, Option.filter_some, if_neg dropped]
      · rw [if_neg same]
        split
        · rw [get_cons, if_neg same, tail]
        · exact tail

/-- A write adds the key that it writes, if it is new, and no other. -/
theorem nodup_keys_set {mapping : GoMap κ ν}
    (distinct : (mapping.map Prod.fst).Nodup) (key : κ) (value : ν) :
    ((set mapping key value).map Prod.fst).Nodup ∧
      ∀ other ∈ (set mapping key value).map Prod.fst,
        other = key ∨ other ∈ mapping.map Prod.fst := by
  induction mapping with
  | nil =>
      exact ⟨List.nodup_singleton key, fun other member =>
        .inl (List.mem_singleton.mp member)⟩
  | cons entry rest induction =>
      obtain ⟨present, old⟩ := entry
      rw [List.map_cons, List.nodup_cons] at distinct
      obtain ⟨nodup, keys⟩ := induction distinct.2
      rw [set]
      split
      · next same =>
          subst same
          rw [List.map_cons, List.nodup_cons]
          exact ⟨distinct, fun other => .inr⟩
      · next different =>
          rw [List.map_cons, List.nodup_cons]
          refine ⟨⟨fun member => ?_, nodup⟩, fun other member => ?_⟩
          · obtain same | older := keys present member
            · exact different same
            · exact distinct.1 older
          · obtain same | later := List.mem_cons.mp member
            · exact .inr (List.mem_cons.mpr (.inl same))
            · obtain written | older := keys other later
              · exact .inl written
              · exact .inr (List.mem_cons_of_mem present older)

theorem set_of_notMem {mapping : GoMap κ ν} {key : κ}
    (absent : key ∉ mapping.map Prod.fst) (value : ν) :
    set mapping key value = mapping ++ [(key, value)] := by
  induction mapping with
  | nil => rfl
  | cons entry rest induction =>
      rw [List.map_cons, List.mem_cons, not_or] at absent
      rw [set, if_neg (Ne.symm absent.1), induction absent.2,
        List.cons_append]

theorem keys_delete_sublist (mapping : GoMap κ ν) (key : κ) :
    ((delete mapping key).map Prod.fst).Sublist (mapping.map Prod.fst) :=
  List.filter_sublist.map Prod.fst

theorem delete_of_notMem {mapping : GoMap κ ν} {key : κ}
    (absent : key ∉ mapping.map Prod.fst) : delete mapping key = mapping := by
  rw [delete, List.filter_eq_self]
  intro entry member
  have different : entry.1 ≠ key := by
    intro same
    exact absent (same ▸ List.mem_map_of_mem member)
  exact decide_eq_true different

/-- Where each key is written once, deleting a key takes one entry away. -/
theorem perm_cons_delete {mapping : GoMap κ ν}
    (distinct : (mapping.map Prod.fst).Nodup) {key : κ} {value : ν}
    (found : get mapping key = some value) :
    mapping.Perm ((key, value) :: delete mapping key) := by
  induction mapping with
  | nil => cases found
  | cons entry rest induction =>
      obtain ⟨present, old⟩ := entry
      rw [List.map_cons, List.nodup_cons] at distinct
      rw [get_cons] at found
      rw [delete, List.filter_cons]
      by_cases same : present = key
      · subst same
        rw [if_pos rfl] at found
        cases found
        rw [if_neg (by simp)]
        have others := delete_of_notMem distinct.1
        rw [delete] at others
        rw [others]
      · rw [if_neg same] at found
        rw [if_pos (decide_eq_true same)]
        exact ((induction distinct.2 found).cons (present, old)).trans
          (List.Perm.swap _ _ _)

theorem get_set_eq_update (mapping : GoMap κ ν) (key : κ) (value : ν) :
    get (set mapping key value) =
      Function.update (get mapping) key (some value) := by
  funext other
  by_cases same : other = key
  · subst same
    simp
  · simp [get_set, same, Ne.symm same]

theorem get_delete_eq_update (mapping : GoMap κ ν) (key : κ) :
    get (delete mapping key) = Function.update (get mapping) key none := by
  funext other
  by_cases same : other = key
  · subst same
    simp
  · simp [get_delete, same, Ne.symm same]

theorem get_foldl_delete (mapping : GoMap κ ν) (removed : List κ) (key : κ) :
    get (removed.foldl delete mapping) key =
      if key ∈ removed then none else get mapping key := by
  induction removed generalizing mapping with
  | nil => simp
  | cons first rest induction =>
      rw [List.foldl_cons, induction, get_delete]
      by_cases later : key ∈ rest
      · simp [later]
      · by_cases same : first = key
        · simp [same]
        · simp [later, same, Ne.symm same]

/-! ## Optional writes -/

theorem set_of_get {mapping : GoMap κ ν} {key : κ} {value : ν}
    (found : get mapping key = some value) : set mapping key value = mapping := by
  induction mapping with
  | nil => cases found
  | cons entry rest induction =>
      obtain ⟨present, old⟩ := entry
      rw [get_cons] at found
      by_cases same : present = key
      · rw [if_pos same] at found
        cases found
        subst same
        rw [set, if_pos rfl]
      · rw [if_neg same] at found
        rw [set, if_neg same, induction found]

/-- Store a value, or drop the entry if there is none. -/
def assign (mapping : GoMap κ ν) (key : κ) : Option ν → GoMap κ ν
  | none => delete mapping key
  | some value => set mapping key value

theorem get_assign_of_ne (mapping : GoMap κ ν) {assigned key : κ}
    (value : Option ν) (different : assigned ≠ key) :
    get (assign mapping assigned value) key = get mapping key := by
  cases value with
  | none => exact get_delete_of_ne mapping different
  | some value => exact get_set_of_ne mapping value different

/-- Store a value if there is one. -/
def put (mapping : GoMap κ ν) (entry : κ × Option ν) : GoMap κ ν :=
  match entry.2 with
  | none => mapping
  | some value => set mapping entry.1 value

theorem get_put (mapping : GoMap κ ν) (entry : κ × Option ν) (key : κ) :
    get (put mapping entry) key =
      if entry.1 = key then entry.2.or (get mapping key)
      else get mapping key := by
  obtain ⟨written, _ | value⟩ := entry
  · rw [put, Option.none_or, ite_self]
  · exact get_set mapping written key value

theorem get_foldl_put_of_not_mem (mapping : GoMap κ ν)
    {entries : List (κ × Option ν)} {key : κ}
    (absent : key ∉ entries.map Prod.fst) :
    get (entries.foldl put mapping) key = get mapping key := by
  induction entries generalizing mapping with
  | nil => rfl
  | cons entry entries induction =>
      rw [List.map_cons, List.mem_cons, not_or] at absent
      rw [List.foldl_cons, induction _ absent.2, get_put,
        if_neg (Ne.symm absent.1)]

theorem get_foldl_put_of_mem (mapping : GoMap κ ν)
    {entries : List (κ × Option ν)} (distinct : (entries.map Prod.fst).Nodup)
    {key : κ} {value : Option ν} (member : (key, value) ∈ entries) :
    get (entries.foldl put mapping) key = value.or (get mapping key) := by
  induction entries generalizing mapping with
  | nil => cases member
  | cons entry entries induction =>
      rw [List.map_cons, List.nodup_cons] at distinct
      rw [List.foldl_cons]
      obtain rfl | later := List.mem_cons.mp member
      · rw [get_foldl_put_of_not_mem _ distinct.1, get_put, if_pos rfl]
      · have other : entry.1 ≠ key := by
          rintro rfl
          exact distinct.1 (List.mem_map.mpr ⟨_, later, rfl⟩)
        rw [induction _ distinct.2 later, get_put, if_neg other]

theorem foldl_put_of_get {mapping : GoMap κ ν}
    {entries : List (κ × Option ν)}
    (held : ∀ key value, (key, some value) ∈ entries →
      get mapping key = some value) :
    entries.foldl put mapping = mapping := by
  induction entries with
  | nil => rfl
  | cons entry entries induction =>
      have first : put mapping entry = mapping := by
        obtain ⟨key, _ | value⟩ := entry
        · rfl
        · exact set_of_get (held key value List.mem_cons_self)
      rw [List.foldl_cons, first]
      exact induction fun key value member =>
        held key value (List.mem_cons_of_mem _ member)

end GoMap
