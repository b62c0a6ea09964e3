import Kubauth.FirstOccurrences
import Mathlib.Data.List.Sort
import Mathlib.Data.String.Basic

/-!
# Helpers of the `misc` package
-/

namespace Kubauth

/-- `BoolPtrTrue`: an unset flag counts as true. -/
def boolPtrTrue (flag : Option Bool) : Bool :=
  flag.getD true

/-- `BoolPtrFalse`: an unset flag counts as false. -/
def boolPtrFalse (flag : Option Bool) : Bool :=
  flag.getD false

/-- Append one item to a list unless it is already there.  The sets that the
source keeps beside its lists always hold exactly the items of the list. -/
def appendUnseen (out : List String) (item : String) : List String :=
  if item ∈ out then out else out ++ [item]

def mergeStringSlicesDeduped (a b : List String) : List String :=
  b.foldl appendUnseen (a.foldl appendUnseen [])

def appendIfNotPresent (slice items : List String) : List String :=
  items.foldl appendUnseen slice

def dedupAndSort (stringSlice : List String) : List String :=
  (stringSlice.foldl appendUnseen []).insertionSort (· ≤ ·)

/-! ## First occurrences -/

/-- The loops that skip what they have seen keep first occurrences. -/
theorem foldl_appendUnseen (seen items : List String) :
    items.foldl appendUnseen seen.eraseDups =
      (seen ++ items).eraseDups := by
  induction items generalizing seen with
  | nil => rw [List.foldl_nil, List.append_nil]
  | cons item items induction =>
      have next : appendUnseen seen.eraseDups item =
          (seen ++ [item]).eraseDups := by
        rw [FirstOccurrences.eraseDups_concat, appendUnseen]
        simp only [List.mem_eraseDups]
      rw [List.foldl_cons, next, induction, List.append_assoc,
        List.singleton_append]

theorem mergeStringSlicesDeduped_eq (a b : List String) :
    mergeStringSlicesDeduped a b = (a ++ b).eraseDups := by
  have first := foldl_appendUnseen [] a
  rw [List.eraseDups_nil, List.nil_append] at first
  rw [mergeStringSlicesDeduped, first, foldl_appendUnseen]

theorem appendIfNotPresent_eraseDups (seen items : List String) :
    appendIfNotPresent seen.eraseDups items = (seen ++ items).eraseDups :=
  foldl_appendUnseen seen items

theorem mem_appendUnseen (out : List String) (item text : String) :
    text ∈ appendUnseen out item ↔ text ∈ out ∨ text = item := by
  rw [appendUnseen]
  by_cases member : item ∈ out
  · rw [if_pos member]
    constructor
    · exact Or.inl
    · rintro (present | rfl)
      · exact present
      · exact member
  · rw [if_neg member, List.mem_append, List.mem_singleton]

theorem mem_appendIfNotPresent (slice items : List String) (text : String) :
    text ∈ appendIfNotPresent slice items ↔ text ∈ slice ∨ text ∈ items := by
  induction items generalizing slice with
  | nil => simp [appendIfNotPresent]
  | cons item items induction =>
      have next := induction (appendUnseen slice item)
      rw [mem_appendUnseen, or_assoc, ← List.mem_cons] at next
      exact next

theorem appendIfNotPresent_eq (slice items : List String) :
    appendIfNotPresent slice items =
      slice ++ (items.filter fun item => item ∉ slice).eraseDups := by
  induction items using List.reverseRecOn with
  | nil => exact (List.append_nil slice).symm
  | append_singleton items item induction =>
      have member := mem_appendIfNotPresent slice items item
      rw [appendIfNotPresent] at induction member ⊢
      rw [List.foldl_append, List.foldl_cons, List.foldl_nil, appendUnseen,
        List.filter_append, List.filter_singleton]
      by_cases present : item ∈ slice
      · rw [if_pos (member.mpr (Or.inl present)), induction]
        simp [present]
      · simp only [present, not_false_eq_true, decide_true, cond_true]
        rw [FirstOccurrences.eraseDups_concat]
        by_cases repeated : item ∈ items
        · rw [if_pos (member.mpr (Or.inr repeated)), induction,
            if_pos (List.mem_filter.mpr ⟨repeated, by simpa using present⟩)]
        · have new : item ∉ items.filter fun item => item ∉ slice :=
            fun found => repeated (List.mem_of_mem_filter found)
          rw [if_neg (fun found => (member.mp found).elim present repeated),
            if_neg new, induction, List.append_assoc]

theorem appendIfNotPresent_self (slice items : List String) :
    appendIfNotPresent slice (appendIfNotPresent slice items) =
      appendIfNotPresent slice items := by
  rw [appendIfNotPresent_eq slice items, appendIfNotPresent_eq slice]
  congr 1
  have dropped : slice.filter (fun item => item ∉ slice) = [] := by
    simp
  have kept : (items.filter fun item => item ∉ slice).eraseDups.filter
      (fun item => item ∉ slice) =
        (items.filter fun item => item ∉ slice).eraseDups := by
    rw [List.filter_eq_self]
    intro item member
    exact (List.mem_filter.mp (List.mem_eraseDups.mp member)).2
  rw [List.filter_append, dropped, kept, List.nil_append,
    FirstOccurrences.eraseDups_of_nodup (FirstOccurrences.nodup_eraseDups _)]

theorem dedupAndSort_eq (stringSlice : List String) :
    dedupAndSort stringSlice =
      stringSlice.eraseDups.insertionSort (· ≤ ·) := by
  have unseen := foldl_appendUnseen [] stringSlice
  rw [List.eraseDups_nil, List.nil_append] at unseen
  rw [dedupAndSort, unseen]

theorem mem_dedupAndSort (stringSlice : List String) (text : String) :
    text ∈ dedupAndSort stringSlice ↔ text ∈ stringSlice := by
  rw [dedupAndSort_eq, List.mem_insertionSort, List.mem_eraseDups]

theorem pairwise_dedupAndSort (stringSlice : List String) :
    (dedupAndSort stringSlice).Pairwise (· < ·) := by
  rw [dedupAndSort_eq]
  have sorted := List.pairwise_insertionSort (· ≤ ·) stringSlice.eraseDups
  have distinct : (stringSlice.eraseDups.insertionSort (· ≤ ·)).Nodup :=
    (List.perm_insertionSort (· ≤ ·) stringSlice.eraseDups).nodup_iff.mpr
      (FirstOccurrences.nodup_eraseDups stringSlice)
  exact (sorted.and distinct).imp fun both => lt_of_le_of_ne both.1 both.2

theorem dedupAndSort_append_self (first second : List String) :
    dedupAndSort (first ++ dedupAndSort (first ++ second)) =
      dedupAndSort (first ++ second) := by
  apply List.Pairwise.eq_of_mem_iff (pairwise_dedupAndSort _)
    (pairwise_dedupAndSort _)
  intro text
  simp only [mem_dedupAndSort, List.mem_append]
  constructor
  · rintro (member | member)
    · exact Or.inl member
    · exact member
  · exact Or.inr

end Kubauth
