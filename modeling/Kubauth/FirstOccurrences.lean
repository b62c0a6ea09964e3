import Mathlib.Data.List.Induction
import Mathlib.Data.List.Nodup

/-!
# First occurrences

`List.eraseDups` keeps every element of a list at its first occurrence.  It
can be computed from the left, one element at a time.
-/

namespace FirstOccurrences

variable {α : Type u} [DecidableEq α]

theorem eraseDups_concat (items : List α) (item : α) :
    (items ++ [item]).eraseDups =
      if item ∈ items then items.eraseDups
      else items.eraseDups ++ [item] := by
  rw [List.eraseDups_append, List.cons_removeAll, List.nil_removeAll]
  by_cases member : item ∈ items
  · simp [member]
  · simp [member, List.eraseDups_cons]

theorem nodup_eraseDups (items : List α) : items.eraseDups.Nodup := by
  induction items using List.reverseRecOn with
  | nil => simp
  | append_singleton items item induction =>
      rw [eraseDups_concat]
      by_cases member : item ∈ items
      · rw [if_pos member]
        exact induction
      · rw [if_neg member]
        apply induction.append (List.nodup_singleton item)
        rw [List.disjoint_singleton, List.mem_eraseDups]
        exact member

theorem eraseDups_of_nodup {items : List α} (distinct : items.Nodup) :
    items.eraseDups = items := by
  induction items using List.reverseRecOn with
  | nil => rfl
  | append_singleton items item induction =>
      have parts := List.nodup_append.mp distinct
      have new : item ∉ items := by
        intro member
        exact parts.2.2 item member item (List.mem_singleton_self item) rfl
      rw [eraseDups_concat, if_neg new, induction parts.1]

/-- Appending a list to another one and dropping the duplicates gives the
second list back when the first one adds nothing and changes no position. -/
theorem eraseDups_append_eq_right_iff (first second : List α) :
    (first ++ second).eraseDups = second ↔
      second.Nodup ∧ first.eraseDups <+: second := by
  constructor
  · intro same
    constructor
    · rw [← same]
      exact nodup_eraseDups (first ++ second)
    · rw [List.eraseDups_append] at same
      exact ⟨_, same⟩
  · rintro ⟨distinct, ⟨rest, rfl⟩⟩
    have parts := List.nodup_append.mp distinct
    have fresh : ∀ item ∈ rest, item ∉ first := by
      intro item member early
      exact parts.2.2 item (List.mem_eraseDups.mpr early) item member rfl
    have removed : (first.eraseDups ++ rest).removeAll first = rest := by
      rw [List.removeAll, List.filter_append]
      have dropped : first.eraseDups.filter
          (fun item => !first.elem item) = [] := by
        simp
      have kept : rest.filter (fun item => !first.elem item) = rest := by
        rw [List.filter_eq_self]
        intro item member
        simpa using fresh item member
      rw [dropped, kept, List.nil_append]
    rw [List.eraseDups_append, removed, eraseDups_of_nodup parts.2.1]

end FirstOccurrences
