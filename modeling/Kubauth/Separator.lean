import Mathlib.Data.List.Basic

/-!
# Parts joined by a separator

Two parts are joined by a symbol that may occur in the parts as well.  Two
joins of different parts are equal when the same symbols are cut at another
occurrence of the separator.  The cut is known if the second part is free of
it, and so are all the cuts before fields that are.
-/

namespace Separator

variable {α : Type u} {separator : α} {first second otherFirst otherSecond :
  List α}

/-- A join is cut at the same separator, or at a later one, or at an earlier
one. -/
theorem join_eq_join_iff :
    first ++ separator :: second = otherFirst ++ separator :: otherSecond ↔
      (first = otherFirst ∧ second = otherSecond) ∨
        (∃ middle, otherFirst = first ++ separator :: middle ∧
          second = middle ++ separator :: otherSecond) ∨
        (∃ middle, first = otherFirst ++ separator :: middle ∧
          otherSecond = middle ++ separator :: second) := by
  constructor
  · intro same
    rcases List.append_eq_append_iff.mp same with
      ⟨gap, later, rest⟩ | ⟨gap, earlier, rest⟩
    · cases gap with
      | nil =>
          rw [List.append_nil] at later
          exact .inl ⟨later.symm, (List.cons.inj rest).2⟩
      | cons symbol middle =>
          obtain ⟨rfl, tail⟩ := List.cons.inj rest
          exact .inr (.inl ⟨middle, later, tail⟩)
    · cases gap with
      | nil =>
          rw [List.append_nil] at earlier
          exact .inl ⟨earlier, (List.cons.inj rest).2.symm⟩
      | cons symbol middle =>
          obtain ⟨rfl, tail⟩ := List.cons.inj rest
          exact .inr (.inr ⟨middle, earlier, tail⟩)
  · rintro (⟨rfl, rfl⟩ | ⟨middle, rfl, rfl⟩ | ⟨middle, rfl, rfl⟩)
    · rfl
    · simp
    · simp

/-- The last separator is the one before a part that is free of it. -/
theorem join_inj (free : separator ∉ second)
    (otherFree : separator ∉ otherSecond) :
    first ++ separator :: second = otherFirst ++ separator :: otherSecond ↔
      first = otherFirst ∧ second = otherSecond := by
  rw [join_eq_join_iff]
  constructor
  · rintro (same | ⟨middle, -, tail⟩ | ⟨middle, -, tail⟩)
    · exact same
    · exact absurd (by rw [tail]; simp) free
    · exact absurd (by rw [tail]; simp) otherFree
  · exact .inl

/-- A first part followed by fields, each after a separator. -/
def joinAll (separator : α) (first : List α) (fields : List (List α)) :
    List α :=
  fields.foldl (fun joined field => joined ++ separator :: field) first

/-- Fields that are free of the separator, in a known number, are cut in one
way only. -/
theorem joinAll_inj {fields otherFields : List (List α)}
    (free : ∀ field ∈ fields, separator ∉ field)
    (otherFree : ∀ field ∈ otherFields, separator ∉ field)
    (number : fields.length = otherFields.length) :
    joinAll separator first fields = joinAll separator otherFirst otherFields ↔
      first = otherFirst ∧ fields = otherFields := by
  induction fields generalizing first otherFirst otherFields with
  | nil =>
      cases List.length_eq_zero_iff.mp number.symm
      exact (and_iff_left rfl).symm
  | cons field rest induction =>
      cases otherFields with
      | nil => cases number
      | cons otherField otherRest =>
          have cut : first ++ separator :: field =
              otherFirst ++ separator :: otherField ↔
                first = otherFirst ∧ field = otherField :=
            join_inj (free field List.mem_cons_self)
              (otherFree otherField List.mem_cons_self)
          rw [joinAll, joinAll, List.foldl_cons, List.foldl_cons,
            List.cons.injEq, ← and_assoc, ← cut]
          apply induction
          · exact fun next member => free next (List.mem_cons_of_mem _ member)
          · exact fun next member =>
              otherFree next (List.mem_cons_of_mem _ member)
          · exact Nat.succ.inj number

end Separator
