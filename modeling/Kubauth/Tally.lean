import Mathlib.Data.Set.Card

/-!
# Tallies

A counter that other parties read is right when it equals the number of
members of a set that nobody stores.  The counter is an integer, since a
program may decrement it at any time.
-/

variable {α : Type u}

/-- The set is finite and has `count` members. -/
def Tally (members : Set α) (count : Int) : Prop :=
  ∃ number : Nat, members.encard = number ∧ count = number

namespace Tally

variable {members others : Set α} {count other : Int}

theorem empty : Tally (∅ : Set α) 0 := ⟨0, by simp, rfl⟩

theorem insert (tally : Tally members count) {member : α}
    (new : member ∉ members) :
    Tally (Insert.insert member members) (count + 1) := by
  obtain ⟨number, size, rfl⟩ := tally
  refine ⟨number + 1, ?_, by simp⟩
  rw [Set.encard_insert_of_notMem new, size]
  rfl

theorem remove (tally : Tally members count) {member : α}
    (present : member ∈ members) :
    Tally (members \ {member}) (count - 1) := by
  obtain ⟨number, size, rfl⟩ := tally
  cases number with
  | zero =>
      have positive := Set.encard_ne_zero_of_mem present
      exact absurd size positive
  | succ number =>
      refine ⟨number, ?_, by simp⟩
      rw [Set.encard_sdiff_singleton_of_mem present, size]
      norm_cast

theorem of_subset (tally : Tally members count) (part : others ⊆ members) :
    ∃ smaller, Tally others smaller ∧ smaller ≤ count := by
  obtain ⟨number, size, rfl⟩ := tally
  have bounded : others.encard ≤ number := by
    rw [← size]
    exact Set.encard_le_encard part
  obtain ⟨-, smaller, smallerSize, le⟩ := Set.encard_le_coe_iff.mp bounded
  exact ⟨smaller, ⟨smaller, smallerSize, rfl⟩, by exact_mod_cast le⟩

theorem unique (tally : Tally members count) (same : Tally members other) :
    count = other := by
  obtain ⟨number, size, rfl⟩ := tally
  obtain ⟨otherNumber, otherSize, rfl⟩ := same
  rw [size] at otherSize
  exact_mod_cast otherSize

theorem nonneg (tally : Tally members count) : 0 ≤ count := by
  obtain ⟨number, -, rfl⟩ := tally
  exact Int.natCast_nonneg number

theorem eq_of_subset (tally : Tally members count) (part : others ⊆ members)
    (same : Tally others count) : others = members := by
  obtain ⟨number, size, rfl⟩ := tally
  obtain ⟨otherNumber, otherSize, equal⟩ := same
  rw [← Nat.cast_inj.mp equal] at otherSize
  have finite : others.Finite := Set.finite_of_encard_eq_coe otherSize
  exact finite.eq_of_subset_of_encard_le part (size.trans otherSize.symm).le

end Tally
