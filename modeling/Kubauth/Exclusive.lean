import Mathlib.Logic.Basic

/-!
# A right held by at most one party

A right is either available, and then nobody holds it, or taken by at most one
party.  The rules say how the parties may pass it on without duplicating it.
-/

variable {ι : Type u}

/-- At most one party holds the right, and none while it is available. -/
structure Exclusive (available : Prop) (holds : ι → Prop) : Prop where
  free : available → ∀ party, ¬holds party
  unique : ∀ first second, holds first → holds second → first = second

namespace Exclusive

variable {available later : Prop} {holds keeps : ι → Prop}

/-- Giving up is always allowed, and so is leaving everything as it is. -/
theorem weaken (exclusive : Exclusive available holds)
    (right : later → available) (parties : ∀ party, keeps party → holds party) :
    Exclusive later keeps where
  free here party kept := exclusive.free (right here) party (parties party kept)
  unique first second left right :=
    exclusive.unique first second (parties first left) (parties second right)

/-- A party may take a right that is available, if it is no longer so. -/
theorem take (exclusive : Exclusive available holds) (here : available)
    (party : ι) (gone : ¬later)
    (parties : ∀ other, keeps other → other = party ∨ holds other) :
    Exclusive later keeps where
  free still := absurd still gone
  unique first second left right := by
    have only : ∀ other, keeps other → other = party := fun other kept =>
      (parties other kept).resolve_right (exclusive.free here other)
    rw [only first left, only second right]

theorem release (exclusive : Exclusive available holds) {party : ι}
    (holder : holds party)
    (parties : ∀ other, keeps other → holds other ∧ other ≠ party) :
    Exclusive later keeps where
  free _ other kept :=
    (parties other kept).2
      (exclusive.unique other party (parties other kept).1 holder)
  unique first second left right :=
    exclusive.unique first second (parties first left).1
      (parties second right).1

end Exclusive
