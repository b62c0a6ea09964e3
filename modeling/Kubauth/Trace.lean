import Mathlib.Data.List.Basic

/-!
# Traces that stop

A program is modelled by the list of effects that it performs.  It is
fail-stop when an effect that reports a failure is the last one.
-/

variable {α : Type u}

/-- No effect follows one that satisfies `final`. -/
def StopsAt (final : α → Prop) (trace : List α) : Prop :=
  ∀ before effect after, trace = before ++ effect :: after →
    final effect → after = []

namespace StopsAt

variable {final : α → Prop}

theorem nil : StopsAt final [] := by
  intro before effect after split
  simp at split

end StopsAt
