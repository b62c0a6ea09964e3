import Mathlib.Data.List.Basic

/-!
# Slots that age

A slot holds at most one entry.  An entry is made for an original, is valid
until it is spent, and may be dropped.  A slot ages when its entry only loses
validity, or is lost, and is never replaced by one for another original.
-/

variable {ε : Type u} {ρ : Type v}

/-- Whatever the slot holds afterwards was there before, for the same original,
and was valid if it still is. -/
def AgesTo (valid : ε → Prop) (original : ε → ρ) (before after : Option ε) :
    Prop :=
  ∀ entry, after = some entry →
    ∃ old, before = some old ∧ original entry = original old ∧
      (valid entry → valid old)

namespace AgesTo

variable {valid : ε → Prop} {original : ε → ρ}
  {first second third : Option ε}

theorem refl (slot : Option ε) : AgesTo valid original slot slot := by
  intro entry found
  exact ⟨entry, found, rfl, id⟩

theorem of_eq (same : second = first) :
    AgesTo valid original first second := by
  rw [same]
  exact refl first

theorem dropped : AgesTo valid original first none := by
  intro entry found
  cases found

theorem spent {entry worn : ε} (same : original worn = original entry)
    (invalid : ¬valid worn) :
    AgesTo valid original (some entry) (some worn) := by
  intro present found
  cases found
  exact ⟨entry, rfl, same, fun still => absurd still invalid⟩

theorem trans (early : AgesTo valid original first second)
    (late : AgesTo valid original second third) :
    AgesTo valid original first third := by
  intro entry found
  obtain ⟨middle, middleFound, middleSame, middleValid⟩ := late entry found
  obtain ⟨old, oldFound, oldSame, oldValid⟩ := early middle middleFound
  refine ⟨old, oldFound, middleSame.trans oldSame, fun still => ?_⟩
  exact oldValid (middleValid still)

theorem not_valid {old : ε} (ages : AgesTo valid original (some old) second)
    (invalid : ¬valid old) {entry : ε} (found : second = some entry) :
    ¬valid entry ∧ original entry = original old := by
  obtain ⟨present, same, sameOriginal, stillValid⟩ := ages entry found
  cases same
  exact ⟨fun still => invalid (stillValid still), sameOriginal⟩

end AgesTo
