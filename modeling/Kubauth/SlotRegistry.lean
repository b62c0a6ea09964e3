import Mathlib.Logic.Function.Basic

/-!
# Registries with one slot per owner

Keys are live on behalf of an owner.  Every owner has a single slot, which
remembers the key created last on its behalf, and revoking an owner reaches
the key in its slot and no other.  Revocation is therefore complete exactly
for the owners whose live keys are all in their slot.
-/

/-- The owner of every live key, and the key remembered for every owner. -/
@[ext] structure SlotRegistry (κ : Type u) (ρ : Type v) where
  owner : κ → Option ρ
  slot : ρ → Option κ

namespace SlotRegistry

variable {κ : Type u} {ρ : Type v} [DecidableEq κ]

def create [DecidableEq ρ] (registry : SlotRegistry κ ρ) (key : κ) (id : ρ) :
    SlotRegistry κ ρ :=
  { owner := Function.update registry.owner key (some id)
    slot := Function.update registry.slot id (some key) }

def remove (registry : SlotRegistry κ ρ) (key : κ) : SlotRegistry κ ρ :=
  { registry with owner := Function.update registry.owner key none }

def revoke (registry : SlotRegistry κ ρ) (id : ρ) : SlotRegistry κ ρ :=
  match registry.slot id with
  | none => registry
  | some key => registry.remove key

/-- Every live key of the owner is in its slot. -/
def Covered (registry : SlotRegistry κ ρ) (id : ρ) : Prop :=
  ∀ key, registry.owner key = some id → registry.slot id = some key

/-- The owner has no live key. -/
def Clear (registry : SlotRegistry κ ρ) (id : ρ) : Prop :=
  ∀ key, registry.owner key ≠ some id

theorem owner_of_owner_remove {registry : SlotRegistry κ ρ} {removed key : κ}
    {id : ρ} (live : (registry.remove removed).owner key = some id) :
    registry.owner key = some id := by
  by_cases same : key = removed
  · subst same
    simp [remove] at live
  · simpa [remove, same] using live

theorem owner_of_owner_revoke {registry : SlotRegistry κ ρ} {revoked id : ρ}
    {key : κ} (live : (registry.revoke revoked).owner key = some id) :
    registry.owner key = some id := by
  unfold revoke at live
  split at live
  · exact live
  · exact owner_of_owner_remove live

@[simp] theorem slot_revoke (registry : SlotRegistry κ ρ) (revoked : ρ) :
    (registry.revoke revoked).slot = registry.slot := by
  unfold revoke
  split <;> rfl

/-- Revocation is complete exactly for the covered owners. -/
theorem clear_revoke_iff (registry : SlotRegistry κ ρ) (id : ρ) :
    (registry.revoke id).Clear id ↔ registry.Covered id := by
  constructor
  · intro clear key live
    by_contra missed
    apply clear key
    unfold revoke
    split
    · exact live
    · next found remembered =>
        have different : key ≠ found := by
          rintro rfl
          exact missed remembered
        simpa [remove, different] using live
  · intro covered key live
    have remembered := covered key (owner_of_owner_revoke live)
    simp [revoke, remembered, remove] at live

theorem Covered.remove {registry : SlotRegistry κ ρ} {id : ρ}
    (covered : registry.Covered id) (key : κ) :
    (registry.remove key).Covered id :=
  fun other live => covered other (owner_of_owner_remove live)

theorem Covered.revoke {registry : SlotRegistry κ ρ} {id : ρ}
    (covered : registry.Covered id) (revoked : ρ) :
    (registry.revoke revoked).Covered id := by
  intro key live
  rw [slot_revoke]
  exact covered key (owner_of_owner_revoke live)

/-- Creation keeps an owner covered when it shadows no other live key. -/
theorem Covered.create [DecidableEq ρ] {registry : SlotRegistry κ ρ} {id : ρ}
    (covered : registry.Covered id) {key : κ} {created : ρ}
    (unshadowed : ∀ other, registry.owner other = some created →
      other = key) :
    (registry.create key created).Covered id := by
  intro other live
  by_cases same : other = key
  · subst same
    obtain rfl : created = id := by simpa [SlotRegistry.create] using live
    simp [SlotRegistry.create]
  · have before : registry.owner other = some id := by
      simpa [SlotRegistry.create, same] using live
    have different : id ≠ created := by
      rintro rfl
      exact same (unshadowed other before)
    simpa [SlotRegistry.create, different] using covered other before

/-- What may happen to a registry in which creations shadow no live key. -/
inductive Step [DecidableEq ρ] (registry : SlotRegistry κ ρ) :
    SlotRegistry κ ρ → Prop where
  | stay : Step registry registry
  | create (key : κ) (created : ρ)
      (unshadowed : ∀ other, registry.owner other = some created →
        other = key) :
      Step registry (registry.create key created)
  | remove (key : κ) : Step registry (registry.remove key)
  | revoke (revoked : ρ) : Step registry (registry.revoke revoked)

theorem Covered.step [DecidableEq ρ] {registry next : SlotRegistry κ ρ}
    {id : ρ} (covered : registry.Covered id) (step : registry.Step next) :
    next.Covered id := by
  cases step with
  | stay => exact covered
  | create key created unshadowed => exact covered.create unshadowed
  | remove key => exact covered.remove key
  | revoke revoked => exact covered.revoke revoked

end SlotRegistry
