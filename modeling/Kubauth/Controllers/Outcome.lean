import Kubauth.Storage.Memory

/-!
# Outcomes of a reconciliation

What one call of a controller's `Reconcile` leaves behind: the store, the
write that the API accepted, the recorded events and the returned values.
-/

namespace Kubauth.Controllers

structure ResourceKey where
  ns : String
  name : String
  deriving Repr, DecidableEq, Inhabited

/-- An event recorded on the resource. -/
structure Event where
  eventType : String
  reason : String
  message : String
  deriving Repr, DecidableEq

/-- The part of a resource that an accepted write changes: the finalizers, by
a patch, or the status, by an update of the status subresource. -/
inductive Write (status : Type) where
  | finalizers (finalizers : List String)
  | status (status : status)
  deriving Repr, DecidableEq

/-- `assigned` is the status given to the fetched object, whether or not the
API accepted it.  `requeueAfter` is in milliseconds. -/
structure Outcome (status : Type) where
  store : MemoryStore
  statusErrorCount : Nat
  assigned : Option status
  written : Option (Write status)
  events : List Event
  requeueAfter : Option Nat
  err : Option String

/-- A call that touches nothing and returns `err`. -/
def Outcome.untouched {status : Type} (store : MemoryStore)
    (statusErrorCount : Nat) (err : Option String) : Outcome status :=
  { store := store
    statusErrorCount := statusErrorCount
    assigned := none
    written := none
    events := []
    requeueAfter := none
    err := err }

/-- The end of the paths that patch the finalizers. -/
def Outcome.patched {status : Type} (store : MemoryStore)
    (statusErrorCount : Nat) (finalizers : List String)
    (patch : Option ApiError) : Outcome status :=
  { store := store
    statusErrorCount := statusErrorCount
    assigned := none
    written := if patch = none then some (.finalizers finalizers) else none
    events := []
    requeueAfter := none
    err := patch.map ApiError.message }

/-- The end of `updateStatus`, once the update was tried: the first failure in
the life of the controller is hidden and retried. -/
def Outcome.statusUpdated {status : Type} (store : MemoryStore)
    (statusErrorCount : Nat) (updated : status) (events : List Event)
    (update : Option ApiError) : Outcome status :=
  let ended : Outcome status :=
    { store := store
      statusErrorCount := statusErrorCount
      assigned := some updated
      written := none
      events := events
      requeueAfter := none
      err := none }
  match update with
  | none => { ended with written := some (.status updated) }
  | some failure =>
      if statusErrorCount = 0 then
        { ended with
          statusErrorCount := statusErrorCount + 1
          requeueAfter := some 200 }
      else { ended with err := some failure.message }

section

variable {status : Type} (store : MemoryStore) (statusErrorCount : Nat)
  (updated : status) (events : List Event) (update : Option ApiError)

@[simp] theorem Outcome.statusUpdated_store :
    (Outcome.statusUpdated store statusErrorCount updated events
      update).store = store := by
  unfold Outcome.statusUpdated
  simp only
  split
  · rfl
  · split <;> rfl

@[simp] theorem Outcome.statusUpdated_assigned :
    (Outcome.statusUpdated store statusErrorCount updated events
      update).assigned = some updated := by
  unfold Outcome.statusUpdated
  simp only
  split
  · rfl
  · split <;> rfl

@[simp] theorem Outcome.statusUpdated_written :
    (Outcome.statusUpdated store statusErrorCount updated events
      update).written =
        if update = none then some (.status updated) else none := by
  unfold Outcome.statusUpdated
  simp only
  split
  · rfl
  · split <;> rfl

end

end Kubauth.Controllers
