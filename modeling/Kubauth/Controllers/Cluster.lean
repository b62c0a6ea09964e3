import Kubauth.Controllers.Outcome
import Kubauth.Run

/-!
# A cluster and one of its controllers

The API holds the resources of one kind.  They are created, edited and deleted
while a controller reconciles them, and every call that it makes to the API may
fail.
-/

namespace Kubauth

namespace Resource

variable {Spec Status : Type}

/-- The API drops an object under deletion once its last finalizer is gone. -/
def settle (object : Resource Spec Status) : Option (Resource Spec Status) :=
  if object.metadata.deleting = true ∧ object.metadata.finalizers = [] then
    none
  else some object

def setFinalizers (object : Resource Spec Status) (finalizers : List String) :
    Resource Spec Status :=
  { object with
    metadata := { object.metadata with finalizers := finalizers } }

def setDeleted (object : Resource Spec Status) (time : Int) :
    Resource Spec Status :=
  { object with
    metadata :=
      { object.metadata with
        deletionTimestamp :=
          some (object.metadata.deletionTimestamp.getD time) } }

/-- The object after an accepted write. -/
def commit (object : Resource Spec Status) :
    Option (Controllers.Write Status) → Option (Resource Spec Status)
  | none => some object
  | some (.status status) => some { object with status := status }
  | some (.finalizers finalizers) => (object.setFinalizers finalizers).settle

variable {object settled committed : Resource Spec Status}

theorem settle_eq_some (kept : object.settle = some settled) :
    settled = object := by
  unfold settle at kept
  split at kept
  · cases kept
  · exact (Option.some.inj kept).symm

theorem settle_of_mem {finalizer : String}
    (present : finalizer ∈ object.metadata.finalizers) :
    object.settle = some object := by
  unfold settle
  rw [if_neg]
  rintro ⟨-, none⟩
  rw [none] at present
  cases present

/-- A write changes neither the name of an object nor whether it is being
deleted. -/
theorem commit_metadata {written : Option (Controllers.Write Status)}
    (kept : object.commit written = some committed) :
    committed.metadata.ns = object.metadata.ns ∧
      committed.metadata.name = object.metadata.name ∧
      committed.metadata.deleting = object.metadata.deleting := by
  unfold commit at kept
  split at kept
  · cases kept
    exact ⟨rfl, rfl, rfl⟩
  · cases kept
    exact ⟨rfl, rfl, rfl⟩
  · obtain rfl := settle_eq_some kept
    exact ⟨rfl, rfl, rfl⟩

theorem commit_status {written : Option (Controllers.Write Status)}
    (kept : object.commit written = some committed) :
    committed.status = object.status ∨
      written = some (.status committed.status) := by
  unfold commit at kept
  split at kept
  · cases kept
    exact .inl rfl
  · cases kept
    exact .inr rfl
  · obtain rfl := settle_eq_some kept
    exact .inl rfl

end Resource

namespace Controllers

/-- A kind of resources, with the names that the API accepts, the status of a
new object, and the controller. -/
structure Kind (Spec Status Calls : Type) where
  admits : ResourceKey → Bool
  unset : Status
  reconcile : Calls → MemoryStore → Nat → Resource Spec Status →
    Outcome Status

/-- The resources that the API holds, and the server. -/
structure Cluster (Spec Status : Type) where
  objects : ResourceKey → Option (Resource Spec Status)
  store : MemoryStore
  statusErrorCount : Nat

/-- A changed secret or config map shows in the outcomes of the calls. -/
inductive Action (Spec Calls : Type) where
  | create (key : ResourceKey) (finalizers : List String) (spec : Spec)
  | editSpec (key : ResourceKey) (spec : Spec)
  | delete (key : ResourceKey) (time : Int)
  | reconcile (key : ResourceKey) (calls : Calls)

variable {Spec Status Calls : Type}

/-- A new object has an empty status: the status is a subresource. -/
def Kind.created (kind : Kind Spec Status Calls) (key : ResourceKey)
    (finalizers : List String) (spec : Spec) : Resource Spec Status :=
  { metadata :=
      { ns := key.ns, name := key.name, finalizers := finalizers,
        deletionTimestamp := none }
    spec := spec
    status := kind.unset }

namespace Cluster

def initial : Cluster Spec Status :=
  { objects := fun _ => none
    store := MemoryStore.empty
    statusErrorCount := 0 }

def put (cluster : Cluster Spec Status) (key : ResourceKey)
    (object : Option (Resource Spec Status)) : Cluster Spec Status :=
  { cluster with objects := Function.update cluster.objects key object }

def reconciled (cluster : Cluster Spec Status) (key : ResourceKey)
    (object : Resource Spec Status) (outcome : Outcome Status) :
    Cluster Spec Status :=
  { cluster.put key (object.commit outcome.written) with
    store := outcome.store
    statusErrorCount := outcome.statusErrorCount }

/-- One action.  The API rejects the creation of an object that exists or is
badly named, and the reconciliation of one that does not exist finds
nothing. -/
def next (kind : Kind Spec Status Calls) (cluster : Cluster Spec Status) :
    Action Spec Calls → Cluster Spec Status
  | .create key finalizers spec =>
      match cluster.objects key with
      | some _ => cluster
      | none =>
          if kind.admits key then
            cluster.put key (some (kind.created key finalizers spec))
          else cluster
  | .editSpec key spec =>
      match cluster.objects key with
      | none => cluster
      | some object => cluster.put key (some { object with spec := spec })
  | .delete key time =>
      match cluster.objects key with
      | none => cluster
      | some object => cluster.put key (object.setDeleted time).settle
  | .reconcile key calls =>
      match cluster.objects key with
      | none => cluster
      | some object =>
          cluster.reconciled key object
            (kind.reconcile calls cluster.store cluster.statusErrorCount
              object)

def Step (kind : Kind Spec Status Calls) (before : Cluster Spec Status)
    (action : Action Spec Calls) (after : Cluster Spec Status) : Prop :=
  after = before.next kind action

/-- What an action can do. -/
inductive Changes (kind : Kind Spec Status Calls)
    (cluster : Cluster Spec Status) :
    Action Spec Calls → Cluster Spec Status → Prop where
  | nothing {action : Action Spec Calls} : Changes kind cluster action cluster
  | created {key : ResourceKey} {finalizers : List String} {spec : Spec} :
      cluster.objects key = none → kind.admits key = true →
      Changes kind cluster (.create key finalizers spec)
        (cluster.put key (some (kind.created key finalizers spec)))
  | edited {key : ResourceKey} {spec : Spec}
      {object : Resource Spec Status} :
      cluster.objects key = some object →
      Changes kind cluster (.editSpec key spec)
        (cluster.put key (some { object with spec := spec }))
  | deleted {key : ResourceKey} {time : Int}
      {object : Resource Spec Status} :
      cluster.objects key = some object →
      Changes kind cluster (.delete key time)
        (cluster.put key (object.setDeleted time).settle)
  | reconciled {key : ResourceKey} {calls : Calls}
      {object : Resource Spec Status} :
      cluster.objects key = some object →
      Changes kind cluster (.reconcile key calls)
        (cluster.reconciled key object
          (kind.reconcile calls cluster.store cluster.statusErrorCount
            object))

variable {kind : Kind Spec Status Calls} {cluster after : Cluster Spec Status}
  {action : Action Spec Calls}

theorem changes_of_step (taken : Step kind cluster action after) :
    Changes kind cluster action after := by
  subst taken
  cases action with
  | create key finalizers spec =>
      simp only [next]
      split
      · exact .nothing
      · next absent =>
          split
          · next admitted => exact .created absent admitted
          · exact .nothing
  | editSpec key spec =>
      simp only [next]
      split
      · exact .nothing
      · next object found => exact .edited found
  | delete key time =>
      simp only [next]
      split
      · exact .nothing
      · next object found => exact .deleted found
  | reconcile key calls =>
      simp only [next]
      split
      · exact .nothing
      · next object found => exact .reconciled found

theorem next_reconcile {key : ResourceKey} {object : Resource Spec Status}
    (found : cluster.objects key = some object) (calls : Calls) :
    cluster.next kind (.reconcile key calls) =
      cluster.reconciled key object
        (kind.reconcile calls cluster.store cluster.statusErrorCount
          object) := by
  simp only [next, found]

theorem put_objects (cluster : Cluster Spec Status) (key other : ResourceKey)
    (object : Option (Resource Spec Status)) :
    (cluster.put key object).objects other =
      if other = key then object else cluster.objects other :=
  Function.update_apply cluster.objects key object other

/-! ## Objects bear the name they are stored under -/

/-- Every object is stored under its own name, which the API accepts. -/
def Named (kind : Kind Spec Status Calls) (cluster : Cluster Spec Status) :
    Prop :=
  ∀ key object, cluster.objects key = some object →
    object.metadata.ns = key.ns ∧ object.metadata.name = key.name ∧
      kind.admits key = true

theorem Named.put (named : cluster.Named kind) {key : ResourceKey}
    {object : Option (Resource Spec Status)}
    (own : ∀ present, object = some present →
      present.metadata.ns = key.ns ∧ present.metadata.name = key.name ∧
        kind.admits key = true) :
    (cluster.put key object).Named kind := by
  intro other present found
  rw [put_objects] at found
  split at found
  · next same =>
      subst same
      exact own present found
  · exact named other present found

theorem Named.step (named : cluster.Named kind)
    (taken : Step kind cluster action after) : after.Named kind := by
  cases changes_of_step taken with
  | nothing => exact named
  | created absent admitted =>
      refine named.put fun present same => ?_
      cases same
      exact ⟨rfl, rfl, admitted⟩
  | @edited key spec object found =>
      refine named.put fun present same => ?_
      cases same
      exact named key object found
  | @deleted key time object found =>
      refine named.put fun present same => ?_
      obtain rfl := Resource.settle_eq_some same
      exact named key object found
  | reconciled found =>
      refine named.put fun present same => ?_
      obtain ⟨sameNs, sameName, -⟩ := Resource.commit_metadata same
      rw [sameNs, sameName]
      exact named _ _ found

theorem named_initial : (initial : Cluster Spec Status).Named kind := by
  intro key object found
  cases found

/-! ## Objects that are leaving -/

/-- The resource is not there, or is being deleted. -/
def Leaving (key : ResourceKey) (cluster : Cluster Spec Status) : Prop :=
  ∀ object, cluster.objects key = some object →
    object.metadata.deleting = true

theorem Leaving.put {key changed : ResourceKey}
    (leaving : cluster.Leaving key)
    {object : Option (Resource Spec Status)}
    (own : changed = key → ∀ present, object = some present →
      present.metadata.deleting = true) :
    (cluster.put changed object).Leaving key := by
  intro present found
  rw [put_objects] at found
  split at found
  · next same => exact own same.symm present found
  · exact leaving present found

theorem Leaving.step {key : ResourceKey} (leaving : cluster.Leaving key)
    (notCreated : ∀ finalizers spec, action ≠ .create key finalizers spec)
    (taken : Step kind cluster action after) : after.Leaving key := by
  cases changes_of_step taken with
  | nothing => exact leaving
  | @created changed finalizers spec =>
      refine leaving.put fun same => ?_
      subst same
      exact absurd rfl (notCreated finalizers spec)
  | @edited changed spec object found =>
      refine leaving.put fun same present equal => ?_
      subst same
      cases equal
      exact leaving object found
  | deleted =>
      refine leaving.put fun _ present equal => ?_
      obtain rfl := Resource.settle_eq_some equal
      rfl
  | reconciled found =>
      refine leaving.put fun same present equal => ?_
      subst same
      rw [(Resource.commit_metadata equal).2.2]
      exact leaving _ found

theorem leaving_reconciled {key : ResourceKey} {object : Resource Spec Status}
    (deleting : object.metadata.deleting = true) (outcome : Outcome Status) :
    (cluster.reconciled key object outcome).Leaving key := by
  intro present found
  simp only [reconciled, put_objects, if_true] at found
  rw [(Resource.commit_metadata found).2.2]
  exact deleting

end Cluster

end Controllers

end Kubauth
