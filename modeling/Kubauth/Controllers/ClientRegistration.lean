import Kubauth.Controllers.Cluster
import Kubauth.Controllers.OidcClient

/-!
# Registration of OIDC clients over whole histories

Resources are created, edited and deleted while the controller reconciles
them, and every call that it makes to the API may fail.  The store is written
before the status that records it, and the deletion path unregisters a client
only if it is recorded as ready.  That is right as long as a registration is
recorded.
-/

namespace Kubauth.Controllers

/-- What names of Kubernetes objects are known to satisfy, as far as the
identifiers of clients rely on it. -/
def ResourceKey.Valid (key : ResourceKey) : Prop :=
  key.name ≠ "" ∧ ':' ∉ key.ns.toList ∧ ':' ∉ key.name.toList

instance (key : ResourceKey) : Decidable key.Valid :=
  inferInstanceAs (Decidable (_ ∧ _ ∧ _))

def ResourceKey.k8sId (key : ResourceKey) : String :=
  key.ns ++ ":" ++ key.name

theorem ResourceKey.eq_of_k8sId_eq {key other : ResourceKey}
    (valid : key.Valid) (same : key.k8sId = other.k8sId) : key = other := by
  obtain ⟨-, noColonNs, noColonName⟩ := valid
  have characters := congrArg String.toList same
  have colon : ":".toList = [':'] := rfl
  simp only [ResourceKey.k8sId, String.toList_append, colon,
    List.append_assoc, List.singleton_append] at characters
  obtain ⟨sameNs, -, sameName⟩ :=
    (List.append_cons_inj_of_notMem noColonNs noColonName).mp characters
  cases key
  cases other
  congr
  · exact String.toList_injective sameNs
  · exact String.toList_injective sameName

/-- The client resources that the API holds, and the server. -/
abbrev ClientSystem := Cluster OidcClientSpec OidcClientStatus

abbrev ClientAction := Action OidcClientSpec OidcClientCalls

namespace ClientSystem

def kind (reconciler : OidcClientReconciler) :
    Kind OidcClientSpec OidcClientStatus OidcClientCalls where
  admits := fun key => decide key.Valid
  unset := { phase := .other "", clientId := "", message := "" }
  reconcile := reconciler.reconcile

abbrev initial : ClientSystem := Cluster.initial

abbrev next (reconciler : OidcClientReconciler) (system : ClientSystem)
    (action : ClientAction) : ClientSystem :=
  Cluster.next (kind reconciler) system action

abbrev Step (reconciler : OidcClientReconciler) :
    ClientSystem → ClientAction → ClientSystem → Prop :=
  Cluster.Step (kind reconciler)

/-- The reconciliation gets as far as registering the client: its configuration
is accepted, and no other resource holds its client id. -/
structure Registers (reconciler : OidcClientReconciler)
    (store : MemoryStore) (calls : OidcClientCalls) (object : OidcClient) :
    Prop where
  fetched : calls.get = none
  live : object.metadata.deleting = false
  finalized : object.metadata.containsFinalizer finalizerName = true
  enabled : boolPtrTrue object.spec.enabled = true
  accepted : ∃ hashedSecrets,
    OidcClientReconciler.checkSecrets calls object = .ok hashedSecrets
  unclaimed : ∀ entry,
    GoMap.get store.clients (reconciler.effectiveClientId object) =
      some entry → entry.getK8sId = object.k8sId

/-- The status update that follows a registration is accepted, unless ready is
what the status says already. -/
def Orderly (reconciler : OidcClientReconciler) (system : ClientSystem) :
    ClientAction → Prop
  | .reconcile key calls =>
      ∀ object, system.objects key = some object →
        Registers reconciler system.store calls object →
        calls.statusUpdate ≠ none → object.status.phase = .ready
  | _ => True

theorem registers_of_exit {reconciler : OidcClientReconciler}
    {store : MemoryStore} {calls : OidcClientCalls} {object : OidcClient}
    {hashedSecrets : List String}
    (ended : OidcClientReconciler.exit calls object =
      .registered hashedSecrets)
    (accepted : (store.setClient
      (reconciler.registeredClient object hashedSecrets)).2 = none) :
    Registers reconciler store calls object := by
  obtain ⟨fetched, live, finalized, enabled, checked⟩ :=
    OidcClientReconciler.exit_registered ended
  refine ⟨fetched, live, finalized, enabled, ⟨hashedSecrets, checked⟩, ?_⟩
  intro entry found
  have sameId := (OidcClientReconciler.withDefaultStyle_kept reconciler
    (reconciler.withClientId object)).1
  have registered : (reconciler.registeredClient object
    hashedSecrets).clientId = reconciler.effectiveClientId object := rfl
  unfold MemoryStore.setClient at accepted
  simp only [registered, found] at accepted
  split at accepted
  · cases accepted
  · next sameOwner => exact (not_ne_iff.mp sameOwner).trans sameId

/-- Every object is stored under its own name, which is valid. -/
abbrev Named (reconciler : OidcClientReconciler) (system : ClientSystem) :
    Prop :=
  Cluster.Named (kind reconciler) system

theorem Named.valid {reconciler : OidcClientReconciler}
    {system : ClientSystem} (named : system.Named reconciler)
    {key : ResourceKey} {object : OidcClient}
    (found : system.objects key = some object) : key.Valid :=
  of_decide_eq_true (named key object found).2.2

theorem Named.k8sId {reconciler : OidcClientReconciler}
    {system : ClientSystem} (named : system.Named reconciler)
    {key : ResourceKey} {object : OidcClient}
    (found : system.objects key = some object) :
    object.k8sId = key.k8sId := by
  obtain ⟨sameNs, sameName, -⟩ := named key object found
  unfold OidcClient.k8sId ResourceKey.k8sId
  rw [sameNs, sameName]

/-! ## Registered clients are recorded as ready -/

/-- The object that backs an entry: it is recorded as ready under the client id
of the entry, and bears the finalizer. -/
structure Backs (object : OidcClient) (clientId : String) : Prop where
  ready : object.status.phase = .ready
  recorded : object.status.clientId = clientId
  finalized : finalizerName ∈ object.metadata.finalizers

/-- Every entry is backed by the resource it was made from, and what is recorded
as ready has a client id. -/
structure Backed (system : ClientSystem) : Prop where
  entries : ∀ clientId entry,
    GoMap.get system.store.clients clientId = some entry →
    ∃ key object, system.objects key = some object ∧
      entry.getK8sId = key.k8sId ∧ Backs object clientId
  identified : ∀ key object, system.objects key = some object →
    object.status.phase = .ready → object.status.clientId ≠ ""

theorem Backed.own {system : ClientSystem} (backed : system.Backed)
    {reconciler : OidcClientReconciler} (named : system.Named reconciler)
    {key : ResourceKey} {object : OidcClient}
    (found : system.objects key = some object) {clientId : String}
    {entry : KubauthClient}
    (stored : GoMap.get system.store.clients clientId = some entry)
    (owned : entry.getK8sId = key.k8sId) : Backs object clientId := by
  obtain ⟨other, present, presentFound, sameOwner, backs⟩ :=
    backed.entries clientId entry stored
  have same : key = other :=
    ResourceKey.eq_of_k8sId_eq (named.valid found) (owned.symm.trans sameOwner)
  subst same
  obtain rfl : present = object :=
    Option.some.inj (presentFound.symm.trans found)
  exact backs

private theorem Backed.of_put {system : ClientSystem}
    (backed : system.Backed) {key : ResourceKey} {object : Option OidcClient}
    (backs : ∀ before, system.objects key = some before →
      ∀ clientId, Backs before clientId →
      ∃ after, object = some after ∧ Backs after clientId)
    (identified : ∀ after, object = some after →
      after.status.phase = .ready → after.status.clientId ≠ "") :
    Backed (system.put key object) := by
  constructor
  · intro clientId entry stored
    obtain ⟨other, before, found, owned, backing⟩ :=
      backed.entries clientId entry stored
    by_cases same : other = key
    · subst same
      obtain ⟨after, present, afterBacking⟩ :=
        backs before found clientId backing
      refine ⟨other, after, ?_, owned, afterBacking⟩
      rw [Cluster.put_objects, if_pos rfl]
      exact present
    · refine ⟨other, before, ?_, owned, backing⟩
      rw [Cluster.put_objects, if_neg same]
      exact found
  · intro other present found
    rw [Cluster.put_objects] at found
    split at found
    · exact identified present found
    · exact backed.identified other present found

theorem effectiveClientId_ne_empty (reconciler : OidcClientReconciler)
    {object : OidcClient} (named : object.metadata.name ≠ "") :
    reconciler.effectiveClientId object ≠ "" := by
  unfold OidcClientReconciler.effectiveClientId
    OidcClientReconciler.buildClientId
  split
  · split
    · next set => exact set
    · split
      · simp
      · exact named
  · next recorded => exact recorded

theorem effectiveClientId_of_recorded (reconciler : OidcClientReconciler)
    {object : OidcClient} (recorded : object.status.clientId ≠ "") :
    reconciler.effectiveClientId object = object.status.clientId := by
  unfold OidcClientReconciler.effectiveClientId
  rw [if_neg recorded]

private theorem duplicate_entry {store : MemoryStore}
    {client : KubauthClient} (refused : (store.setClient client).2 ≠ none) :
    ∃ old, GoMap.get store.clients client.clientId = some old ∧
      GoMap.get (store.setClient client).1.clients client.clientId =
        some old ∧
      old.getK8sId ≠ client.getK8sId := by
  unfold MemoryStore.setClient at refused ⊢
  simp only at refused ⊢
  split at refused
  · next old found =>
      split at refused
      · next foreign =>
          refine ⟨old, found, ?_, foreign⟩
          simp only [if_pos foreign, found]
      · exact absurd rfl refused
  · exact absurd rfl refused

private theorem written_clientId {reconciler : OidcClientReconciler}
    {calls : OidcClientCalls} {store : MemoryStore} {object : OidcClient}
    {ended : OidcClientReconciler.Exit} {status : OidcClientStatus}
    (written : ended.written reconciler calls store object =
      some (.status status)) :
    status.clientId = reconciler.effectiveClientId object := by
  have wanted : ∀ wanted : OidcClientStatus,
      OidcClientReconciler.writtenStatus calls object wanted =
        some (.status status) → status = wanted := by
    intro wanted accepted
    unfold OidcClientReconciler.writtenStatus at accepted
    split at accepted
    · cases accepted
      rfl
    · cases accepted
  cases ended with
  | ignored => cases written
  | deleting =>
      simp only [OidcClientReconciler.Exit.written] at written
      split at written <;> cases written
  | finalizing =>
      simp only [OidcClientReconciler.Exit.written] at written
      split at written <;> cases written
  | disabled => rw [wanted _ written]
  | rejected message => rw [wanted _ written]
  | registered hashedSecrets =>
      simp only [OidcClientReconciler.Exit.written,
        OidcClientReconciler.Exit.status] at written
      split at written
      · rw [wanted _ written]
      · rw [wanted _ written]

section

variable {reconciler : OidcClientReconciler} {system : ClientSystem}
  {key : ResourceKey} {object : OidcClient} {calls : OidcClientCalls}

private theorem backs_registered (backed : system.Backed)
    (found : system.objects key = some object)
    (orderly : system.Orderly reconciler (.reconcile key calls))
    {hashedSecrets : List String}
    (ended : OidcClientReconciler.exit calls object =
      .registered hashedSecrets)
    (accepted : (system.store.setClient
      (reconciler.registeredClient object hashedSecrets)).2 = none) :
    ∃ after,
      object.commit
          ((OidcClientReconciler.exit calls object).written reconciler calls
            system.store object) = some after ∧
      Backs after (reconciler.effectiveClientId object) := by
  have registers := registers_of_exit ended accepted
  have finalized : finalizerName ∈ object.metadata.finalizers := by
    simpa [ObjectMeta.containsFinalizer] using registers.finalized
  rw [ended]
  simp only [OidcClientReconciler.Exit.written,
    OidcClientReconciler.Exit.status, accepted, Option.bind_some,
    OidcClientReconciler.writtenStatus]
  split
  · exact ⟨_, rfl, rfl, rfl, finalized⟩
  · next unwritten =>
      have ready : object.status.phase = .ready := by
        by_contra notReady
        have refused : calls.statusUpdate ≠ none := by
          intro succeeded
          exact unwritten ⟨.inl notReady, succeeded⟩
        exact notReady (orderly object found registers refused)
      have recorded := backed.identified key object found ready
      exact ⟨object, rfl, ready,
        (effectiveClientId_of_recorded reconciler recorded).symm, finalized⟩

/-- The entries of a reconciled client that are still there afterwards are
still backed by it. -/
private theorem backs_kept (backed : system.Backed)
    (named : system.Named reconciler)
    (found : system.objects key = some object)
    (orderly : system.Orderly reconciler (.reconcile key calls))
    {clientId : String} {entry : KubauthClient}
    (owned : entry.getK8sId = key.k8sId) (backs : Backs object clientId)
    (stored : GoMap.get
      ((OidcClientReconciler.exit calls object).store reconciler system.store
        object).clients clientId = some entry) :
    ∃ after,
      object.commit
          ((OidcClientReconciler.exit calls object).written reconciler calls
            system.store object) = some after ∧
      Backs after clientId := by
  have identified := backed.identified key object found backs.ready
  have sameId : reconciler.effectiveClientId object = clientId :=
    (effectiveClientId_of_recorded reconciler identified).trans backs.recorded
  have undeleted : ¬GoMap.get
      (system.store.deleteClient
        (reconciler.effectiveClientId object)).clients clientId =
        some entry := by
    intro still
    exact (OidcClientReconciler.get_deleteClient still).1 sameId
  cases ended : OidcClientReconciler.exit calls object with
  | ignored => exact ⟨object, rfl, backs⟩
  | deleting =>
      rw [ended, OidcClientReconciler.Exit.store, if_pos backs.ready]
        at stored
      exact absurd stored undeleted
  | finalizing =>
      simp only [OidcClientReconciler.Exit.written]
      split
      · have kept : finalizerName ∈
            (object.metadata.addFinalizer finalizerName).finalizers := by
          simp [ObjectMeta.addFinalizer, backs.finalized]
        exact ⟨_, Resource.settle_of_mem kept, backs.ready, backs.recorded,
          kept⟩
      · exact ⟨object, rfl, backs⟩
  | disabled =>
      rw [ended] at stored
      exact absurd stored undeleted
  | rejected message =>
      rw [ended] at stored
      exact absurd stored undeleted
  | registered hashedSecrets =>
      by_cases accepted : (system.store.setClient
          (reconciler.registeredClient object hashedSecrets)).2 = none
      · have recorded := backs_registered backed found orderly ended accepted
        rw [ended, sameId] at recorded
        exact recorded
      · exfalso
        obtain ⟨old, -, kept, foreign⟩ := duplicate_entry accepted
        rw [ended] at stored
        change GoMap.get _ (reconciler.effectiveClientId object) = _ at kept
        rw [sameId] at kept
        obtain rfl : old = entry := Option.some.inj (kept.symm.trans stored)
        apply foreign
        rw [owned, ← named.k8sId found]
        exact (OidcClientReconciler.withDefaultStyle_kept reconciler
          (reconciler.withClientId object)).1.symm

end

private theorem Backed.reconciled {reconciler : OidcClientReconciler}
    {system : ClientSystem} (backed : system.Backed)
    (named : system.Named reconciler) {key : ResourceKey}
    {object : OidcClient} (found : system.objects key = some object)
    {calls : OidcClientCalls}
    (orderly : system.Orderly reconciler (.reconcile key calls)) :
    Backed (system.reconciled key object (reconciler.reconcile calls
      system.store system.statusErrorCount object)) := by
  obtain ⟨store, written⟩ := OidcClientReconciler.reconcile_exit reconciler
    calls system.store system.statusErrorCount object
  unfold Cluster.reconciled
  constructor
  · intro clientId entry stored
    simp only at stored
    rw [store] at stored
    simp only [Cluster.put_objects]
    rcases OidcClientReconciler.get_exit_store stored with
      ⟨hashedSecrets, ended, accepted, sameId, rfl⟩ | before
    · obtain ⟨after, committed, backs⟩ :=
        backs_registered backed found orderly ended accepted
      refine ⟨key, after, ?_, ?_, sameId ▸ backs⟩
      · rw [if_pos rfl, written]
        exact committed
      · rw [← named.k8sId found]
        exact (OidcClientReconciler.withDefaultStyle_kept reconciler
          (reconciler.withClientId object)).1
    · obtain ⟨other, present, presentFound, owned, backs⟩ :=
        backed.entries clientId entry before
      by_cases same : other = key
      · subst same
        obtain rfl : present = object :=
          Option.some.inj (presentFound.symm.trans found)
        obtain ⟨after, committed, still⟩ :=
          backs_kept backed named found orderly owned backs stored
        refine ⟨other, after, ?_, owned, still⟩
        rw [if_pos rfl, written]
        exact committed
      · refine ⟨other, present, ?_, owned, backs⟩
        rw [if_neg same]
        exact presentFound
  · intro other present presentFound ready
    simp only [Cluster.put_objects] at presentFound
    split at presentFound
    · rw [written] at presentFound
      rcases Resource.commit_status presentFound with same | status
      · rw [same] at ready ⊢
        exact backed.identified key object found ready
      · rw [written_clientId status]
        have sameName := (named key object found).2.1
        exact effectiveClientId_ne_empty reconciler
          (sameName ▸ (named.valid found).1)
    · exact backed.identified other present presentFound ready

theorem Backed.step {reconciler : OidcClientReconciler}
    {system after : ClientSystem} (backed : system.Backed)
    (named : system.Named reconciler) {action : ClientAction}
    (orderly : system.Orderly reconciler action)
    (taken : Step reconciler system action after) : after.Backed := by
  cases Cluster.changes_of_step taken with
  | nothing => exact backed
  | created absent =>
      refine backed.of_put ?_ ?_
      · intro before present
        rw [absent] at present
        cases present
      · intro after same ready
        cases same
        cases ready
  | @edited key spec object found =>
      refine backed.of_put ?_ ?_
      · intro before present clientId backs
        obtain rfl : object = before :=
          Option.some.inj (found.symm.trans present)
        exact ⟨_, rfl, backs.ready, backs.recorded, backs.finalized⟩
      · intro after same
        cases same
        exact backed.identified key object found
  | @deleted key time object found =>
      refine backed.of_put ?_ ?_
      · intro before present clientId backs
        obtain rfl : object = before :=
          Option.some.inj (found.symm.trans present)
        exact ⟨_, Resource.settle_of_mem backs.finalized, backs.ready,
          backs.recorded, backs.finalized⟩
      · intro after same
        obtain rfl := Resource.settle_eq_some same
        exact backed.identified key object found
  | reconciled found => exact backed.reconciled named found orderly

/-! ## After the finalizer is removed -/

/-- No entry belongs to the resource, which is not there or is being deleted. -/
structure Gone (key : ResourceKey) (system : ClientSystem) : Prop where
  unregistered : ∀ clientId entry,
    GoMap.get system.store.clients clientId = some entry →
    entry.getK8sId ≠ key.k8sId
  leaving : system.Leaving key

theorem Gone.step {reconciler : OidcClientReconciler} {key : ResourceKey}
    {system after : ClientSystem} (gone : system.Gone key)
    (named : system.Named reconciler) {action : ClientAction}
    (notCreated : ∀ finalizers spec,
      action ≠ .create key finalizers spec)
    (taken : Step reconciler system action after) : after.Gone key := by
  refine ⟨?_, gone.leaving.step notCreated taken⟩
  cases Cluster.changes_of_step taken with
  | @reconciled reconciled calls object found =>
      obtain ⟨store, -⟩ := OidcClientReconciler.reconcile_exit reconciler
        calls system.store system.statusErrorCount object
      intro clientId entry stored
      simp only [Cluster.reconciled, kind] at stored
      rw [store] at stored
      rcases OidcClientReconciler.get_exit_store stored with
        ⟨hashedSecrets, ended, -, -, rfl⟩ | before
      · -- a resource under deletion is not registered
        intro owned
        have live := (OidcClientReconciler.exit_registered ended).2.1
        have sameId := (OidcClientReconciler.withDefaultStyle_kept
          reconciler (reconciler.withClientId object)).1
        have same : reconciled = key := by
          apply ResourceKey.eq_of_k8sId_eq (named.valid found)
          rw [← named.k8sId found]
          exact sameId.symm.trans owned
        subst same
        rw [gone.leaving object found] at live
        cases live
      · exact gone.unregistered clientId entry before
  | _ => exact gone.unregistered

theorem gone_reconciled (reconciler : OidcClientReconciler)
    {system : ClientSystem} (named : system.Named reconciler)
    (backed : system.Backed) {key : ResourceKey} {object : OidcClient}
    {calls : OidcClientCalls} (found : system.objects key = some object)
    (fetched : calls.get = none)
    (deleting : object.metadata.deleting = true) :
    Gone key (next reconciler system (.reconcile key calls)) := by
  have ended : OidcClientReconciler.exit calls object = .deleting := by
    simp [OidcClientReconciler.exit, fetched, deleting]
  obtain ⟨store, -⟩ := OidcClientReconciler.reconcile_exit reconciler calls
    system.store system.statusErrorCount object
  rw [next, Cluster.next_reconcile found]
  refine ⟨?_, Cluster.leaving_reconciled deleting _⟩
  intro clientId entry stored owned
  simp only [Cluster.reconciled, kind] at stored
  rw [store, ended] at stored
  rcases OidcClientReconciler.get_exit_store stored with
    ⟨hashedSecrets, other, -⟩ | before
  · cases other
  · have backs := backed.own named found before owned
    rw [OidcClientReconciler.Exit.store, if_pos backs.ready] at stored
    apply (OidcClientReconciler.get_deleteClient stored).1
    rw [effectiveClientId_of_recorded reconciler
      (backed.identified key object found backs.ready)]
    exact backs.recorded

/-! ## Runs -/

theorem sound_of_run {reconciler : OidcClientReconciler}
    {actions : List ClientAction} {system : ClientSystem}
    (run : Run (Guarded (Orderly reconciler) (Step reconciler)) initial
      actions system) :
    system.Named reconciler ∧ system.Backed := by
  refine run.invariant
    (fun reached => Named reconciler reached ∧ Backed reached) ?_ ?_
  · rintro before action after - ⟨named, backed⟩ ⟨orderly, taken⟩
    exact ⟨Cluster.Named.step named taken, backed.step named orderly taken⟩
  · refine ⟨Cluster.named_initial, ?_, ?_⟩
    · intro clientId entry found
      cases found
    · intro key object found
      cases found

theorem gone_of_run {reconciler : OidcClientReconciler} {key : ResourceKey}
    {start finish : ClientSystem} {actions : List ClientAction}
    (run : Run (Step reconciler) start actions finish)
    (named : start.Named reconciler) (gone : start.Gone key)
    (notCreated : ∀ finalizers spec,
      Action.create key finalizers spec ∉ actions) :
    finish.Gone key := by
  have both : Named reconciler finish ∧ Gone key finish := by
    refine run.invariant
      (fun reached => Named reconciler reached ∧ Gone key reached) ?_
      ⟨named, gone⟩
    rintro before action after member ⟨beforeNamed, beforeGone⟩ taken
    refine ⟨Cluster.Named.step beforeNamed taken,
      beforeGone.step beforeNamed (fun finalizers spec same => ?_) taken⟩
    exact notCreated finalizers spec (same ▸ member)
  exact both.2

/-- After every orderly history, once a reconciliation handles the deletion of
a client, no entry of the store belongs to it until it is created again. -/
theorem deleted_clients_gone (reconciler : OidcClientReconciler)
    (actions : List ClientAction) (system : ClientSystem)
    (run : Run (Guarded (Orderly reconciler) (Step reconciler)) initial
      actions system)
    (key : ResourceKey) (object : OidcClient)
    (found : system.objects key = some object)
    (deleting : object.metadata.deleting = true)
    (calls : OidcClientCalls) (fetched : calls.get = none)
    (later : List ClientAction) (finish : ClientSystem)
    (continued : Run (Step reconciler)
      (next reconciler system (.reconcile key calls)) later finish)
    (notCreated : ∀ finalizers spec,
      Action.create key finalizers spec ∉ later)
    (clientId : String) (entry : KubauthClient)
    (stored : GoMap.get finish.store.clients clientId = some entry) :
    entry.getK8sId ≠ key.k8sId := by
  obtain ⟨named, backed⟩ := sound_of_run run
  have gone := gone_reconciled reconciler named backed found fetched deleting
  exact (gone_of_run continued (Cluster.Named.step named rfl) gone
    notCreated).unregistered clientId entry stored

def sampleClientKey : ResourceKey :=
  { ns := "team-a", name := "web" }

/-- A public client with an explicit client id. -/
def sampleClientSpec (clientId : String) : OidcClientSpec :=
  { (default : OidcClientSpec) with clientId := clientId, isPublic := true }

/-- Every call succeeds but the status update. -/
def unrecordedCalls : OidcClientCalls :=
  { OidcClientReconciler.quietCalls with
    statusUpdate := some (.other "the object has been modified") }

/-- A client is created and registered.  `calls` are those of its
registration. -/
def registeringHistory (calls : OidcClientCalls) : List ClientAction :=
  [.create sampleClientKey [] (sampleClientSpec "shop"),
    .reconcile sampleClientKey OidcClientReconciler.quietCalls,
    .reconcile sampleClientKey calls]

def deletingHistory (calls : OidcClientCalls) : List ClientAction :=
  registeringHistory calls ++ [.delete sampleClientKey 0]

private theorem orderly_quiet (system : ClientSystem) (key : ResourceKey) :
    system.Orderly default
      (.reconcile key OidcClientReconciler.quietCalls) := by
  intro object found registers refused
  exact absurd rfl refused

theorem deleted_clients_gone_sample :
    let system := (deletingHistory OidcClientReconciler.quietCalls).foldl
      (next default) initial
    let after := next default system
      (.reconcile sampleClientKey OidcClientReconciler.quietCalls)
    (GoMap.get system.store.clients "shop").isSome = true ∧
      ∀ clientId entry,
        GoMap.get after.store.clients clientId = some entry →
        entry.getK8sId ≠ "team-a:web" := by
  have run : Run (Guarded (Orderly default) (Step default)) initial
      (deletingHistory OidcClientReconciler.quietCalls)
      ((deletingHistory OidcClientReconciler.quietCalls).foldl
        (next default) initial) :=
    .cons ⟨trivial, rfl⟩ (.cons ⟨orderly_quiet _ _, rfl⟩
      (.cons ⟨orderly_quiet _ _, rfl⟩ (.cons ⟨trivial, rfl⟩ (.nil _))))
  refine ⟨by decide, ?_⟩
  exact deleted_clients_gone default _ _ run sampleClientKey _ rfl rfl
    OidcClientReconciler.quietCalls rfl [] _ (.nil _)
    (fun _ _ => List.not_mem_nil)

/-- The registration is not recorded when the client is deleted. -/
def unrecordedHistory : List ClientAction :=
  deletingHistory unrecordedCalls ++
    [.reconcile sampleClientKey OidcClientReconciler.quietCalls]

/-- The client id is edited before the registration is recorded. -/
def editedHistory : List ClientAction :=
  registeringHistory unrecordedCalls ++
    [.editSpec sampleClientKey (sampleClientSpec "store"),
      .reconcile sampleClientKey OidcClientReconciler.quietCalls,
      .delete sampleClientKey 0,
      .reconcile sampleClientKey OidcClientReconciler.quietCalls]

/-- A registration whose status update is refused is not undone by the deletion
of the client, be it recorded later under another client id or not at all. -/
theorem unrecorded_clients_stay :
    let deleted := unrecordedHistory.foldl (next default) initial
    let edited := editedHistory.foldl (next default) initial
    Run (Step default) initial unrecordedHistory deleted ∧
      deleted.objects sampleClientKey = none ∧
      (GoMap.get deleted.store.clients "shop").map KubauthClient.getK8sId =
        some sampleClientKey.k8sId ∧
      Run (Step default) initial editedHistory edited ∧
      edited.objects sampleClientKey = none ∧
      (GoMap.get edited.store.clients "shop").map KubauthClient.getK8sId =
        some sampleClientKey.k8sId := by
  refine ⟨Run.of_foldl _ _ _, by decide, by decide, Run.of_foldl _ _ _,
    by decide, by decide⟩

end ClientSystem

end Kubauth.Controllers
