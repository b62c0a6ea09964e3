import Kubauth.Controllers.Cluster
import Kubauth.Controllers.UpstreamProvider

/-!
# Registration of upstream providers over whole histories

Resources are created, edited and deleted while the controller reconciles
them, and every call that it makes to the API may fail.  The deletion path
trusts the recorded phase to tell whether the provider is registered.  That is
right as long as a provider recorded as ready is not rejected, and a
registration is recorded.
-/

namespace Kubauth.Controllers

/-- The upstream providers that the API holds, and the server. -/
abbrev UpstreamSystem := Cluster UpstreamProviderSpec UpstreamProviderStatus

abbrev UpstreamAction := Action UpstreamProviderSpec UpstreamCalls

namespace UpstreamSystem

/-- Nothing here relies on which names the API accepts. -/
def kind (reconciler : UpstreamProviderReconciler) :
    Kind UpstreamProviderSpec UpstreamProviderStatus UpstreamCalls where
  admits := fun _ => true
  unset := { phase := .other "", message := "", effectiveConfig := none }
  reconcile := reconciler.reconcile

abbrev initial : UpstreamSystem := Cluster.initial

abbrev next (reconciler : UpstreamProviderReconciler)
    (system : UpstreamSystem) (action : UpstreamAction) : UpstreamSystem :=
  Cluster.next (kind reconciler) system action

abbrev Step (reconciler : UpstreamProviderReconciler) :
    UpstreamSystem → UpstreamAction → UpstreamSystem → Prop :=
  Cluster.Step (kind reconciler)

/-- Every object is stored under its own name. -/
abbrev Named (reconciler : UpstreamProviderReconciler)
    (system : UpstreamSystem) : Prop :=
  Cluster.Named (kind reconciler) system

/-- A reconciliation that gets as far as building the upstream fails only for
a provider that is not recorded as ready, and when it succeeds the status
update that follows is accepted unless ready is what the status says already. -/
def Orderly (reconciler : UpstreamProviderReconciler)
    (system : UpstreamSystem) : UpstreamAction → Prop
  | .reconcile key calls =>
      ∀ object, system.objects key = some object →
        reconciler.Builds calls object →
          match UpstreamProviderReconciler.build calls object with
          | .error _ => object.status.phase ≠ .ready
          | .ok _ => calls.statusUpdate ≠ none → object.status.phase = .ready
  | _ => True

theorem Orderly.rejected {reconciler : UpstreamProviderReconciler}
    {system : UpstreamSystem} {key : ResourceKey} {calls : UpstreamCalls}
    {object : UpstreamProvider}
    (orderly : system.Orderly reconciler (.reconcile key calls))
    (found : system.objects key = some object)
    (ended : reconciler.exit calls object = .rejected) :
    object.status.phase ≠ .ready := by
  obtain ⟨builds, failure, failed⟩ :=
    (UpstreamProviderReconciler.exit_eq_rejected_iff _ _ _).mp ended
  have held := orderly object found builds
  rw [failed] at held
  exact held

theorem Orderly.registered {reconciler : UpstreamProviderReconciler}
    {system : UpstreamSystem} {key : ResourceKey} {calls : UpstreamCalls}
    {object : UpstreamProvider} {upstream : Upstream}
    (orderly : system.Orderly reconciler (.reconcile key calls))
    (found : system.objects key = some object)
    (ended : reconciler.exit calls object = .registered upstream)
    (refused : calls.statusUpdate ≠ none) : object.status.phase = .ready := by
  obtain ⟨builds, built⟩ :=
    (UpstreamProviderReconciler.exit_eq_registered_iff _ _ _ _).mp ended
  have held := orderly object found builds
  rw [built] at held
  exact held refused

/-! ## Registered providers are recorded as ready -/

/-- A registered provider exists, is recorded as ready, and bears the
finalizer. -/
def Backed (reconciler : UpstreamProviderReconciler) (system : UpstreamSystem) :
    Prop :=
  ∀ name upstream, system.store.getUpstream name = some upstream →
    ∃ object, system.objects ⟨reconciler.upstreamNamespace, name⟩ =
        some object ∧
      object.status.phase = .ready ∧
      finalizerName ∈ object.metadata.finalizers

private theorem Backed.of_put {reconciler : UpstreamProviderReconciler}
    {system : UpstreamSystem} (backed : system.Backed reconciler)
    {key : ResourceKey} {object : Option UpstreamProvider}
    (own : ∀ before, system.objects key = some before →
      before.status.phase = .ready →
      finalizerName ∈ before.metadata.finalizers →
      ∃ after, object = some after ∧ after.status.phase = .ready ∧
        finalizerName ∈ after.metadata.finalizers) :
    Backed reconciler (system.put key object) := by
  intro name upstream found
  obtain ⟨before, present, ready, finalized⟩ := backed name upstream found
  rw [Cluster.put_objects]
  split
  · next same =>
      subst same
      exact own before present ready finalized
  · exact ⟨before, present, ready, finalized⟩

private theorem backed_reconciled {reconciler : UpstreamProviderReconciler}
    {system : UpstreamSystem} (backed : system.Backed reconciler)
    {name : String} {object : UpstreamProvider} {calls : UpstreamCalls}
    (named : object.metadata.name = name)
    (found : system.objects ⟨reconciler.upstreamNamespace, name⟩ =
      some object)
    (orderly : system.Orderly reconciler
      (.reconcile ⟨reconciler.upstreamNamespace, name⟩ calls))
    {upstream : Upstream}
    (registered :
      ((reconciler.exit calls object).store system.store
        object).getUpstream name = some upstream)
    {assigned : Option UpstreamProviderStatus}
    (phase : assigned.map UpstreamProviderStatus.phase =
      (reconciler.exit calls object).phase) :
    ∃ after,
      object.commit
          ((reconciler.exit calls object).written calls object assigned) =
        some after ∧
      after.status.phase = .ready ∧
      finalizerName ∈ after.metadata.finalizers := by
  have recorded : system.store.getUpstream name = some upstream →
      object.status.phase = .ready ∧
        finalizerName ∈ object.metadata.finalizers := by
    intro before
    obtain ⟨present, presentFound, ready, finalized⟩ :=
      backed name upstream before
    obtain rfl : present = object :=
      Option.some.inj (presentFound.symm.trans found)
    exact ⟨ready, finalized⟩
  cases ended : reconciler.exit calls object with
  | ignored =>
      rw [ended] at registered
      exact ⟨object, rfl, recorded registered⟩
  | deleting =>
      exfalso
      rw [ended] at registered
      simp only [UpstreamProviderReconciler.Exit.store] at registered
      split at registered
      · simp [MemoryStore.getUpstream, MemoryStore.deleteUpstream, named]
          at registered
      · next notReady => exact notReady (recorded registered).1
  | finalizing =>
      rw [ended] at registered
      obtain ⟨ready, finalized⟩ := recorded registered
      simp only [UpstreamProviderReconciler.Exit.written]
      split
      · have kept : finalizerName ∈
            (object.metadata.addFinalizer finalizerName).finalizers := by
          simp [ObjectMeta.addFinalizer, finalized]
        exact ⟨_, Resource.settle_of_mem kept, ready, kept⟩
      · exact ⟨object, rfl, ready, finalized⟩
  | disabled =>
      exfalso
      rw [ended] at registered
      simp [UpstreamProviderReconciler.Exit.store, MemoryStore.getUpstream,
        MemoryStore.deleteUpstream, named] at registered
  | rejected =>
      exfalso
      rw [ended] at registered
      exact orderly.rejected found ended (recorded registered).1
  | registered built =>
      have finalized : finalizerName ∈ object.metadata.finalizers := by
        simpa [ObjectMeta.containsFinalizer] using
          (UpstreamProviderReconciler.exit_registered ended).2
      simp only [UpstreamProviderReconciler.Exit.written]
      split
      · rw [ended] at phase
        obtain ⟨status, rfl, ready⟩ := Option.map_eq_some_iff.mp phase
        exact ⟨_, rfl, ready, finalized⟩
      · next failed =>
          exact ⟨object, rfl, orderly.registered found ended failed,
            finalized⟩

/-- A reconciliation leaves the registrations of other providers alone. -/
private theorem getUpstream_reconciled_other
    {reconciler : UpstreamProviderReconciler} {system : UpstreamSystem}
    (named : system.Named reconciler) {key : ResourceKey}
    {object : UpstreamProvider} (found : system.objects key = some object)
    (calls : UpstreamCalls) {name : String}
    (different : key ≠ ⟨reconciler.upstreamNamespace, name⟩) :
    ((reconciler.exit calls object).store system.store
      object).getUpstream name = system.store.getUpstream name := by
  obtain ⟨sameNs, sameName, -⟩ := named key object found
  by_cases elsewhere : object.metadata.ns ≠ reconciler.upstreamNamespace
  · rw [UpstreamProviderReconciler.exit_elsewhere calls elsewhere]
    rfl
  · have other : object.metadata.name ≠ name := by
      intro same
      apply different
      rw [← same, ← not_ne_iff.mp elsewhere, sameNs, sameName]
    exact UpstreamProviderReconciler.exit_store_other _ other

theorem Backed.step {reconciler : UpstreamProviderReconciler}
    {system after : UpstreamSystem} (backed : system.Backed reconciler)
    (named : system.Named reconciler) {action : UpstreamAction}
    (orderly : system.Orderly reconciler action)
    (taken : Step reconciler system action after) :
    after.Backed reconciler := by
  cases Cluster.changes_of_step taken with
  | nothing => exact backed
  | created absent =>
      refine backed.of_put fun before present => ?_
      rw [absent] at present
      cases present
  | @edited key spec object found =>
      refine backed.of_put fun before present ready finalized => ?_
      obtain rfl : object = before :=
        Option.some.inj (found.symm.trans present)
      exact ⟨_, rfl, ready, finalized⟩
  | @deleted key time object found =>
      refine backed.of_put fun before present ready finalized => ?_
      obtain rfl : object = before :=
        Option.some.inj (found.symm.trans present)
      exact ⟨_, Resource.settle_of_mem finalized, ready, finalized⟩
  | @reconciled key calls object found =>
      obtain ⟨sameNs, sameName, -⟩ := named key object found
      obtain ⟨store, phase, written⟩ :=
        UpstreamProviderReconciler.reconcile_exit reconciler calls
          system.store system.statusErrorCount object
      intro name upstream registered
      simp only [Cluster.reconciled, kind] at registered
      rw [store] at registered
      simp only [Cluster.reconciled, kind, Cluster.put_objects]
      split
      · next same =>
          subst same
          rw [written]
          exact backed_reconciled backed sameName found orderly registered
            phase
      · next different =>
          apply backed name upstream
          rwa [getUpstream_reconciled_other named found calls
            (Ne.symm different)] at registered

/-! ## After the finalizer is removed -/

/-- The provider is not registered, and is not there or is being deleted. -/
structure Gone (reconciler : UpstreamProviderReconciler) (name : String)
    (system : UpstreamSystem) : Prop where
  unregistered : system.store.getUpstream name = none
  leaving : system.Leaving ⟨reconciler.upstreamNamespace, name⟩

/-- A reconciliation registers no other provider, and none that is leaving. -/
private theorem unregistered_reconciled
    {reconciler : UpstreamProviderReconciler} {name : String}
    {system : UpstreamSystem} (gone : system.Gone reconciler name)
    (named : system.Named reconciler) {key : ResourceKey}
    {object : UpstreamProvider}
    (found : system.objects key = some object) (calls : UpstreamCalls) :
    ((reconciler.exit calls object).store system.store
      object).getUpstream name = none := by
  by_cases different : key ≠ ⟨reconciler.upstreamNamespace, name⟩
  · rw [getUpstream_reconciled_other named found calls different]
    exact gone.unregistered
  · obtain rfl := not_ne_iff.mp different
    have sameName := (named _ object found).2.1
    rcases UpstreamProviderReconciler.exit_of_deleting reconciler calls
      (gone.leaving object found) with ended | ended
    · rw [ended]
      exact gone.unregistered
    · rw [ended]
      simp only [UpstreamProviderReconciler.Exit.store]
      split
      · simp [MemoryStore.getUpstream, MemoryStore.deleteUpstream, sameName]
      · exact gone.unregistered

theorem Gone.step {reconciler : UpstreamProviderReconciler} {name : String}
    {system after : UpstreamSystem} (gone : system.Gone reconciler name)
    (named : system.Named reconciler) {action : UpstreamAction}
    (notCreated : ∀ finalizers spec,
      action ≠ .create ⟨reconciler.upstreamNamespace, name⟩ finalizers spec)
    (taken : Step reconciler system action after) :
    after.Gone reconciler name := by
  refine ⟨?_, gone.leaving.step notCreated taken⟩
  cases Cluster.changes_of_step taken with
  | @reconciled key calls object found =>
      obtain ⟨store, -, -⟩ :=
        UpstreamProviderReconciler.reconcile_exit reconciler calls
          system.store system.statusErrorCount object
      simp only [Cluster.reconciled, kind]
      rw [store]
      exact unregistered_reconciled gone named found calls
  | _ => exact gone.unregistered

/-! ## Runs -/

theorem sound_of_run {reconciler : UpstreamProviderReconciler}
    {actions : List UpstreamAction} {system : UpstreamSystem}
    (run : Run (Guarded (Orderly reconciler) (Step reconciler))
      initial actions system) :
    system.Named reconciler ∧ system.Backed reconciler := by
  refine run.invariant
    (fun reached => Named reconciler reached ∧ Backed reconciler reached)
    ?_ ?_
  · rintro before action after - ⟨named, backed⟩ ⟨orderly, taken⟩
    exact ⟨Cluster.Named.step named taken, backed.step named orderly taken⟩
  · refine ⟨Cluster.named_initial, ?_⟩
    intro name upstream found
    cases found

theorem gone_of_run {reconciler : UpstreamProviderReconciler}
    {name : String} {start finish : UpstreamSystem}
    {actions : List UpstreamAction}
    (run : Run (Step reconciler) start actions finish)
    (named : start.Named reconciler) (gone : start.Gone reconciler name)
    (notCreated : ∀ finalizers spec,
      Action.create ⟨reconciler.upstreamNamespace, name⟩ finalizers spec ∉
        actions) :
    finish.Gone reconciler name := by
  have both : Named reconciler finish ∧ Gone reconciler name finish := by
    refine run.invariant
      (fun reached => Named reconciler reached ∧
        Gone reconciler name reached) ?_ ⟨named, gone⟩
    rintro before action after member ⟨beforeNamed, beforeGone⟩ taken
    refine ⟨Cluster.Named.step beforeNamed taken,
      beforeGone.step beforeNamed (fun finalizers spec same => ?_) taken⟩
    exact notCreated finalizers spec (same ▸ member)
  exact both.2

theorem Backed.unregistered {reconciler : UpstreamProviderReconciler}
    {system : UpstreamSystem} (backed : system.Backed reconciler)
    {name : String}
    {object : UpstreamProvider}
    (found : system.objects ⟨reconciler.upstreamNamespace, name⟩ =
      some object)
    (notReady : object.status.phase ≠ .ready) :
    system.store.getUpstream name = none := by
  cases registered : system.store.getUpstream name with
  | none => rfl
  | some upstream =>
      obtain ⟨present, presentFound, ready, -⟩ :=
        backed name upstream registered
      obtain rfl : present = object :=
        Option.some.inj (presentFound.symm.trans found)
      exact absurd ready notReady

theorem gone_reconciled {reconciler : UpstreamProviderReconciler}
    {system : UpstreamSystem} (named : system.Named reconciler)
    (backed : system.Backed reconciler) {name : String}
    {object : UpstreamProvider} {calls : UpstreamCalls}
    (found : system.objects ⟨reconciler.upstreamNamespace, name⟩ =
      some object)
    (fetched : calls.get = none)
    (deleting : object.metadata.deleting = true) :
    Gone reconciler name (next reconciler system
      (.reconcile ⟨reconciler.upstreamNamespace, name⟩ calls)) := by
  obtain ⟨sameNs, sameName, -⟩ := named _ object found
  have ended : reconciler.exit calls object = .deleting := by
    simp [UpstreamProviderReconciler.exit, sameNs, fetched, deleting]
  obtain ⟨store, -, -⟩ := UpstreamProviderReconciler.reconcile_exit reconciler
    calls system.store system.statusErrorCount object
  rw [next, Cluster.next_reconcile found]
  refine ⟨?_, Cluster.leaving_reconciled deleting _⟩
  simp only [Cluster.reconciled, kind]
  rw [store, ended]
  simp only [UpstreamProviderReconciler.Exit.store]
  split
  · simp [MemoryStore.getUpstream, MemoryStore.deleteUpstream, sameName]
  · next notReady => exact backed.unregistered found notReady

/-- Registration agrees with the resources over every orderly history: a
provider recorded as failed or off is not registered, nor is one to which a
reconciliation has just given such a phase, and a provider whose finalizer was
removed is not registered until it is created again. -/
theorem registration_agrees (reconciler : UpstreamProviderReconciler)
    (actions : List UpstreamAction) (system : UpstreamSystem)
    (run : Run (Guarded (Orderly reconciler) (Step reconciler))
      initial actions system)
    (name : String) (object : UpstreamProvider)
    (found : system.objects ⟨reconciler.upstreamNamespace, name⟩ =
      some object) :
    (object.status.phase = .error ∨ object.status.phase = .off →
      system.store.getUpstream name = none) ∧
    ∀ calls after,
      Guarded (Orderly reconciler) (Step reconciler) system
        (.reconcile ⟨reconciler.upstreamNamespace, name⟩ calls) after →
      (∀ status,
        (reconciler.reconcile calls system.store system.statusErrorCount
          object).assigned = some status →
        status.phase = .error ∨ status.phase = .off →
        after.store.getUpstream name = none) ∧
      (calls.get = none → object.metadata.deleting = true →
        calls.patch = none →
        ∀ later finish, Run (Step reconciler) after later finish →
          (∀ finalizers spec,
            Action.create ⟨reconciler.upstreamNamespace, name⟩ finalizers
              spec ∉ later) →
          finish.store.getUpstream name = none) := by
  obtain ⟨named, backed⟩ := sound_of_run run
  refine ⟨fun failed => backed.unregistered found ?_, ?_⟩
  · rcases failed with failed | failed <;> simp [failed]
  rintro calls after ⟨orderly, rfl⟩
  refine ⟨fun status assigned failed => ?_, ?_⟩
  · obtain ⟨store, phase, -⟩ := UpstreamProviderReconciler.reconcile_exit
      reconciler calls system.store system.statusErrorCount object
    rw [Cluster.next_reconcile found]
    simp only [Cluster.reconciled, kind]
    rw [store]
    rw [assigned, Option.map_some] at phase
    obtain ⟨-, sameName, -⟩ := named _ object found
    cases ended : reconciler.exit calls object with
    | disabled =>
        simp [UpstreamProviderReconciler.Exit.store, MemoryStore.getUpstream,
          MemoryStore.deleteUpstream, sameName]
    | rejected =>
        exact backed.unregistered found (orderly.rejected found ended)
    | registered upstream =>
        rw [ended] at phase
        rcases failed with failed | failed <;> rw [failed] at phase <;>
          cases phase
    | ignored => rw [ended] at phase; cases phase
    | deleting => rw [ended] at phase; cases phase
    | finalizing => rw [ended] at phase; cases phase
  · intro fetched deleting _ later finish continued notCreated
    exact (gone_of_run continued (Cluster.Named.step named rfl)
      (gone_reconciled named backed found fetched deleting)
      notCreated).unregistered

def sampleReconciler : UpstreamProviderReconciler :=
  { upstreamNamespace := "kubauth" }

def sampleKey : ResourceKey :=
  { ns := "kubauth", name := "idp" }

/-- A provider with an explicit configuration, so that no discovery takes
place. -/
def sampleSpec (displayName : String) : UpstreamProviderSpec :=
  { (default : UpstreamProviderSpec) with
    type := .oidc
    displayName := displayName
    issuerURL := "https://idp"
    redirectURL := "https://kubauth/upstream/callback"
    clientId := "kubauth"
    scopes := ["openid"]
    explicitConfig := some
      { (default : UpstreamProviderConfig) with authURL := "https://idp/auth" } }

/-- Every call succeeds. -/
def sampleCalls : UpstreamCalls :=
  { get := none
    patch := none
    getClientSecret := .error (.notFound "")
    getCaConfigMap := .error (.notFound "")
    getCaSecret := .error (.notFound "")
    discovery :=
      { newHttpClient := fun _ => none
        newProvider := fun _ => .error "no discovery"
        claims := fun _ => .error "no discovery" }
    statusUpdate := none }

/-- A provider is created, registered and deleted. -/
def plainHistory : List UpstreamAction :=
  [.create sampleKey [] (sampleSpec "Company"),
    .reconcile sampleKey sampleCalls, .reconcile sampleKey sampleCalls,
    .delete sampleKey 0]

theorem registration_agrees_plainHistory :
    let system := plainHistory.foldl (next sampleReconciler) initial
    (system.store.getUpstream "idp").isSome = true ∧
      (next sampleReconciler system
        (.reconcile sampleKey sampleCalls)).store.getUpstream "idp" =
          none := by
  have orderly : ∀ system : UpstreamSystem, (∀ object,
      system.objects sampleKey = some object →
      (UpstreamProviderReconciler.build sampleCalls object).isOk = true) →
      system.Orderly sampleReconciler
        (.reconcile sampleKey sampleCalls) := by
    intro system accepted object found _
    have built := accepted object found
    split
    · next failed =>
        rw [failed] at built
        cases built
    · exact absurd rfl
  have run : Run (Guarded (Orderly sampleReconciler) (Step sampleReconciler))
      initial plainHistory
      (plainHistory.foldl (next sampleReconciler) initial) := by
    refine .cons ⟨trivial, rfl⟩ (.cons ⟨orderly _ ?_, rfl⟩
      (.cons ⟨orderly _ ?_, rfl⟩ (.cons ⟨trivial, rfl⟩ (.nil _))))
    · intro object found
      cases found
      decide
    · intro object found
      cases found
      decide
  have last : Orderly sampleReconciler
      (plainHistory.foldl (next sampleReconciler) initial)
      (.reconcile sampleKey sampleCalls) := by
    refine orderly _ fun object found => ?_
    cases found
    decide
  refine ⟨by decide, ?_⟩
  exact ((registration_agrees sampleReconciler plainHistory _ run "idp" _
    rfl).2 sampleCalls _ ⟨last, rfl⟩).2 rfl rfl rfl [] _ (.nil _)
      (fun _ _ => List.not_mem_nil)

/-- A registered provider is edited into one that is rejected. -/
def editedHistory : List UpstreamAction :=
  [.create sampleKey [] (sampleSpec "Company"),
    .reconcile sampleKey sampleCalls, .reconcile sampleKey sampleCalls,
    .editSpec sampleKey (sampleSpec ""), .reconcile sampleKey sampleCalls]

/-- The rejected provider stays registered, and survives its own deletion. -/
theorem registration_disagrees_editedHistory :
    let rejected := editedHistory.foldl (next sampleReconciler) initial
    let deleted := [Action.delete sampleKey 0,
      .reconcile sampleKey sampleCalls].foldl (next sampleReconciler) rejected
    Run (Step sampleReconciler) initial editedHistory rejected ∧
      (rejected.objects sampleKey).map (·.status.phase) = some .error ∧
      (rejected.store.getUpstream "idp").isSome = true ∧
      Run (Step sampleReconciler) rejected
        [.delete sampleKey 0, .reconcile sampleKey sampleCalls] deleted ∧
      deleted.objects sampleKey = none ∧
      (deleted.store.getUpstream "idp").isSome = true := by
  refine ⟨Run.of_foldl _ _ _, by decide, by decide, Run.of_foldl _ _ _,
    by decide, by decide⟩

end UpstreamSystem

end Kubauth.Controllers
