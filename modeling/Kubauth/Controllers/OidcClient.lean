import Kubauth.Controllers.Outcome

/-!
# The controller of OIDC clients

`Reconcile` fetches one `OidcClient`, and registers it in the store, or
unregisters it, under the client id recorded in its status.  Several resources
may carry the same client id.  Registration checks that the entry belongs to
the resource; unregistration does not.
-/

namespace Kubauth.Controllers

structure OidcClientReconciler where
  clientPrivilegedNamespace : String
  defaultStyle : String
  deriving Repr, DecidableEq, Inhabited

/-- How the calls that one `Reconcile` makes outside of the server end.  The
secrets and the hashes are asked for by their position in the specification,
since two reads of one secret may end differently. -/
structure OidcClientCalls where
  get : Option ApiError
  patch : Option ApiError
  getSecret : Nat → Except ApiError Secret
  generateFromPassword : Nat → String → Except String String
  statusUpdate : Option ApiError

/-- Why the secrets of a client cannot be used: the configuration is wrong, or
the API failed and the call is to be retried. -/
inductive SecretsFailure where
  | configuration (message : String)
  | api (failure : ApiError)
  deriving Repr, DecidableEq

namespace OidcClientReconciler

def buildClientId (reconciler : OidcClientReconciler) (spec : OidcClientSpec)
    (name ns : String) : String :=
  if spec.clientId ≠ "" then spec.clientId
  else if ns ≠ reconciler.clientPrivilegedNamespace then ns ++ "-" ++ name
  else name

/-- The client id is set on the first run, then immutable. -/
def effectiveClientId (reconciler : OidcClientReconciler)
    (resource : OidcClient) : String :=
  if resource.status.clientId = "" then
    reconciler.buildClientId resource.spec resource.metadata.name
      resource.metadata.ns
  else resource.status.clientId

def withClientId (reconciler : OidcClientReconciler) (fetched : OidcClient) :
    OidcClient :=
  { fetched with
    status :=
      { fetched.status with
        clientId := reconciler.effectiveClientId fetched } }

def withDefaultStyle (reconciler : OidcClientReconciler)
    (resource : OidcClient) : OidcClient :=
  if resource.spec.style = "" then
    { resource with
      spec := { resource.spec with style := reconciler.defaultStyle } }
  else resource

/-- The loop of `Reconcile` over the secret references from `position` on. -/
def hashSecrets (calls : OidcClientCalls) (ns : String) (position : Nat) :
    List OidcClientSecretSpec → Except SecretsFailure (List String)
  | [] => .ok []
  | reference :: rest =>
      match calls.getSecret position with
      | .error (.notFound _) =>
          .error (.configuration ("unable to fetch secret '" ++ ns ++ ":" ++
            reference.name ++ "'"))
      | .error failure => .error (.api failure)
      | .ok secret =>
          match GoMap.get secret.data reference.key with
          | none =>
              .error (.configuration ("no '" ++ reference.key ++
                "' key in secret '" ++ ns ++ ":" ++ reference.name ++ "'"))
          | some value =>
              match
                if reference.hashed then .ok value
                else calls.generateFromPassword position value with
              | .error _ =>
                  .error (.configuration ("unable to hash value from secret '" ++
                    ns ++ ":" ++ reference.name ++ "[" ++ reference.key ++
                    "]'"))
              | .ok hashed =>
                  match hashSecrets calls ns (position + 1) rest with
                  | .error failure => .error failure
                  | .ok others => .ok (hashed :: others)

/-- The checks of an enabled client, and its hashed secrets. -/
def checkSecrets (calls : OidcClientCalls) (resource : OidcClient) :
    Except SecretsFailure (List String) :=
  if resource.spec.isPublic then
    if resource.spec.secrets.isSome then
      .error (.configuration "'secrets' set while public is enabled")
    else .ok []
  else
    match resource.spec.secrets with
    | none | some [] =>
        .error (.configuration ("when not public, one of 'secrets' must be " ++
          "defined with at least one item"))
    | some references =>
        hashSecrets calls resource.metadata.ns 0 references

/-- The status that `updateStatus` wants to see. -/
def wantedStatus (resource : OidcClient) (err : Option String) :
    OidcClientStatus :=
  match err with
  | some failure =>
      { resource.status with phase := .error, message := failure }
  | none =>
      if !boolPtrTrue resource.spec.enabled then
        { resource.status with phase := .off, message := "Disabled" }
      else { resource.status with phase := .ready, message := "OK" }

/-- `updateStatus`: the status is written only when it changes. -/
def updateStatus (calls : OidcClientCalls) (store : MemoryStore)
    (statusErrorCount : Nat) (resource : OidcClient) (events : List Event)
    (err : Option String) : Outcome OidcClientStatus :=
  let wanted := wantedStatus resource err
  if resource.status.phase ≠ wanted.phase ∨
      resource.status.message ≠ wanted.message then
    .statusUpdated store statusErrorCount wanted events calls.statusUpdate
  else { Outcome.untouched store statusErrorCount none with events := events }

/-- `UpdateStorageAndStatus`. -/
def updateStorageAndStatus (calls : OidcClientCalls) (store : MemoryStore)
    (statusErrorCount : Nat) (resource : OidcClient)
    (hashedSecrets : List String) (err : Option String) :
    Outcome OidcClientStatus :=
  let clientId := resource.status.clientId
  match err with
  | some failure =>
      updateStatus calls (store.deleteClient clientId) statusErrorCount
        resource [⟨"Warning", "Error", failure⟩] (some failure)
  | none =>
      if boolPtrTrue resource.spec.enabled then
        match store.setClient
            { clientId := clientId
              k8sObject := resource
              hashedSecrets := hashedSecrets } with
        | (registered, none) =>
            updateStatus calls registered statusErrorCount resource
              [⟨"Normal", "Created", "Created client with client_id '" ++
                clientId ++ "'"⟩] none
        | (unchanged, some duplicate) =>
            updateStatus calls unchanged statusErrorCount resource
              [⟨"Warning", "Duplicate", duplicate.message⟩]
              (some duplicate.message)
      else
        updateStatus calls (store.deleteClient clientId) statusErrorCount
          resource [⟨"Normal", "Off", "Disabled"⟩] none

/-- The part of `Reconcile` that follows the handling of the finalizer. -/
def reconcileLive (reconciler : OidcClientReconciler)
    (calls : OidcClientCalls) (store : MemoryStore)
    (statusErrorCount : Nat) (resource : OidcClient) :
    Outcome OidcClientStatus :=
  if !boolPtrTrue resource.spec.enabled then
    updateStorageAndStatus calls store statusErrorCount resource [] none
  else
    let styled := reconciler.withDefaultStyle resource
    match checkSecrets calls resource with
    | .ok hashedSecrets =>
        updateStorageAndStatus calls store statusErrorCount styled
          hashedSecrets none
    | .error (.configuration message) =>
        updateStorageAndStatus calls store statusErrorCount styled []
          (some message)
    | .error (.api failure) =>
        .untouched store statusErrorCount (some failure.message)

/-- `Reconcile` of a resource that the API holds.  A fetch that succeeds returns
it. -/
def reconcile (reconciler : OidcClientReconciler) (calls : OidcClientCalls)
    (store : MemoryStore) (statusErrorCount : Nat) (fetched : OidcClient) :
    Outcome OidcClientStatus :=
  match calls.get with
  | some failure =>
      .untouched store statusErrorCount
        (failure.ignoreNotFound.map ApiError.message)
  | none =>
      let resource := reconciler.withClientId fetched
      if resource.metadata.deleting then
        let unregistered :=
          if resource.status.phase = .ready then
            store.deleteClient resource.status.clientId
          else store
        .patched unregistered statusErrorCount
          (resource.metadata.removeFinalizer finalizerName).finalizers
          calls.patch
      else if !resource.metadata.containsFinalizer finalizerName then
        .patched store statusErrorCount
          (resource.metadata.addFinalizer finalizerName).finalizers
          calls.patch
      else
        reconcileLive reconciler calls store statusErrorCount resource

/-! ## The exits of a reconciliation -/

/-- How a reconciliation ends, in terms of what it was given. -/
inductive Exit where
  | ignored
  | deleting
  | finalizing
  | disabled
  | rejected (message : String)
  | registered (hashedSecrets : List String)
  deriving Repr, DecidableEq

def exit (calls : OidcClientCalls) (fetched : OidcClient) : Exit :=
  if calls.get ≠ none then .ignored
  else if fetched.metadata.deleting then .deleting
  else if !fetched.metadata.containsFinalizer finalizerName then .finalizing
  else if !boolPtrTrue fetched.spec.enabled then .disabled
  else
    match checkSecrets calls fetched with
    | .ok hashedSecrets => .registered hashedSecrets
    | .error (.configuration message) => .rejected message
    | .error (.api _) => .ignored

/-- The client that a reconciliation registers. -/
def registeredClient (reconciler : OidcClientReconciler)
    (fetched : OidcClient) (hashedSecrets : List String) : KubauthClient :=
  { clientId := reconciler.effectiveClientId fetched
    k8sObject := reconciler.withDefaultStyle (reconciler.withClientId fetched)
    hashedSecrets := hashedSecrets }

/-- The store that an exit leaves. -/
def Exit.store (reconciler : OidcClientReconciler) (store : MemoryStore)
    (fetched : OidcClient) : Exit → MemoryStore
  | .ignored | .finalizing => store
  | .deleting =>
      if fetched.status.phase = .ready then
        store.deleteClient (reconciler.effectiveClientId fetched)
      else store
  | .disabled | .rejected _ =>
      store.deleteClient (reconciler.effectiveClientId fetched)
  | .registered hashedSecrets =>
      (store.setClient
        (reconciler.registeredClient fetched hashedSecrets)).1

/-- The status that an exit wants to see.  A client id that another resource
holds is an error. -/
def Exit.status (reconciler : OidcClientReconciler) (store : MemoryStore)
    (fetched : OidcClient) : Exit → Option OidcClientStatus
  | .ignored | .deleting | .finalizing => none
  | .disabled =>
      some
        { phase := .off
          clientId := reconciler.effectiveClientId fetched
          message := "Disabled" }
  | .rejected message =>
      some
        { phase := .error
          clientId := reconciler.effectiveClientId fetched
          message := message }
  | .registered hashedSecrets =>
      match (store.setClient
          (reconciler.registeredClient fetched hashedSecrets)).2 with
      | none =>
          some
            { phase := .ready
              clientId := reconciler.effectiveClientId fetched
              message := "OK" }
      | some duplicate =>
          some
            { phase := .error
              clientId := reconciler.effectiveClientId fetched
              message := duplicate.message }

/-- The write of a status, made only when its phase or message changes. -/
def writtenStatus (calls : OidcClientCalls) (fetched : OidcClient)
    (wanted : OidcClientStatus) : Option (Write OidcClientStatus) :=
  if (fetched.status.phase ≠ wanted.phase ∨
      fetched.status.message ≠ wanted.message) ∧ calls.statusUpdate = none then
    some (.status wanted)
  else none

/-- The write that an exit makes, when the API accepts it. -/
def Exit.written (reconciler : OidcClientReconciler)
    (calls : OidcClientCalls) (store : MemoryStore) (fetched : OidcClient)
    (ended : Exit) : Option (Write OidcClientStatus) :=
  match ended with
  | .deleting =>
      if calls.patch = none then
        some (.finalizers
          (fetched.metadata.removeFinalizer finalizerName).finalizers)
      else none
  | .finalizing =>
      if calls.patch = none then
        some (.finalizers
          (fetched.metadata.addFinalizer finalizerName).finalizers)
      else none
  | _ =>
      (ended.status reconciler store fetched).bind
        (writtenStatus calls fetched)

/-- An outcome is what its exit says. -/
def Exit.Describes (ended : Exit) (reconciler : OidcClientReconciler)
    (calls : OidcClientCalls) (store : MemoryStore) (fetched : OidcClient)
    (outcome : Outcome OidcClientStatus) : Prop :=
  outcome.store = ended.store reconciler store fetched ∧
    outcome.written = ended.written reconciler calls store fetched

@[simp] theorem updateStatus_store (calls : OidcClientCalls)
    (store : MemoryStore) (statusErrorCount : Nat) (resource : OidcClient)
    (events : List Event) (err : Option String) :
    (updateStatus calls store statusErrorCount resource events err).store =
      store := by
  unfold updateStatus
  simp only
  split
  · exact Outcome.statusUpdated_store _ _ _ _ _
  · rfl

theorem updateStatus_written (calls : OidcClientCalls)
    (store : MemoryStore) (statusErrorCount : Nat) (resource : OidcClient)
    (events : List Event) (err : Option String) :
    (updateStatus calls store statusErrorCount resource events err).written =
      writtenStatus calls resource (wantedStatus resource err) := by
  unfold updateStatus writtenStatus
  simp only
  split
  · next changed => simp [changed]
  · next same => rw [if_neg fun both => same both.1]; rfl

/-- The default style changes neither the identity of a client nor what
decides its registration. -/
theorem withDefaultStyle_kept (reconciler : OidcClientReconciler)
    (resource : OidcClient) :
    (reconciler.withDefaultStyle resource).k8sId = resource.k8sId ∧
      (reconciler.withDefaultStyle resource).status = resource.status ∧
      (reconciler.withDefaultStyle resource).spec.enabled =
        resource.spec.enabled := by
  unfold withDefaultStyle
  split <;> exact ⟨rfl, rfl, rfl⟩

private theorem reconcileLive_exit (reconciler : OidcClientReconciler)
    (calls : OidcClientCalls) (store : MemoryStore) (statusErrorCount : Nat)
    (fetched : OidcClient) :
    Exit.Describes
      (if !boolPtrTrue fetched.spec.enabled then .disabled
        else
          match checkSecrets calls fetched with
          | .ok hashedSecrets => .registered hashedSecrets
          | .error (.configuration message) => .rejected message
          | .error (.api _) => .ignored)
      reconciler calls store fetched
      (reconcileLive reconciler calls store statusErrorCount
        (reconciler.withClientId fetched)) := by
  have sameSpec : (reconciler.withClientId fetched).spec = fetched.spec := rfl
  have sameCheck : checkSecrets calls (reconciler.withClientId fetched) =
      checkSecrets calls fetched := rfl
  obtain ⟨-, sameStatus, sameEnabled⟩ :=
    withDefaultStyle_kept reconciler (reconciler.withClientId fetched)
  unfold reconcileLive Exit.Describes
  rw [sameSpec, sameCheck]
  cases enabled : boolPtrTrue fetched.spec.enabled with
  | false =>
      simp only [Bool.not_false, if_true, updateStorageAndStatus, sameSpec,
        enabled, Bool.false_eq_true, if_false, updateStatus_store,
        updateStatus_written, wantedStatus]
      exact ⟨rfl, rfl⟩
  | true =>
      simp only [Bool.not_true, Bool.false_eq_true, if_false]
      cases checkSecrets calls fetched with
      | ok hashedSecrets =>
          have client :
              ({ clientId := (reconciler.withDefaultStyle
                    (reconciler.withClientId fetched)).status.clientId
                 k8sObject := reconciler.withDefaultStyle
                    (reconciler.withClientId fetched)
                 hashedSecrets := hashedSecrets } : KubauthClient) =
                reconciler.registeredClient fetched hashedSecrets := by
            rw [sameStatus]
            rfl
          simp only [updateStorageAndStatus, client, sameEnabled, sameSpec,
            enabled, if_true, Exit.store, Exit.written, Exit.status]
          split
          · next called =>
              simp only [called, updateStatus_store, updateStatus_written,
                wantedStatus, sameEnabled, sameSpec, enabled, writtenStatus,
                sameStatus]
              exact ⟨trivial, rfl⟩
          · next called =>
              simp only [called, updateStatus_store, updateStatus_written,
                wantedStatus, writtenStatus, sameStatus]
              exact ⟨trivial, rfl⟩
      | error failure =>
          cases failure with
          | configuration message =>
              simp only [updateStorageAndStatus, updateStatus_store,
                updateStatus_written, wantedStatus, writtenStatus,
                sameStatus]
              exact ⟨rfl, rfl⟩
          | api failure => exact ⟨rfl, rfl⟩

/-- Everything that a reconciliation can do. -/
theorem reconcile_exit (reconciler : OidcClientReconciler)
    (calls : OidcClientCalls) (store : MemoryStore) (statusErrorCount : Nat)
    (fetched : OidcClient) :
    (exit calls fetched).Describes reconciler calls store fetched
      (reconcile reconciler calls store statusErrorCount fetched) := by
  have metadata :
      (reconciler.withClientId fetched).metadata = fetched.metadata := rfl
  unfold reconcile exit
  cases calls.get with
  | some failure => exact ⟨rfl, rfl⟩
  | none =>
      simp only [metadata]
      cases fetched.metadata.deleting with
      | true => exact ⟨rfl, rfl⟩
      | false =>
          cases fetched.metadata.containsFinalizer finalizerName with
          | false => exact ⟨rfl, rfl⟩
          | true =>
              exact reconcileLive_exit reconciler calls store
                statusErrorCount fetched

/-! ## What a reconciliation does to the store -/

/-- The configuration of an enabled client is rejected. -/
def misconfigured (calls : OidcClientCalls) (resource : OidcClient) : Bool :=
  match checkSecrets calls resource with
  | .error (.configuration _) => true
  | _ => false

/-- The exits of `Reconcile` that delete the entry of the client id: a deletion
of a resource recorded as ready, a disabled client, a configuration error. -/
def unregisters (calls : OidcClientCalls) (fetched : OidcClient) : Bool :=
  calls.get.isNone &&
    if fetched.metadata.deleting then decide (fetched.status.phase = .ready)
    else
      fetched.metadata.containsFinalizer finalizerName &&
        (!boolPtrTrue fetched.spec.enabled || misconfigured calls fetched)

/-- Everything that a reconciliation can do to the store. -/
def StoreEffect (store after : MemoryStore) (clientId : String)
    (resource : OidcClient) (unregister : Bool) : Prop :=
  unregister = true ∧ after = store.deleteClient clientId ∨
    unregister = false ∧
      (after = store ∨
        ∃ client : KubauthClient, client.clientId = clientId ∧
          client.getK8sId = resource.k8sId ∧
          after = (store.setClient client).1)

theorem reconcile_store (reconciler : OidcClientReconciler)
    (calls : OidcClientCalls) (store : MemoryStore) (statusErrorCount : Nat)
    (fetched : OidcClient) :
    StoreEffect store
      (reconcile reconciler calls store statusErrorCount fetched).store
      (reconciler.effectiveClientId fetched) fetched
      (unregisters calls fetched) := by
  rw [(reconcile_exit reconciler calls store statusErrorCount fetched).1]
  unfold exit unregisters misconfigured
  cases calls.get with
  | some failure => exact .inr ⟨rfl, .inl rfl⟩
  | none =>
      cases fetched.metadata.deleting with
      | true =>
          by_cases ready : fetched.status.phase = .ready
          · left
            simp [ready, Exit.store]
          · right
            simp [ready, Exit.store]
      | false =>
          cases fetched.metadata.containsFinalizer finalizerName with
          | false => exact .inr ⟨rfl, .inl rfl⟩
          | true =>
              cases boolPtrTrue fetched.spec.enabled with
              | false => exact .inl ⟨rfl, rfl⟩
              | true =>
                  cases checkSecrets calls fetched with
                  | ok hashedSecrets =>
                      refine .inr ⟨rfl, .inr ⟨
                        reconciler.registeredClient fetched hashedSecrets,
                        rfl, ?_, rfl⟩⟩
                      exact (withDefaultStyle_kept reconciler
                        (reconciler.withClientId fetched)).1
                  | error failure =>
                      cases failure with
                      | configuration message => exact .inl ⟨rfl, rfl⟩
                      | api failure => exact .inr ⟨rfl, .inl rfl⟩

/-! ## Entries of the store -/

theorem get_deleteClient {store : MemoryStore} {removed clientId : String}
    {entry : KubauthClient}
    (found : GoMap.get (store.deleteClient removed).clients clientId =
      some entry) :
    removed ≠ clientId ∧ GoMap.get store.clients clientId = some entry := by
  rw [MemoryStore.deleteClient, GoMap.get_delete] at found
  split at found
  · cases found
  · next different => exact ⟨different, found⟩

theorem get_setClient {store : MemoryStore} {client entry : KubauthClient}
    {clientId : String}
    (found : GoMap.get (store.setClient client).1.clients clientId =
      some entry) :
    (store.setClient client).2 = none ∧ client.clientId = clientId ∧
        entry = client ∨
      GoMap.get store.clients clientId = some entry := by
  have registered :
      GoMap.get (GoMap.set store.clients client.clientId client) clientId =
        some entry →
      client.clientId = clientId ∧ entry = client ∨
        GoMap.get store.clients clientId = some entry := by
    intro written
    rw [GoMap.get_set] at written
    split at written
    · next same => exact .inl ⟨same, (Option.some.inj written).symm⟩
    · exact .inr written
  unfold MemoryStore.setClient at found ⊢
  simp only at found ⊢
  split at found
  · split at found
    · exact .inr found
    · next sameOwner =>
        rw [if_neg sameOwner]
        exact (registered found).imp_left fun own => ⟨rfl, own⟩
  · exact (registered found).imp_left fun own => ⟨rfl, own⟩

/-- An entry that an exit leaves was there before, or is the one that the exit
registers. -/
theorem get_exit_store {reconciler : OidcClientReconciler}
    {store : MemoryStore} {fetched : OidcClient} {ended : Exit}
    {clientId : String} {entry : KubauthClient}
    (found : GoMap.get (ended.store reconciler store fetched).clients
      clientId = some entry) :
    (∃ hashedSecrets, ended = .registered hashedSecrets ∧
        (store.setClient
          (reconciler.registeredClient fetched hashedSecrets)).2 = none ∧
        reconciler.effectiveClientId fetched = clientId ∧
        entry = reconciler.registeredClient fetched hashedSecrets) ∨
      GoMap.get store.clients clientId = some entry := by
  cases ended with
  | ignored => exact .inr found
  | finalizing => exact .inr found
  | deleting =>
      rw [Exit.store] at found
      split at found
      · exact .inr (get_deleteClient found).2
      · exact .inr found
  | disabled => exact .inr (get_deleteClient found).2
  | rejected message => exact .inr (get_deleteClient found).2
  | registered hashedSecrets =>
      exact (get_setClient found).imp_left fun own =>
        ⟨hashedSecrets, rfl, own⟩

theorem exit_registered {calls : OidcClientCalls} {fetched : OidcClient}
    {hashedSecrets : List String}
    (ended : exit calls fetched = .registered hashedSecrets) :
    calls.get = none ∧ fetched.metadata.deleting = false ∧
      fetched.metadata.containsFinalizer finalizerName = true ∧
      boolPtrTrue fetched.spec.enabled = true ∧
      checkSecrets calls fetched = .ok hashedSecrets := by
  unfold exit at ended
  split_ifs at ended with fetchFailed deleting missing disabled
  split at ended
  · next checked =>
      cases ended
      simp_all
  · cases ended
  · cases ended

/-! ## Entries of other resources -/

/-- The entries of other resources are left unchanged. -/
def KeepsForeign (store after : MemoryStore) (resource : OidcClient) : Prop :=
  ∀ clientId entry, GoMap.get store.clients clientId = some entry →
    entry.getK8sId ≠ resource.k8sId →
    GoMap.get after.clients clientId = some entry

/-- Registration never takes an id away from another resource. -/
theorem keepsForeign_setClient (store : MemoryStore) {client : KubauthClient}
    {resource : OidcClient} (owned : client.getK8sId = resource.k8sId) :
    KeepsForeign store (store.setClient client).1 resource := by
  intro clientId entry found foreign
  unfold MemoryStore.setClient
  simp only
  split
  · next oldClient oldFound =>
      split
      · exact found
      · next sameOwner =>
          have different : client.clientId ≠ clientId := by
            rintro rfl
            obtain rfl : oldClient = entry :=
              Option.some.inj (oldFound.symm.trans found)
            exact foreign ((not_ne_iff.mp sameOwner).trans owned)
          simpa [GoMap.get_set, different] using found
  · next absent =>
      have different : client.clientId ≠ clientId := by
        rintro rfl
        rw [absent] at found
        cases found
      simpa [GoMap.get_set, different] using found

theorem keepsForeign_deleteClient_iff (store : MemoryStore)
    (clientId : String) (resource : OidcClient) :
    KeepsForeign store (store.deleteClient clientId) resource ↔
      ∀ entry, GoMap.get store.clients clientId = some entry →
        entry.getK8sId = resource.k8sId := by
  constructor
  · intro kept entry found
    by_contra foreign
    have still := kept clientId entry found foreign
    simp [MemoryStore.deleteClient] at still
  · intro owned other entry found foreign
    have different : clientId ≠ other := by
      rintro rfl
      exact foreign (owned entry found)
    simpa [MemoryStore.deleteClient, GoMap.get_delete, different] using found

/-- A reconciliation keeps the entries of other resources exactly when it does
not unregister a client id that another resource holds. -/
theorem reconcile_keepsForeign_iff (reconciler : OidcClientReconciler)
    (calls : OidcClientCalls) (store : MemoryStore) (statusErrorCount : Nat)
    (fetched : OidcClient) :
    KeepsForeign store
        (reconcile reconciler calls store statusErrorCount fetched).store
        fetched ↔
      (unregisters calls fetched = true →
        ∀ entry, GoMap.get store.clients
            (reconciler.effectiveClientId fetched) = some entry →
          entry.getK8sId = fetched.k8sId) := by
  rcases reconcile_store reconciler calls store statusErrorCount fetched with
    ⟨unregister, after⟩ | ⟨unregister, after⟩
  · rw [after, keepsForeign_deleteClient_iff]
    simp [unregister]
  · simp only [unregister, Bool.false_eq_true, false_implies, iff_true]
    rcases after with same | ⟨client, -, owned, registered⟩
    · rw [same]
      exact fun _ _ found _ => found
    · rw [registered]
      exact keepsForeign_setClient store owned

/-- A client resource with an explicit client id, past the finalizer stage. -/
def sharedIdClient (ns : String) (isPublic : Bool) : OidcClient :=
  { metadata :=
      { ns := ns, name := "web", finalizers := [finalizerName],
        deletionTimestamp := none }
    spec := { (default : OidcClientSpec) with
      clientId := "shop", isPublic := isPublic }
    status := { phase := .other "", clientId := "", message := "" } }

/-- Every call succeeds, and no secret is asked for. -/
def quietCalls : OidcClientCalls :=
  { get := none
    patch := none
    getSecret := fun _ => .error (.notFound "secrets not found")
    generateFromPassword := fun _ value => .ok value
    statusUpdate := none }

/-- A confidential client without secrets unregisters the client of another
namespace that uses the same id. -/
theorem reconcile_drops_foreign_client :
    let registered :=
      (reconcile default quietCalls MemoryStore.empty 0
        (sharedIdClient "team-a" true)).store
    unregisters quietCalls (sharedIdClient "team-b" false) = true ∧
      ¬KeepsForeign registered
        (reconcile default quietCalls registered 0
          (sharedIdClient "team-b" false)).store
        (sharedIdClient "team-b" false) := by
  refine ⟨by decide, fun kept => ?_⟩
  have still := kept "shop" _ rfl (by decide)
  cases still

end OidcClientReconciler

end Kubauth.Controllers
