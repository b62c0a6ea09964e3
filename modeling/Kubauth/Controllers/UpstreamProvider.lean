import Kubauth.Controllers.Outcome

/-!
# The controller of upstream providers

`Reconcile` fetches one `UpstreamProvider` and registers it in the store under
its name.  Some of its exits update the store and the status, others the
status alone.
-/

namespace Kubauth.Controllers

def defaultUpstreamCAKey : String := "ca.crt"

structure UpstreamProviderReconciler where
  upstreamNamespace : String
  deriving Repr, DecidableEq, Inhabited

/-- How the calls that one `Reconcile` makes outside of the server end.  The
contents of secrets and config maps enter here, as what their reads return. -/
structure UpstreamCalls where
  get : Option ApiError
  patch : Option ApiError
  getClientSecret : Except ApiError Secret
  getCaConfigMap : Except ApiError ConfigMap
  getCaSecret : Except ApiError Secret
  discovery : Discovery
  statusUpdate : Option ApiError

/-- The verb `%q`, on names in which nothing needs an escape. -/
def quoted (text : String) : String :=
  "\"" ++ text ++ "\""

/-- Why no upstream could be built: the resource or something it refers to is
wrong, or the upstream server is not ready and the call is to be retried. -/
inductive BuildFailure where
  | configuration (message : String)
  | creation (message : String)
  deriving Repr, DecidableEq

namespace UpstreamProviderReconciler

/-- The checks of the specification, in order. -/
def checkSpec (spec : UpstreamProviderSpec) : Option String :=
  if spec.type ≠ .oidc then
    some ("upstream provider type " ++ spec.type.text ++ " is not supported")
  else if spec.displayName = "" then
    some "upstream provider has no displayName"
  else if spec.issuerURL = "" then
    some "upstream provider has no issuerURL"
  else if spec.redirectURL = "" then
    some "upstream provider has no redirectURL"
  else if spec.clientId = "" then
    some "upstream provider has no clientId"
  else if spec.scopes = [] then
    some "upstream provider has no scopes"
  else
    match spec.explicitConfig with
    | some config =>
        if config.authURL = "" then
          some "upstream provider explicitConfig has no authURL"
        else none
    | none => none

def fetchClientSecret (calls : UpstreamCalls) (ns secretName secretKey : String) :
    Except String String :=
  if secretName = "" then .error "clientSecret.name is required"
  else if secretKey = "" then .error "clientSecret.key is required"
  else
    match calls.getClientSecret with
    | .error (.notFound _) =>
        .error ("client secret " ++ quoted secretName ++
          " not found in namespace " ++ quoted ns)
    | .error (.other message) => .error message
    | .ok secret =>
        match GoMap.get secret.data secretKey with
        | none =>
            .error ("no key " ++ quoted secretKey ++ " in secret " ++
              quoted ns ++ "/" ++ quoted secretName)
        | some value => .ok value

/-- `ConfigMap != nil && ConfigMap.Name != ""`, and the same for a secret. -/
def namedSource (source : Option LocalKeySpec) : Option LocalKeySpec :=
  source.filter fun reference => reference.name ≠ ""

/-- One of the two readers of `fetchCertificateAuthority`, which differ in
their messages. -/
def fetchCaKey (kind keyKind ns : String) (reference : LocalKeySpec)
    (read : Except ApiError (GoMap String String)) : Except String String :=
  let key :=
    if reference.key = "" then defaultUpstreamCAKey else reference.key
  match read with
  | .error (.notFound _) =>
      .error ("certificate authority " ++ kind ++ " " ++
        quoted reference.name ++ " not found in namespace " ++ quoted ns)
  | .error (.other message) => .error message
  | .ok data =>
      match GoMap.get data key with
      | none =>
          .error ("no key " ++ quoted key ++ " in " ++ keyKind ++ " " ++
            quoted ns ++ "/" ++ quoted reference.name)
      | some value => .ok value

def fetchCertificateAuthority (calls : UpstreamCalls) (ns : String)
    (source : CertificateAuthoritySource) : Except String String :=
  match namedSource source.configMap, namedSource source.secret with
  | some _, some _ =>
      .error "certificateAuthority: set only one of configMap or secret"
  | none, none =>
      .error "certificateAuthority: one of configMap or secret is required"
  | some reference, none =>
      fetchCaKey "configMap" "configmap" ns reference
        (calls.getCaConfigMap.map ConfigMap.data)
  | none, some reference =>
      fetchCaKey "secret" "secret" ns reference
        (calls.getCaSecret.map Secret.data)

/-- From the checks of the specification to `NewUpstream`. -/
def build (calls : UpstreamCalls) (resource : UpstreamProvider) :
    Except BuildFailure Upstream :=
  let spec := resource.spec
  let ns := resource.metadata.ns
  if spec.type = .internal then .ok (Upstream.internal resource)
  else
    match checkSpec spec with
    | some message => .error (.configuration message)
    | none =>
        match
          if spec.clientSecret.name ≠ "" then
            fetchClientSecret calls ns spec.clientSecret.name
              spec.clientSecret.key
          else .ok "" with
        | .error message => .error (.configuration message)
        | .ok clientSecret =>
            match
              match spec.certificateAuthority with
              | some source => fetchCertificateAuthority calls ns source
              | none => .ok "" with
            | .error message => .error (.configuration message)
            | .ok caPEM =>
                match Upstream.new calls.discovery resource clientSecret
                    caPEM with
                | .error message => .error (.creation message)
                | .ok upstream => .ok upstream

/-- The status assigned by `updateStatus`. -/
def wantedStatus (resource : UpstreamProvider) (upstream : Option Upstream)
    (err : Option String) : UpstreamProviderStatus :=
  let effectiveConfig := upstream.bind Upstream.getEffectiveConfig
  match err with
  | some message =>
      { phase := .error
        message := message
        effectiveConfig := effectiveConfig }
  | none =>
      { phase :=
          if !boolPtrTrue resource.spec.enabled then .off else .ready
        message := "OK"
        effectiveConfig := effectiveConfig }

/-- `updateStatus`, which always writes. -/
def updateStatus (calls : UpstreamCalls) (store : MemoryStore)
    (statusErrorCount : Nat) (resource : UpstreamProvider)
    (upstream : Option Upstream) (events : List Event)
    (err : Option String) : Outcome UpstreamProviderStatus :=
  .statusUpdated store statusErrorCount (wantedStatus resource upstream err)
    events calls.statusUpdate

/-- The part of `Reconcile` that follows the handling of the finalizer. -/
def reconcileLive (calls : UpstreamCalls) (store : MemoryStore)
    (statusErrorCount : Nat) (resource : UpstreamProvider) :
    Outcome UpstreamProviderStatus :=
  if !boolPtrTrue resource.spec.enabled then
    updateStatus calls (store.deleteUpstream resource.metadata.name)
      statusErrorCount resource none [⟨"Normal", "Off", "Disabled"⟩] none
  else
    match build calls resource with
    | .ok upstream =>
        updateStatus calls (store.setUpstream upstream) statusErrorCount
          resource (some upstream)
          [⟨"Normal", "Created",
            if resource.spec.type = .internal then "Created internal upstream"
            else "Created upstream OIDC server"⟩]
          none
    | .error (.configuration message) =>
        updateStatus calls store statusErrorCount resource none
          [⟨"Warning", "Configuration", message⟩] (some message)
    | .error (.creation message) =>
        let updated :=
          updateStatus calls store statusErrorCount resource none []
            (some message)
        match updated.err with
        | some _ => updated
        | none =>
            { updated with
              events := [⟨"Warning", "CreationFailure", message⟩]
              requeueAfter := none
              err := some message }

/-- `Reconcile` of a resource that the API holds.  A fetch that succeeds returns
it. -/
def reconcile (reconciler : UpstreamProviderReconciler)
    (calls : UpstreamCalls) (store : MemoryStore) (statusErrorCount : Nat)
    (fetched : UpstreamProvider) : Outcome UpstreamProviderStatus :=
  if fetched.metadata.ns ≠ reconciler.upstreamNamespace then
    .untouched store statusErrorCount none
  else
    match calls.get with
    | some failure =>
        .untouched store statusErrorCount
          (failure.ignoreNotFound.map ApiError.message)
    | none =>
        if fetched.metadata.deleting then
          let unregistered :=
            if fetched.status.phase = .ready then
              store.deleteUpstream fetched.metadata.name
            else store
          .patched unregistered statusErrorCount
            (fetched.metadata.removeFinalizer finalizerName).finalizers
            calls.patch
        else if !fetched.metadata.containsFinalizer finalizerName then
          .patched store statusErrorCount
            (fetched.metadata.addFinalizer finalizerName).finalizers
            calls.patch
        else reconcileLive calls store statusErrorCount fetched

/-! ## The exits of a reconciliation -/

/-- How a reconciliation ends, in terms of what it was given. -/
inductive Exit where
  | ignored
  | deleting
  | finalizing
  | disabled
  | rejected
  | registered (upstream : Upstream)
  deriving Repr, DecidableEq

def exit (reconciler : UpstreamProviderReconciler) (calls : UpstreamCalls)
    (fetched : UpstreamProvider) : Exit :=
  if fetched.metadata.ns ≠ reconciler.upstreamNamespace then .ignored
  else if calls.get ≠ none then .ignored
  else if fetched.metadata.deleting then .deleting
  else if !fetched.metadata.containsFinalizer finalizerName then .finalizing
  else if !boolPtrTrue fetched.spec.enabled then .disabled
  else
    match build calls fetched with
    | .ok upstream => .registered upstream
    | .error _ => .rejected

/-- The phase that an exit assigns. -/
def Exit.phase : Exit → Option Phase
  | .ignored | .deleting | .finalizing => none
  | .disabled => some .off
  | .rejected => some .error
  | .registered _ => some .ready

/-- The store that an exit leaves.  The exits that assign an error leave the
entry of the provider as it was. -/
def Exit.store (store : MemoryStore) (fetched : UpstreamProvider) :
    Exit → MemoryStore
  | .ignored | .finalizing | .rejected => store
  | .deleting =>
      if fetched.status.phase = .ready then
        store.deleteUpstream fetched.metadata.name
      else store
  | .disabled => store.deleteUpstream fetched.metadata.name
  | .registered upstream => store.setUpstream upstream

/-- The write that an exit makes, when the API accepts it. -/
def Exit.written (calls : UpstreamCalls) (fetched : UpstreamProvider)
    (assigned : Option UpstreamProviderStatus) :
    Exit → Option (Write UpstreamProviderStatus)
  | .ignored => none
  | .deleting =>
      if calls.patch = none then
        some (.finalizers
          (fetched.metadata.removeFinalizer finalizerName).finalizers)
      else none
  | .finalizing =>
      if calls.patch = none then
        some (.finalizers
          (fetched.metadata.addFinalizer finalizerName).finalizers)
      else none
  | .disabled | .rejected | .registered _ =>
      if calls.statusUpdate = none then assigned.map .status else none

theorem build_name {calls : UpstreamCalls} {resource : UpstreamProvider}
    {upstream : Upstream} (built : build calls resource = .ok upstream) :
    upstream.name = resource.metadata.name := by
  unfold build at built
  simp only at built
  split at built
  · cases built
    rfl
  · split at built
    · cases built
    · split at built
      · cases built
      · split at built
        · cases built
        · split at built
          · cases built
          · next made =>
              cases built
              exact (Upstream.new_name_spec made).1

/-- An outcome is what its exit says. -/
def Exit.Describes (ended : Exit) (calls : UpstreamCalls)
    (store : MemoryStore) (fetched : UpstreamProvider)
    (outcome : Outcome UpstreamProviderStatus) : Prop :=
  outcome.store = ended.store store fetched ∧
    outcome.assigned.map UpstreamProviderStatus.phase = ended.phase ∧
    outcome.written = ended.written calls fetched outcome.assigned

private theorem reconcileLive_exit (calls : UpstreamCalls)
    (store : MemoryStore) (statusErrorCount : Nat)
    (fetched : UpstreamProvider) :
    Exit.Describes
      (if !boolPtrTrue fetched.spec.enabled then .disabled
        else
          match build calls fetched with
          | .ok upstream => .registered upstream
          | .error _ => .rejected)
      calls store fetched
      (reconcileLive calls store statusErrorCount fetched) := by
  unfold reconcileLive Exit.Describes
  cases enabled : boolPtrTrue fetched.spec.enabled with
  | false =>
      simp [updateStatus, wantedStatus, enabled, Exit.store, Exit.phase,
        Exit.written]
  | true =>
      cases build calls fetched with
      | ok upstream =>
          simp [updateStatus, wantedStatus, enabled, Exit.store, Exit.phase,
            Exit.written]
      | error failure =>
          cases failure with
          | configuration message =>
              simp [updateStatus, wantedStatus, Exit.store, Exit.phase,
                Exit.written]
          | creation message =>
              simp only [Bool.not_true, Bool.false_eq_true, if_false]
              split <;>
                simp [updateStatus, wantedStatus, Exit.store, Exit.phase,
                  Exit.written]

/-- Everything that a reconciliation can do. -/
theorem reconcile_exit (reconciler : UpstreamProviderReconciler)
    (calls : UpstreamCalls) (store : MemoryStore) (statusErrorCount : Nat)
    (fetched : UpstreamProvider) :
    (exit reconciler calls fetched).Describes calls store fetched
      (reconcile reconciler calls store statusErrorCount fetched) := by
  unfold reconcile exit
  by_cases elsewhere : fetched.metadata.ns ≠ reconciler.upstreamNamespace
  · rw [if_pos elsewhere, if_pos elsewhere]
    exact ⟨rfl, rfl, rfl⟩
  · rw [if_neg elsewhere, if_neg elsewhere]
    cases calls.get with
    | some failure => exact ⟨rfl, rfl, rfl⟩
    | none =>
        cases fetched.metadata.deleting with
        | true => exact ⟨rfl, rfl, rfl⟩
        | false =>
            cases fetched.metadata.containsFinalizer finalizerName with
            | false => exact ⟨rfl, rfl, rfl⟩
            | true =>
                exact reconcileLive_exit calls store statusErrorCount fetched

/-- The reconciliation gets as far as building the upstream. -/
def Builds (reconciler : UpstreamProviderReconciler) (calls : UpstreamCalls)
    (fetched : UpstreamProvider) : Prop :=
  fetched.metadata.ns = reconciler.upstreamNamespace ∧ calls.get = none ∧
    fetched.metadata.deleting = false ∧
    fetched.metadata.containsFinalizer finalizerName = true ∧
    boolPtrTrue fetched.spec.enabled = true

section

variable {reconciler : UpstreamProviderReconciler} {calls : UpstreamCalls}
  {fetched : UpstreamProvider}

theorem exit_of_builds (builds : reconciler.Builds calls fetched) :
    exit reconciler calls fetched =
      match build calls fetched with
      | .ok upstream => .registered upstream
      | .error _ => .rejected := by
  obtain ⟨here, read, live, finalized, enabled⟩ := builds
  rw [exit, if_neg (not_not_intro here), if_neg (not_not_intro read), live,
    finalized, enabled]
  rfl

theorem exit_of_not_builds (stops : ¬reconciler.Builds calls fetched) :
    exit reconciler calls fetched ∈
      [Exit.ignored, .deleting, .finalizing, .disabled] := by
  rw [exit]
  by_cases elsewhere : fetched.metadata.ns ≠ reconciler.upstreamNamespace
  · rw [if_pos elsewhere]
    simp
  · rw [if_neg elsewhere]
    by_cases failed : calls.get ≠ none
    · rw [if_pos failed]
      simp
    · rw [if_neg failed]
      cases deleting : fetched.metadata.deleting with
      | true => simp
      | false =>
          cases finalized :
              fetched.metadata.containsFinalizer finalizerName with
          | false => simp
          | true =>
              cases enabled : boolPtrTrue fetched.spec.enabled with
              | false => simp
              | true =>
                  exact absurd ⟨not_not.mp elsewhere, not_not.mp failed,
                    deleting, finalized, enabled⟩ stops

end

theorem exit_eq_rejected_iff (reconciler : UpstreamProviderReconciler)
    (calls : UpstreamCalls) (fetched : UpstreamProvider) :
    exit reconciler calls fetched = .rejected ↔
      reconciler.Builds calls fetched ∧
        ∃ failure, build calls fetched = .error failure := by
  by_cases builds : reconciler.Builds calls fetched
  · rw [exit_of_builds builds, and_iff_right builds]
    cases build calls fetched with
    | ok upstream => simp
    | error failure => simp
  · refine iff_of_false ?_ (fun both => builds both.1)
    intro ended
    have early := exit_of_not_builds builds
    rw [ended] at early
    simp at early

theorem exit_eq_registered_iff (reconciler : UpstreamProviderReconciler)
    (calls : UpstreamCalls) (fetched : UpstreamProvider)
    (upstream : Upstream) :
    exit reconciler calls fetched = .registered upstream ↔
      reconciler.Builds calls fetched ∧
        build calls fetched = .ok upstream := by
  by_cases builds : reconciler.Builds calls fetched
  · rw [exit_of_builds builds, and_iff_right builds]
    cases build calls fetched with
    | ok built => simp
    | error failure => simp
  · refine iff_of_false ?_ (fun both => builds both.1)
    intro ended
    have early := exit_of_not_builds builds
    rw [ended] at early
    simp at early

theorem exit_registered {reconciler : UpstreamProviderReconciler}
    {calls : UpstreamCalls} {fetched : UpstreamProvider}
    {upstream : Upstream}
    (ended : exit reconciler calls fetched = .registered upstream) :
    upstream.name = fetched.metadata.name ∧
      fetched.metadata.containsFinalizer finalizerName = true := by
  obtain ⟨⟨-, -, -, finalized, -⟩, built⟩ :=
    (exit_eq_registered_iff _ _ _ _).mp ended
  exact ⟨build_name built, finalized⟩

theorem exit_of_deleting (reconciler : UpstreamProviderReconciler)
    (calls : UpstreamCalls) {fetched : UpstreamProvider}
    (deleting : fetched.metadata.deleting = true) :
    exit reconciler calls fetched = .ignored ∨
      exit reconciler calls fetched = .deleting := by
  unfold exit
  simp only [deleting, if_true]
  split
  · exact .inl rfl
  · split
    · exact .inl rfl
    · exact .inr rfl

theorem exit_elsewhere {reconciler : UpstreamProviderReconciler}
    (calls : UpstreamCalls) {fetched : UpstreamProvider}
    (elsewhere : fetched.metadata.ns ≠ reconciler.upstreamNamespace) :
    exit reconciler calls fetched = .ignored :=
  if_pos elsewhere

theorem exit_store_other {reconciler : UpstreamProviderReconciler}
    {calls : UpstreamCalls} {fetched : UpstreamProvider} {name : String}
    (store : MemoryStore) (other : fetched.metadata.name ≠ name) :
    ((exit reconciler calls fetched).store store fetched).getUpstream name =
      store.getUpstream name := by
  cases ended : exit reconciler calls fetched with
  | ignored => rfl
  | finalizing => rfl
  | rejected => rfl
  | deleting =>
      simp only [Exit.store]
      split
      · exact GoMap.get_delete_of_ne _ other
      · rfl
  | disabled => exact GoMap.get_delete_of_ne _ other
  | registered upstream =>
      have named := (exit_registered ended).1
      exact GoMap.get_set_of_ne _ _ (named ▸ other)

end UpstreamProviderReconciler

end Kubauth.Controllers
