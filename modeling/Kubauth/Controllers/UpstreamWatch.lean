import Kubauth.Catalogue
import Kubauth.Controllers.ClientRegistration
import Kubauth.Controllers.UpstreamProvider
import Kubauth.Reconciliation

/-!
# Watching upstream providers and their secrets

The controller of upstream providers is told of every change to a provider, and
of the changes to secrets of its namespace.  An index finds the providers whose
client secret is concerned.  The certificate authority of a provider, in a
config map or in another secret, is read but not watched.
-/

namespace Kubauth.Controllers

/-- The name under which the API holds a provider. -/
def providerKey (object : UpstreamProvider) : ResourceKey :=
  { ns := object.metadata.ns, name := object.metadata.name }

namespace UpstreamWatch

/-- What the API holds, as far as the controller reads it. -/
structure Cluster where
  providers : Catalogue providerKey
  secrets : GoMap ResourceKey Secret
  configMaps : GoMap ResourceKey ConfigMap

inductive Address where
  | provider (key : ResourceKey)
  | secret (key : ResourceKey)
  | configMap (key : ResourceKey)
  deriving Repr, DecidableEq

/-- What a `Get` returns, or nothing if there is no such object. -/
abbrev Found : Address → Type
  | .provider _ => Option UpstreamProvider
  | .secret _ => Option Secret
  | .configMap _ => Option ConfigMap

def Cluster.look (cluster : Cluster) : (address : Address) → Found address
  | .provider key => cluster.providers.get key
  | .secret key => GoMap.get cluster.secrets key
  | .configMap key => GoMap.get cluster.configMaps key

/-! ## The index -/

/-- `secretIndexOnUpstreamProvider`. -/
def secretIndex (object : UpstreamProvider) : List String :=
  if object.spec.clientSecret.name = "" then []
  else [object.metadata.ns ++ ":" ++ object.spec.clientSecret.name]

/-- `findUpstreamProviderFromSecret`, behind the predicate
`upstreamSecretPred`.  A list that fails is logged, and wakes no one. -/
def findUpstreamProviderFromSecret (reconciler : UpstreamProviderReconciler)
    (cluster : Cluster) (listing : Option ApiError) (secret : ResourceKey) :
    List ResourceKey :=
  if secret.ns = reconciler.upstreamNamespace then
    match listing with
    | some _ => []
    | none =>
        cluster.providers.find fun object =>
          secret.k8sId ∈ secretIndex object
  else []

/-! ## What a reconciliation reads -/

open UpstreamProviderReconciler (Exit exit build checkSpec fetchClientSecret
  fetchCertificateAuthority namedSource)

/-- What was read for a provider.  What was not read counts as not found. -/
structure Sources where
  clientSecret : Option Secret
  caConfigMap : Option ConfigMap
  caSecret : Option Secret

def fetched {α : Type} : Option α → Except ApiError α
  | none => .error (.notFound "")
  | some object => .ok object

/-- How the calls of a reconciliation that read the sources ended. -/
def Sources.calls (sources : Sources) (discovery : Discovery) :
    UpstreamCalls :=
  { get := none
    patch := none
    getClientSecret := fetched sources.clientSecret
    getCaConfigMap := fetched sources.caConfigMap
    getCaSecret := fetched sources.caSecret
    discovery := discovery
    statusUpdate := none }

/-- The specification of the provider is looked at: it is not under deletion,
bears the finalizer and is enabled, and its type is checked. -/
def checked (object : UpstreamProvider) : Bool :=
  !object.metadata.deleting &&
    object.metadata.containsFinalizer finalizerName &&
    boolPtrTrue object.spec.enabled &&
    object.spec.type ≠ .internal && (checkSpec object.spec).isNone

/-- The client secret to be read, if there is one. -/
def clientSecretKey (object : UpstreamProvider) : Option ResourceKey :=
  let reference := object.spec.clientSecret
  if checked object = true ∧ reference.name ≠ "" ∧ reference.key ≠ "" then
    some ⟨object.metadata.ns, reference.name⟩
  else none

/-- The value of the client secret, in terms of the secret that was read. -/
def clientSecretValue (object : UpstreamProvider) (discovery : Discovery)
    (clientSecret : Option Secret) : Except String String :=
  let reference := object.spec.clientSecret
  if reference.name ≠ "" then
    fetchClientSecret (Sources.calls ⟨clientSecret, none, none⟩ discovery)
      object.metadata.ns reference.name reference.key
  else .ok ""

/-- The certificate authority is looked at only with the client secret in
hand. -/
def authority (object : UpstreamProvider) (discovery : Discovery)
    (clientSecret : Option Secret) : Option CertificateAuthoritySource :=
  match clientSecretValue object discovery clientSecret with
  | .error _ => none
  | .ok _ =>
      if checked object then object.spec.certificateAuthority else none

def fetchClientSecretOf (object : UpstreamProvider) :
    Dialogue Found (Option Secret) :=
  match clientSecretKey object with
  | none => pure none
  | some key => .ask (.secret key) pure

/-- Exactly one of the two sources of a certificate authority is read. -/
def fetchSources (object : UpstreamProvider) (discovery : Discovery)
    (clientSecret : Option Secret) : Dialogue Found Sources :=
  match authority object discovery clientSecret with
  | none => pure ⟨clientSecret, none, none⟩
  | some source =>
      match namedSource source.configMap, namedSource source.secret with
      | some reference, none =>
          .ask (.configMap ⟨object.metadata.ns, reference.name⟩) fun found =>
            pure ⟨clientSecret, found, none⟩
      | none, some reference =>
          .ask (.secret ⟨object.metadata.ns, reference.name⟩) fun found =>
            pure ⟨clientSecret, none, found⟩
      | _, _ => pure ⟨clientSecret, none, none⟩

/-- `Reconcile`, for what it reads and how it ends.  A provider of another
namespace is not even fetched. -/
def reconcile (reconciler : UpstreamProviderReconciler)
    (discovery : Discovery) (key : ResourceKey) :
    Dialogue Found (Option (UpstreamProvider × Exit)) :=
  if key.ns ≠ reconciler.upstreamNamespace then pure none
  else
    .ask (.provider key) fun
      | none => pure none
      | some object =>
          fetchClientSecretOf object >>= fun clientSecret =>
            fetchSources object discovery clientSecret >>= fun sources =>
              pure (some
                (object, exit reconciler (sources.calls discovery) object))

/-- All that a provider refers to. -/
def Cluster.sources (cluster : Cluster) (object : UpstreamProvider) :
    Sources :=
  let ns := object.metadata.ns
  let source := object.spec.certificateAuthority
  { clientSecret :=
      GoMap.get cluster.secrets ⟨ns, object.spec.clientSecret.name⟩
    caConfigMap := do
      let reference ← namedSource (← source).configMap
      GoMap.get cluster.configMaps ⟨ns, reference.name⟩
    caSecret := do
      let reference ← namedSource (← source).secret
      GoMap.get cluster.secrets ⟨ns, reference.name⟩ }

open Reconciliation (evaluate Reads)

theorem authority_eq_some {object : UpstreamProvider} {discovery : Discovery}
    {clientSecret : Option Secret} {source : CertificateAuthoritySource}
    (asked : authority object discovery clientSecret = some source) :
    checked object = true ∧
      object.spec.certificateAuthority = some source := by
  unfold authority at asked
  split at asked
  · cases asked
  · split at asked
    · next looked => exact ⟨looked, asked⟩
    · cases asked

/-- The address of the certificate authority of a provider. -/
def IsAuthority (object : UpstreamProvider) (address : Address) : Prop :=
  ∃ source reference, object.spec.certificateAuthority = some source ∧
    ((namedSource source.configMap = some reference ∧
        address = .configMap ⟨object.metadata.ns, reference.name⟩) ∨
      (namedSource source.secret = some reference ∧
        address = .secret ⟨object.metadata.ns, reference.name⟩))

/-- A reconciliation reads its provider, the client secret of the provider and
its certificate authority. -/
theorem reads_reconcile {reconciler : UpstreamProviderReconciler}
    {discovery : Discovery} {cluster : Cluster} {key : ResourceKey}
    {address : Address}
    (reading : Reads cluster.look (reconcile reconciler discovery key)
      address) :
    address = .provider key ∨
      ∃ object, cluster.providers.get key = some object ∧
        ((key.ns = reconciler.upstreamNamespace ∧
            object.spec.clientSecret.name ≠ "" ∧
            address = .secret
              ⟨object.metadata.ns, object.spec.clientSecret.name⟩) ∨
          IsAuthority object address) := by
  unfold reconcile at reading
  split at reading
  · cases reading
  next own =>
  rcases reading with here | later
  · exact .inl here
  right
  rw [Cluster.look] at later
  cases found : cluster.providers.get key with
  | none =>
      rw [found] at later
      cases later
  | some object =>
  simp only [found] at later
  refine ⟨object, rfl, ?_⟩
  rcases Reconciliation.reads_bind later with first | further
  · left
    unfold fetchClientSecretOf clientSecretKey at first
    simp only at first
    split at first
    · cases first
    · next key asked =>
        split at asked
        · next wanted =>
            cases asked
            rcases first with here | none
            · exact ⟨not_not.mp own, wanted.2.1, here⟩
            · cases none
        · cases asked
  · rcases Reconciliation.reads_bind further with second | last
    · right
      unfold fetchSources at second
      split at second
      · cases second
      · next source asked =>
          obtain ⟨-, listed⟩ := authority_eq_some asked
          split at second
          · next reference inMap _ =>
              rcases second with here | none
              · exact ⟨source, reference, listed, .inl ⟨inMap, here⟩⟩
              · cases none
          · next reference _ inSecret =>
              rcases second with here | none
              · exact ⟨source, reference, listed, .inr ⟨inSecret, here⟩⟩
              · cases none
          · cases second
    · cases last

/-! ## The watch -/

/-- A change to the cluster.  `listing` is how the list behind the index
ends. -/
inductive Change where
  | applyProvider (object : UpstreamProvider)
  | removeProvider (key : ResourceKey)
  | putSecret (key : ResourceKey) (secret : Option Secret)
      (listing : Option ApiError)
  | putConfigMap (key : ResourceKey) (configMap : Option ConfigMap)

def Cluster.change (cluster : Cluster) : Change → Cluster
  | .applyProvider object =>
      { cluster with providers := cluster.providers.apply object }
  | .removeProvider key =>
      { cluster with providers := cluster.providers.remove key }
  | .putSecret key secret _ =>
      { cluster with secrets := GoMap.assign cluster.secrets key secret }
  | .putConfigMap key configMap =>
      { cluster with
        configMaps := GoMap.assign cluster.configMaps key configMap }

/-- A config map wakes no one. -/
def Cluster.woken (reconciler : UpstreamProviderReconciler)
    (cluster : Cluster) : Change → List ResourceKey
  | .applyProvider object => [providerKey object]
  | .removeProvider key => [key]
  | .putSecret key _ listing =>
      findUpstreamProviderFromSecret reconciler cluster listing key
  | .putConfigMap _ _ => []

def controller (reconciler : UpstreamProviderReconciler) :
    Reconciliation.Controller Cluster Change Found ResourceKey Discovery
      (Option (UpstreamProvider × Exit)) :=
  { look := Cluster.look
    change := Cluster.change
    woken := Cluster.woken reconciler
    work := reconcile reconciler }

/-- The cluster, the queue of the controller, the reconciliations under way and
the outcomes of the latest ones. -/
abbrev System :=
  Reconciliation.State Cluster Found ResourceKey Discovery
    (Option (UpstreamProvider × Exit))

abbrev WatchEvent := Reconciliation.Step Change Found ResourceKey Discovery

def initial : System :=
  Reconciliation.Controller.initial
    { providers := .empty, secrets := [], configMaps := [] }

def Step (reconciler : UpstreamProviderReconciler) (before : System)
    (event : WatchEvent) (after : System) : Prop :=
  after = (controller reconciler).step before event

/-- The event does not touch the certificate authority of the provider, the list
behind the index does not fail, and no read for the provider fails in another
way than by not finding the object. -/
def Spares (key : ResourceKey) (system : System) : WatchEvent → Prop
  | .change (.putSecret secret _ listing) =>
      listing = none ∧
        ∀ object, system.world.providers.get key = some object →
          ¬IsAuthority object (.secret secret)
  | .change (.putConfigMap configMap _) =>
      ∀ object, system.world.providers.get key = some object →
        ¬IsAuthority object (.configMap configMap)
  | .misread other _ => key ≠ other
  | _ => True

variable {reconciler : UpstreamProviderReconciler}

theorem mem_findUpstreamProviderFromSecret {cluster : Cluster}
    {key secret : ResourceKey} {object : UpstreamProvider}
    (own : key.ns = reconciler.upstreamNamespace)
    (found : cluster.providers.get key = some object)
    (named : object.spec.clientSecret.name ≠ "")
    (refers : secret =
      ⟨object.metadata.ns, object.spec.clientSecret.name⟩) :
    key ∈ findUpstreamProviderFromSecret reconciler cluster none secret := by
  have same : providerKey object = key := cluster.providers.named found
  have inside : secret.ns = reconciler.upstreamNamespace := by
    rw [refers, ← own, ← same]
    rfl
  unfold findUpstreamProviderFromSecret
  rw [if_pos inside]
  refine Catalogue.mem_find found ?_
  rw [decide_eq_true_iff, secretIndex, if_neg named, refers]
  exact List.mem_singleton_self _

theorem heeds_provider {system : System} {change : Change}
    {key changed : ResourceKey}
    (woken : (system.world.change change).woken reconciler change = [changed])
    (secrets : (system.world.change change).secrets = system.world.secrets)
    (configMaps : (system.world.change change).configMaps =
      system.world.configMaps)
    (others : key ≠ changed →
      (system.world.change change).providers.get key =
        system.world.providers.get key) :
    (controller reconciler).Heeds key system (.change change) := by
  by_cases here : key = changed
  · left
    change key ∈ (system.world.change change).woken reconciler change
    rw [woken]
    exact List.mem_singleton.mpr here
  right
  intro discovery address reading
  cases address with
  | secret name => exact congrArg (GoMap.get · name) secrets
  | configMap name => exact congrArg (GoMap.get · name) configMaps
  | provider name =>
      rcases reads_reconcile reading with same | ⟨object, -, secret | ca⟩
      · cases same
        exact others here
      · cases secret.2.2
      · obtain ⟨source, reference, -, ⟨-, other⟩ | ⟨-, other⟩⟩ := ca <;>
          cases other

theorem heeds_putSecret {system : System} {key changed : ResourceKey}
    {secret : Option Secret}
    (spared : ∀ object, system.world.providers.get key = some object →
      ¬IsAuthority object (.secret changed)) :
    (controller reconciler).Heeds key system
      (.change (.putSecret changed secret none)) := by
  by_cases woken : key ∈ findUpstreamProviderFromSecret reconciler
      (system.world.change (.putSecret changed secret none)) none changed
  · exact .inl woken
  right
  intro discovery address reading
  cases address with
  | provider name => rfl
  | configMap name => rfl
  | secret name =>
      have other : changed ≠ name := by
        rintro rfl
        rcases reads_reconcile reading with same | ⟨object, found,
          ⟨own, named, refers⟩ | ca⟩
        · cases same
        · apply woken
          exact mem_findUpstreamProviderFromSecret own found named
            (Address.secret.inj refers)
        · exact spared object found ca
      exact GoMap.get_assign_of_ne _ _ other

theorem heeds_putConfigMap {system : System} {key changed : ResourceKey}
    {configMap : Option ConfigMap}
    (spared : ∀ object, system.world.providers.get key = some object →
      ¬IsAuthority object (.configMap changed)) :
    (controller reconciler).Heeds key system
      (.change (.putConfigMap changed configMap)) := by
  right
  intro discovery address reading
  cases address with
  | provider name => rfl
  | secret name => rfl
  | configMap name =>
      have other : changed ≠ name := by
        rintro rfl
        rcases reads_reconcile reading with same | ⟨object, found,
          ⟨own, named, refers⟩ | ca⟩
        · cases same
        · cases refers
        · exact spared object found ca
      exact GoMap.get_assign_of_ne _ _ other

theorem heeds {system : System} {event : WatchEvent} {key : ResourceKey}
    (spared : Spares key system event) :
    (controller reconciler).Heeds key system event := by
  cases event with
  | misread other reply => exact spared
  | change change =>
      cases change with
      | applyProvider object =>
          exact heeds_provider rfl rfl rfl
            (system.world.providers.get_apply_of_ne ·)
      | removeProvider removed =>
          exact heeds_provider rfl rfl rfl
            (system.world.providers.get_remove_of_ne ·)
      | putSecret changed secret listing =>
          obtain ⟨rfl, spared⟩ := spared
          exact heeds_putSecret spared
      | putConfigMap changed configMap => exact heeds_putConfigMap spared
  | _ => trivial

/-- Every issuer is discovered, with nothing beyond its endpoints. -/
def plainDiscovery : Discovery :=
  { newHttpClient := fun _ => none
    newProvider := fun _ => .ok default
    claims := fun _ => .ok Upstream.noExtraConfig }

/-- A provider with a client secret, and the certificate authority given. -/
def sampleProvider (ca : Option CertificateAuthoritySource) :
    UpstreamProvider :=
  { (default : UpstreamProvider) with
    metadata :=
      { ns := "idp", name := "google", finalizers := [finalizerName],
        deletionTimestamp := none }
    spec :=
      { (default : UpstreamProviderSpec) with
        type := .oidc
        displayName := "Google"
        issuerURL := "https://issuer"
        redirectURL := "https://here"
        clientId := "kubauth"
        scopes := ["openid"]
        clientSecret := ⟨"credentials", "secret"⟩
        certificateAuthority := ca } }

/-- A config map that is created after the provider that refers to it: the
provider stays rejected, and nothing is queued. -/
def lateAuthority : List WatchEvent :=
  let google : ResourceKey := ⟨"idp", "google"⟩
  let source : CertificateAuthoritySource := ⟨some ⟨"ca", ""⟩, none⟩
  [.change (.putSecret ⟨"idp", "credentials"⟩ (some ⟨[("secret", "s")]⟩) none),
    .change (.applyProvider (sampleProvider (some source))),
    .start google plainDiscovery, .read google, .read google, .read google,
    .finish google,
    .change (.putConfigMap ⟨"idp", "ca"⟩ (some ⟨[("ca.crt", "PEM")]⟩))]

/-- The certificate authority has to be left alone. -/
theorem upstream_stale_lateAuthority :
    let reached := lateAuthority.foldl (controller ⟨"idp"⟩).step initial
    reached.queued = [] ∧ reached.running ⟨"idp", "google"⟩ = none ∧
      ∃ object upstream outcome,
        reached.latest ⟨"idp", "google"⟩ = some outcome ∧
        outcome.result = some (object, .rejected) ∧
        reached.world.providers.get ⟨"idp", "google"⟩ = some object ∧
        exit ⟨"idp"⟩ ((reached.world.sources object).calls plainDiscovery)
          object = .registered upstream :=
  ⟨rfl, rfl, _, _, _, rfl, rfl, rfl, rfl⟩

end UpstreamWatch

end Kubauth.Controllers
