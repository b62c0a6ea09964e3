import Kubauth.Catalogue
import Kubauth.Controllers.ClientRegistration
import Kubauth.Reconciliation

/-!
# Watching clients and their secrets

The controller of clients is told of every change to a client and to a secret.
A changed client is queued itself.  A changed secret queues the clients that an
index finds under its name.  Reconciliations read the client and then one
secret after the other, while both go on changing.
-/

namespace Kubauth.Controllers

/-- The name under which the API holds a client. -/
def clientKey (object : OidcClient) : ResourceKey :=
  { ns := object.metadata.ns, name := object.metadata.name }

namespace ClientWatch

/-- What the API holds, as far as the controller reads it. -/
structure Cluster where
  clients : Catalogue clientKey
  secrets : GoMap ResourceKey Secret

inductive Address where
  | client (key : ResourceKey)
  | secret (key : ResourceKey)
  deriving Repr, DecidableEq

/-- What a `Get` returns, or nothing if there is no such object. -/
abbrev Found : Address → Type
  | .client _ => Option OidcClient
  | .secret _ => Option Secret

def Cluster.look (cluster : Cluster) : (address : Address) → Found address
  | .client key => cluster.clients.get key
  | .secret key => GoMap.get cluster.secrets key

/-! ## The index -/

/-- `secretIndexOnOidcClient`. -/
def secretIndex (object : OidcClient) : List String :=
  match object.spec.secrets with
  | none => []
  | some secrets =>
      secrets.map fun secret => object.metadata.ns ++ ":" ++ secret.name

/-- `findOidcClientFromSecret`.  A list that fails is logged, and wakes no
one. -/
def findOidcClientFromSecret (cluster : Cluster) (listing : Option ApiError)
    (secret : ResourceKey) : List ResourceKey :=
  match listing with
  | some _ => []
  | none =>
      cluster.clients.find fun object => secret.k8sId ∈ secretIndex object

/-! ## What a reconciliation reads -/

open OidcClientReconciler (Exit hashSecrets checkSecrets exit)

/-- The hashes that one reconciliation generates, by position. -/
abbrev Hashes := Nat → String → Except String String

/-- The loop over the secret references, with a `Get` for each of them. -/
def fetchSecrets (generate : Hashes) (ns : String) (position : Nat) :
    List OidcClientSecretSpec →
      Dialogue Found (Except SecretsFailure (List String))
  | [] => pure (.ok [])
  | reference :: rest =>
      .ask (.secret ⟨ns, reference.name⟩) fun
        | none =>
            pure (.error (.configuration ("unable to fetch secret '" ++ ns ++
              ":" ++ reference.name ++ "'")))
        | some secret =>
            match GoMap.get secret.data reference.key with
            | none =>
                pure (.error (.configuration ("no '" ++ reference.key ++
                  "' key in secret '" ++ ns ++ ":" ++ reference.name ++ "'")))
            | some value =>
                match
                  if reference.hashed then .ok value
                  else generate position value with
                | .error _ =>
                    pure (.error (.configuration
                      ("unable to hash value from secret '" ++ ns ++ ":" ++
                        reference.name ++ "[" ++ reference.key ++ "]'")))
                | .ok hashed =>
                    fetchSecrets generate ns (position + 1) rest >>=
                      fun others => pure (others.map (hashed :: ·))

/-- The secrets of an enabled client. -/
def readSecrets (generate : Hashes) (object : OidcClient) :
    Dialogue Found (Except SecretsFailure (List String)) :=
  if object.spec.isPublic then
    if object.spec.secrets.isSome then
      pure (.error (.configuration "'secrets' set while public is enabled"))
    else pure (.ok [])
  else
    match object.spec.secrets with
    | none | some [] =>
        pure (.error (.configuration
          ("when not public, one of 'secrets' must be " ++
            "defined with at least one item")))
    | some references =>
        fetchSecrets generate object.metadata.ns 0 references

/-- `Reconcile`, for what it reads and how it ends. -/
def reconcile (generate : Hashes) (key : ResourceKey) :
    Dialogue Found (Option (OidcClient × Exit)) :=
  .ask (.client key) fun
    | none => pure none
    | some object =>
        if object.metadata.deleting then pure (some (object, .deleting))
        else if !object.metadata.containsFinalizer finalizerName then
          pure (some (object, .finalizing))
        else if !boolPtrTrue object.spec.enabled then
          pure (some (object, .disabled))
        else
          readSecrets generate object >>= fun checked =>
            pure (some (object,
              match checked with
              | .ok hashedSecrets => .registered hashedSecrets
              | .error (.configuration message) => .rejected message
              | .error (.api _) => .ignored))

/-- How the calls of a reconciliation end in a cluster that stands still. -/
def Cluster.calls (cluster : Cluster) (generate : Hashes)
    (object : OidcClient) : OidcClientCalls :=
  { get := none
    patch := none
    getSecret := fun position =>
      match (object.spec.secrets.getD [])[position]? with
      | none => .error (.notFound "")
      | some reference =>
          match GoMap.get cluster.secrets
              ⟨object.metadata.ns, reference.name⟩ with
          | none => .error (.notFound "")
          | some secret => .ok secret
    generateFromPassword := generate
    statusUpdate := none }

open Reconciliation (evaluate Reads)

theorem reads_fetchSecrets {look : (address : Address) → Found address}
    {generate : Hashes} {ns : String} {position : Nat}
    {references : List OidcClientSecretSpec} {address : Address}
    (reading : Reads look (fetchSecrets generate ns position references)
      address) :
    ∃ reference ∈ references, address = .secret ⟨ns, reference.name⟩ := by
  induction references generalizing position with
  | nil => cases reading
  | cons reference rest induction =>
      unfold fetchSecrets at reading
      rcases reading with here | later
      · exact ⟨reference, List.mem_cons_self, here⟩
      · generalize look (.secret ⟨ns, reference.name⟩) = found at later
        cases found with
        | none => cases later
        | some secret =>
        simp only at later
        cases present : GoMap.get secret.data reference.key with
        | none =>
            rw [present] at later
            cases later
        | some value =>
        simp only [present] at later
        generalize (if reference.hashed then Except.ok value
          else generate position value) = hashing at later
        cases hashing with
        | error failure => cases later
        | ok hashed =>
        rcases Reconciliation.reads_bind later with further | last
        · obtain ⟨other, member, same⟩ := induction further
          exact ⟨other, List.mem_cons_of_mem reference member, same⟩
        · cases last

/-- A reconciliation reads its client, and secrets to which the client
refers. -/
theorem reads_reconcile {cluster : Cluster} {generate : Hashes}
    {key : ResourceKey} {address : Address}
    (reading : Reads cluster.look (reconcile generate key) address) :
    address = .client key ∨
      ∃ object references reference,
        cluster.clients.get key = some object ∧
        object.spec.secrets = some references ∧ reference ∈ references ∧
        address = .secret ⟨object.metadata.ns, reference.name⟩ := by
  rcases reading with here | later
  · exact .inl here
  right
  rw [Cluster.look] at later
  cases found : cluster.clients.get key with
  | none =>
      rw [found] at later
      cases later
  | some object =>
  simp only [found] at later
  split at later
  · cases later
  split at later
  · cases later
  split at later
  · cases later
  rcases Reconciliation.reads_bind later with further | last
  · unfold readSecrets at further
    split at further
    · split at further <;> cases further
    · split at further
      · cases further
      · cases further
      · next references _ listed =>
          obtain ⟨reference, member, same⟩ := reads_fetchSecrets further
          exact ⟨object, references, reference, rfl, listed, member, same⟩
  · cases last

/-! ## The watch -/

/-- A change to the cluster.  The writes of a reconciliation to its own client,
and those of anyone else, are `applyClient`.  `listing` is how the list behind
the index ends. -/
inductive Change where
  | applyClient (object : OidcClient)
  | removeClient (key : ResourceKey)
  | putSecret (key : ResourceKey) (secret : Option Secret)
      (listing : Option ApiError)

def Cluster.change (cluster : Cluster) : Change → Cluster
  | .applyClient object =>
      { cluster with clients := cluster.clients.apply object }
  | .removeClient key =>
      { cluster with clients := cluster.clients.remove key }
  | .putSecret key secret _ =>
      { cluster with secrets := GoMap.assign cluster.secrets key secret }

/-- `For` queues a changed client, and `Watches` what
`findOidcClientFromSecret` returns, which looks at the cluster after the
change. -/
def Cluster.woken (cluster : Cluster) : Change → List ResourceKey
  | .applyClient object => [clientKey object]
  | .removeClient key => [key]
  | .putSecret key _ listing => findOidcClientFromSecret cluster listing key

def controller :
    Reconciliation.Controller Cluster Change Found ResourceKey Hashes
      (Option (OidcClient × Exit)) :=
  { look := Cluster.look
    change := Cluster.change
    woken := Cluster.woken
    work := reconcile }

/-- The cluster, the queue of the controller, the reconciliations under way and
the outcomes of the latest ones. -/
abbrev System :=
  Reconciliation.State Cluster Found ResourceKey Hashes
    (Option (OidcClient × Exit))

abbrev WatchEvent := Reconciliation.Step Change Found ResourceKey Hashes

def initial : System :=
  Reconciliation.Controller.initial { clients := .empty, secrets := [] }

/-- The list behind the index does not fail, and no read for the client fails in
another way than by not finding the object. -/
def Answered (key : ResourceKey) : WatchEvent → Prop
  | .change (.putSecret _ _ listing) => listing = none
  | .misread other _ => key ≠ other
  | _ => True

theorem mem_findOidcClientFromSecret {cluster : Cluster}
    {key secret : ResourceKey} {object : OidcClient}
    {references : List OidcClientSecretSpec}
    {reference : OidcClientSecretSpec}
    (found : cluster.clients.get key = some object)
    (listed : object.spec.secrets = some references)
    (member : reference ∈ references)
    (refers : secret = ⟨object.metadata.ns, reference.name⟩) :
    key ∈ findOidcClientFromSecret cluster none secret := by
  refine Catalogue.mem_find found ?_
  rw [decide_eq_true_iff, secretIndex, listed, refers]
  exact List.mem_map.mpr ⟨reference, member, rfl⟩

theorem heeds_client {system : System} {change : Change}
    {key changed : ResourceKey}
    (woken : (system.world.change change).woken change = [changed])
    (secrets : (system.world.change change).secrets = system.world.secrets)
    (others : key ≠ changed →
      (system.world.change change).clients.get key =
        system.world.clients.get key) :
    controller.Heeds key system (.change change) := by
  by_cases here : key = changed
  · left
    change key ∈ (system.world.change change).woken change
    rw [woken]
    exact List.mem_singleton.mpr here
  right
  intro generate address reading
  rcases reads_reconcile reading with rfl | ⟨object, references, reference,
    found, listed, member, rfl⟩
  · exact others here
  · exact congrArg (GoMap.get · _) secrets

theorem heeds {system : System} {event : WatchEvent} {key : ResourceKey}
    (answered : Answered key event) : controller.Heeds key system event := by
  cases event with
  | misread other reply => exact answered
  | change change =>
      cases change with
      | applyClient object =>
          exact heeds_client rfl rfl
            (system.world.clients.get_apply_of_ne ·)
      | removeClient removed =>
          exact heeds_client rfl rfl
            (system.world.clients.get_remove_of_ne ·)
      | putSecret changed secret listing =>
          obtain rfl : listing = none := answered
          by_cases woken : key ∈ findOidcClientFromSecret
              (system.world.change (.putSecret changed secret none)) none
              changed
          · exact .inl woken
          right
          intro generate address reading
          rcases reads_reconcile reading with rfl | ⟨object, references,
            reference, found, secrets, member, rfl⟩
          · rfl
          · apply GoMap.get_assign_of_ne
            intro same
            exact woken
              (mem_findOidcClientFromSecret found secrets member same)
  | _ => trivial

end ClientWatch

end Kubauth.Controllers
