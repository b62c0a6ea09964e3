import Kubauth.Controllers.OidcClient
import Kubauth.Run

/-!
# Credentials of registered clients

Whatever resources are reconciled, in whatever order and with whatever
outcomes of the API calls, an entry of the store carries the hashes of the
secrets that its resource referenced when it was registered.
-/

namespace Kubauth.Controllers.OidcClientReconciler

/-- One call of `Reconcile`. -/
structure Reconciliation where
  fetched : OidcClient
  calls : OidcClientCalls

/-- What the calls of `Reconcile` share. -/
structure Registry where
  store : MemoryStore
  statusErrorCount : Nat

def Registry.initial : Registry :=
  { store := MemoryStore.empty, statusErrorCount := 0 }

def Registry.next (reconciler : OidcClientReconciler) (registry : Registry)
    (reconciliation : Reconciliation) : Registry :=
  let outcome := reconciler.reconcile reconciliation.calls registry.store
    registry.statusErrorCount reconciliation.fetched
  { store := outcome.store
    statusErrorCount := outcome.statusErrorCount }

def Registry.Step (reconciler : OidcClientReconciler) (before : Registry)
    (reconciliation : Reconciliation) (after : Registry) : Prop :=
  after = before.next reconciler reconciliation

/-- The hash of the secret referenced at a position: the stored value when the
reference says that it is hashed, and its bcrypt hash otherwise. -/
def hashOf (calls : OidcClientCalls) (position : Nat)
    (reference : OidcClientSecretSpec) : Option String :=
  match calls.getSecret position with
  | .error _ => none
  | .ok secret =>
      match GoMap.get secret.data reference.key with
      | none => none
      | some value =>
          if reference.hashed then some value
          else (calls.generateFromPassword position value).toOption

/-- The loop over the references fills the list of hashes slot by slot. -/
theorem hashSecrets_ok {calls : OidcClientCalls} {ns : String}
    {position : Nat} {references : List OidcClientSecretSpec}
    {hashedSecrets : List String}
    (hashed : hashSecrets calls ns position references = .ok hashedSecrets) :
    hashedSecrets.map some =
      references.mapIdx fun offset reference =>
        hashOf calls (position + offset) reference := by
  induction references generalizing position hashedSecrets with
  | nil =>
      cases hashed
      rfl
  | cons reference rest induction =>
      unfold hashSecrets at hashed
      cases fetched : calls.getSecret position with
      | error failure =>
          rw [fetched] at hashed
          cases failure <;> cases hashed
      | ok secret =>
          rw [fetched] at hashed
          simp only at hashed
          cases held : GoMap.get secret.data reference.key with
          | none =>
              rw [held] at hashed
              cases hashed
          | some value =>
              rw [held] at hashed
              simp only at hashed
              split at hashed
              · cases hashed
              · next hash hashEq =>
                  split at hashed
                  · cases hashed
                  · next others othersEq =>
                      cases hashed
                      have first : hashOf calls position reference =
                          some hash := by
                        unfold hashOf
                        simp only [fetched, held]
                        split at hashEq
                        · next stored =>
                            cases hashEq
                            simp [stored]
                        · next plain =>
                            simp [plain, hashEq, Except.toOption]
                      have later := induction othersEq
                      simp only [List.map_cons, List.mapIdx_cons,
                        Nat.add_zero, first, later]
                      congr 2
                      funext offset reference
                      rw [Nat.add_right_comm, Nat.add_assoc]

theorem checkSecrets_ok {calls : OidcClientCalls} {resource : OidcClient}
    {hashedSecrets : List String}
    (checked : checkSecrets calls resource = .ok hashedSecrets) :
    (resource.spec.isPublic = true ∧ resource.spec.secrets = none ∧
        hashedSecrets = []) ∨
      resource.spec.isPublic = false ∧
        ∃ references, resource.spec.secrets = some references ∧
          references ≠ [] ∧
          hashedSecrets.map some = references.mapIdx (hashOf calls) := by
  unfold checkSecrets at checked
  cases isPublic : resource.spec.isPublic with
  | true =>
      left
      rw [isPublic] at checked
      cases secrets : resource.spec.secrets with
      | some references =>
          rw [secrets] at checked
          cases checked
      | none =>
          rw [secrets] at checked
          cases checked
          exact ⟨rfl, rfl, rfl⟩
  | false =>
      right
      rw [isPublic] at checked
      simp only [Bool.false_eq_true, if_false] at checked
      split at checked
      · cases checked
      · cases checked
      · next references notEmpty secrets =>
          refine ⟨rfl, references, secrets, notEmpty, ?_⟩
          simpa using hashSecrets_ok checked

/-- The entry was registered by the reconciliation, with as many hashes as the
resource referenced secrets, and in their order. -/
structure Credentialed (reconciler : OidcClientReconciler)
    (reconciliation : Reconciliation) (client : KubauthClient) : Prop where
  resource : client.k8sObject = reconciler.withDefaultStyle
    (reconciler.withClientId reconciliation.fetched)
  enabled : boolPtrTrue client.k8sObject.spec.enabled = true
  isPublic : client.isPublic = true → client.getSecretCount = 0
  confidential : client.isPublic = false →
    ∃ references, client.k8sObject.spec.secrets = some references ∧
      client.getSecretCount = references.length ∧ 1 ≤ client.getSecretCount
  hashes :
    (client.getHashedSecret.toList ++ client.getRotatedHashes).map some =
      (client.k8sObject.spec.secrets.getD []).mapIdx
        (hashOf reconciliation.calls)

theorem getHashedSecret_getRotatedHashes (client : KubauthClient) :
    client.getHashedSecret.toList ++ client.getRotatedHashes =
      client.hashedSecrets := by
  unfold KubauthClient.getHashedSecret KubauthClient.getRotatedHashes
  cases client.hashedSecrets <;> rfl

theorem withDefaultStyle_secrets (reconciler : OidcClientReconciler)
    (resource : OidcClient) :
    (reconciler.withDefaultStyle resource).spec.secrets =
        resource.spec.secrets ∧
      (reconciler.withDefaultStyle resource).spec.isPublic =
        resource.spec.isPublic := by
  unfold withDefaultStyle
  split <;> exact ⟨rfl, rfl⟩

theorem credentialed_registered {reconciler : OidcClientReconciler}
    {reconciliation : Reconciliation} {hashedSecrets : List String}
    (ended : exit reconciliation.calls reconciliation.fetched =
      .registered hashedSecrets) :
    reconciler.Credentialed reconciliation
      (reconciler.registeredClient reconciliation.fetched hashedSecrets) := by
  obtain ⟨-, -, -, enabled, checked⟩ := exit_registered ended
  have styled := withDefaultStyle_secrets reconciler
    (reconciler.withClientId reconciliation.fetched)
  have secrets :
      (reconciler.registeredClient reconciliation.fetched
        hashedSecrets).k8sObject.spec.secrets =
          reconciliation.fetched.spec.secrets := styled.1
  have isPublic :
      (reconciler.registeredClient reconciliation.fetched
        hashedSecrets).isPublic =
          reconciliation.fetched.spec.isPublic := styled.2
  have count :
      (reconciler.registeredClient reconciliation.fetched
        hashedSecrets).getSecretCount = hashedSecrets.length := rfl
  have sameEnabled := (withDefaultStyle_kept reconciler
    (reconciler.withClientId reconciliation.fetched)).2.2
  rcases checkSecrets_ok checked with
    ⟨isOpen, absent, none⟩ | ⟨closed, references, present, notEmpty, hashed⟩
  · refine ⟨rfl, sameEnabled ▸ enabled, ?_, ?_, ?_⟩
    · intro _
      rw [count, none]
      rfl
    · intro closed
      rw [isPublic, isOpen] at closed
      cases closed
    · rw [getHashedSecret_getRotatedHashes, secrets, absent]
      simp [registeredClient, none]
  · refine ⟨rfl, sameEnabled ▸ enabled, ?_, ?_, ?_⟩
    · intro isOpen
      rw [isPublic, closed] at isOpen
      cases isOpen
    · intro _
      have length : hashedSecrets.length = references.length := by
        simpa using congrArg List.length hashed
      refine ⟨references, secrets.trans present, count.trans length, ?_⟩
      rw [count, length]
      exact List.length_pos_iff.mpr notEmpty
    · rw [getHashedSecret_getRotatedHashes, secrets, present]
      exact hashed

/-- Every entry is stored under its own id, and credentialed by one of the
reconciliations. -/
def Registry.Sound (reconciler : OidcClientReconciler)
    (reconciliations : List Reconciliation) (registry : Registry) : Prop :=
  ∀ clientId client, GoMap.get registry.store.clients clientId = some client →
    client.clientId = clientId ∧
      ∃ reconciliation ∈ reconciliations,
        reconciler.Credentialed reconciliation client

theorem Registry.Sound.next {reconciler : OidcClientReconciler}
    {reconciliations : List Reconciliation} {registry : Registry}
    (sound : registry.Sound reconciler reconciliations)
    {reconciliation : Reconciliation}
    (member : reconciliation ∈ reconciliations) :
    (registry.next reconciler reconciliation).Sound reconciler
      reconciliations := by
  intro clientId client found
  have stored := (reconcile_exit reconciler reconciliation.calls
    registry.store registry.statusErrorCount reconciliation.fetched).1
  simp only [Registry.next, stored] at found
  rcases get_exit_store found with
    ⟨hashedSecrets, ended, -, sameId, rfl⟩ | before
  · exact ⟨sameId, reconciliation, member, credentialed_registered ended⟩
  · exact sound clientId client before

/-- In every state that a sequence of reconciliations reaches, an entry of the
store has the hashes of the secrets that its resource references, in their
order; a public client has none, any other at least one; the entry is stored
under its own id, and its resource was enabled when it was stored. -/
theorem registered_clients_credentialed (reconciler : OidcClientReconciler)
    (reconciliations : List Reconciliation) (registry : Registry)
    (run : Run (Registry.Step reconciler) Registry.initial reconciliations
      registry)
    (clientId : String) (client : KubauthClient)
    (found : GoMap.get registry.store.clients clientId = some client) :
    client.clientId = clientId ∧
      ∃ reconciliation ∈ reconciliations,
        reconciler.Credentialed reconciliation client := by
  have sound : registry.Sound reconciler reconciliations := by
    refine run.invariant (Registry.Sound reconciler reconciliations) ?_ ?_
    · rintro before reconciliation after member sound rfl
      exact sound.next member
    · intro _ _ absent
      cases absent
  exact sound clientId client found

/-- A confidential client with two secrets, one of them stored in clear. -/
def confidentialClient : OidcClient :=
  { sharedIdClient "team-a" false with
    spec :=
      { (sharedIdClient "team-a" false).spec with
        secrets := some
          [⟨"new", "value", false⟩, ⟨"old", "value", true⟩] } }

def secretCalls : OidcClientCalls :=
  { quietCalls with
    getSecret := fun position =>
      .ok { data := [("value", if position = 0 then "clear" else "$2a$old")] }
    generateFromPassword := fun _ value => .ok ("$2a$" ++ value) }

theorem registered_clients_credentialed_two_secrets :
    let reconciliation : Reconciliation := ⟨confidentialClient, secretCalls⟩
    let client : KubauthClient :=
      registeredClient default confidentialClient ["$2a$clear", "$2a$old"]
    GoMap.get (Registry.initial.next default reconciliation).store.clients
        "shop" = some client ∧
      (client.getHashedSecret.toList ++ client.getRotatedHashes).map some =
        [some "$2a$clear", some "$2a$old"] := by
  have stored :
      GoMap.get (Registry.initial.next default
        ⟨confidentialClient, secretCalls⟩).store.clients "shop" =
      some (registeredClient default confidentialClient
        ["$2a$clear", "$2a$old"]) := by decide
  refine ⟨stored, ?_⟩
  obtain ⟨-, reconciliation, member, credentialed⟩ :=
    registered_clients_credentialed default
      [⟨confidentialClient, secretCalls⟩] _ (.cons rfl (.nil _)) "shop" _
      stored
  rw [List.mem_singleton] at member
  rw [credentialed.hashes, member]
  decide

end Kubauth.Controllers.OidcClientReconciler
