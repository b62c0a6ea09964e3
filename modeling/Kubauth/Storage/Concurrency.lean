import Kubauth.Storage.Methods

/-!
# Concurrent use of the memory store

Any number of threads call the methods of the store.  They never block each
other for good, and as long as the maps are only accessed under their mutexes
the methods are atomic.  Two places go around the mutexes:
`RevokeRefreshToken` accesses the refresh tokens under the mutex of their index
alone, and the index page lists the clients under no mutex at all.
-/

namespace Kubauth.MemoryStore

open Locking

/-! ## The discipline of the methods -/

/-- A map is locked after the index into it. -/
def rank : Lock → Nat
  | .of .accessTokens => 1
  | .of .refreshTokens => 1
  | _ => 0

/-- Every map is guarded by its own mutex, except perhaps for two of them. -/
def guards (clients refreshTokens : Rule Lock) : Table → Rule Lock
  | .clients => clients
  | .refreshTokens => refreshTokens
  | table => .guarded (.of table)

/-- One lock, and nothing else. -/
def holding (lock : Lock) (hold : Hold) : Standing Lock :=
  Standing.start.set lock hold

/-- The rule of the clients grants the method what it does with them. -/
def Method.FitsClients (rule : Rule Lock) : Method → Prop
  | .getKubauthClient _ => rule.Reads (holding (.of .clients) .shared).held
  | .setClient _ => rule.Writes (holding (.of .clients) .exclusive).held
  | .deleteClient _ => rule.Writes (holding (.of .clients) .exclusive).held
  | .setTokenLifespans _ => rule.Reads Standing.start.held
  | .rangeClients => rule.Reads Standing.start.held
  | _ => True

/-- The rule of the refresh tokens grants the method what it does with
them. -/
def Method.FitsRefreshTokens (rule : Rule Lock) : Method → Prop
  | .createRefreshTokenSession _ _ _ =>
      rule.Writes ((holding (.of .refreshTokenRequestIDs) .exclusive).set
        (.of .refreshTokens) .exclusive).held
  | .getRefreshTokenSession _ =>
      rule.Reads (holding (.of .refreshTokens) .shared).held
  | .deleteRefreshTokenSession _ =>
      rule.Writes (holding (.of .refreshTokens) .exclusive).held
  | .revokeRefreshToken _ =>
      rule.Writes (holding (.of .refreshTokenRequestIDs) .exclusive).held
  | _ => True

section Discipline

variable {rules : Table → Rule Lock} {α : Type}
  {post : α → Standing Lock → Prop} {standing : Standing Lock}

theorem keeps_lookup {table : Table} {key : String}
    {post : Option table.Value → Standing Lock → Prop}
    (growing : standing.released = false)
    (reads : (rules table).Reads standing.held)
    (later : ∀ found, post found standing) :
    Dialogue.Keeps (discipline rank rules) (lookup table key) post standing :=
  ⟨⟨growing, reads⟩, fun _ => later _⟩

theorem keeps_modify {table : Table}
    {change : table.Contents → table.Contents}
    {post : Unit → Standing Lock → Prop}
    (growing : standing.released = false)
    (writes : (rules table).Writes standing.held) (later : post () standing) :
    Dialogue.Keeps (discipline rank rules) (modify table change) post
      standing :=
  ⟨⟨growing, writes⟩, fun _ => later⟩

theorem below_start (lock : Lock) : Standing.start.Below rank lock :=
  fun _ _ held => absurd rfl held

theorem free_release (lock other : Lock) (hold : Hold) :
    ((holding lock hold).release lock).held other = .free := by
  unfold holding Standing.set Standing.release
  simp only [Function.update_idem, Standing.start]
  by_cases same : other = lock
  · rw [same, Function.update_self]
  · rw [Function.update_of_ne same]

theorem held_holding (lock : Lock) (hold : Hold) :
    (holding lock hold).held lock = hold :=
  Function.update_self _ _ _

theorem disciplined_locked {lock : Lock}
    {body : Code Lock Table.Contents α}
    (inner : Dialogue.Keeps (discipline rank rules) body
      (fun _ last => last = holding lock .exclusive)
      (holding lock .exclusive)) :
    Disciplined rank rules (locked lock body) .start := by
  apply keeps_locked rfl rfl (below_start lock)
  refine inner.mono ?_
  rintro result last rfl
  exact ⟨held_holding lock _, fun other => free_release lock other _⟩

theorem disciplined_rlocked {lock : Lock}
    {body : Code Lock Table.Contents α}
    (inner : Dialogue.Keeps (discipline rank rules) body
      (fun _ last => last = holding lock .shared) (holding lock .shared)) :
    Disciplined rank rules (rlocked lock body) .start := by
  apply keeps_rlocked rfl rfl (below_start lock)
  refine inner.mono ?_
  rintro result last rfl
  exact ⟨held_holding lock _, fun other => free_release lock other _⟩

theorem keeps_nested {first second : Lock} (ordered : rank first < rank second)
    {hold : Hold} {body : Code Lock Table.Contents α}
    (inner : Dialogue.Keeps (discipline rank rules) body
      (fun _ last => last = (holding first hold).set second .exclusive)
      ((holding first hold).set second .exclusive)) :
    Dialogue.Keeps (discipline rank rules) (locked second body)
      (fun _ last => last.held first = hold ∧
        ∀ lock, (last.release first).held lock = .free)
      (holding first hold) := by
  have different : second ≠ first := by
    rintro rfl
    exact lt_irrefl _ ordered
  have unheld : ∀ other, other ≠ first →
      (holding first hold).held other = .free :=
    fun other apart => Function.update_of_ne apart _ _
  apply keeps_locked rfl (unheld second different)
  · intro other _ held
    by_cases same : other = first
    · rw [same]
      exact ordered
    · exact absurd (unheld other same) held
  · refine inner.mono ?_
    rintro result last rfl
    have back : ((holding first hold).set second .exclusive).release second =
        { holding first hold with released := true } := by
      unfold Standing.release Standing.set
      simp only [Function.update_idem, ← unheld second different,
        Function.update_eq_self]
    rw [back]
    exact ⟨Function.update_self _ _ _, held_holding first hold,
      fun other => free_release first other hold⟩

theorem reads_own (lock : Lock) :
    (Rule.guarded lock).Reads (holding lock .shared).held :=
  .inl (held_holding lock .shared)

theorem writes_own (lock : Lock) :
    (Rule.guarded lock).Writes (holding lock .exclusive).held :=
  held_holding lock .exclusive

namespace Locked

theorem disciplined_inspect {table : Table} {key : String}
    {answer : Option table.Value → α}
    (reads : (rules table).Reads (holding (.of table) .shared).held) :
    Disciplined rank rules (inspect table key answer) .start := by
  apply disciplined_rlocked
  rw [Dialogue.keeps_bind]
  exact keeps_lookup rfl reads fun _ => rfl

theorem disciplined_put {table : Table} {key : String} {value : table.Value}
    (writes : (rules table).Writes (holding (.of table) .exclusive).held) :
    Disciplined rank rules (put table key value) .start := by
  apply disciplined_locked
  exact keeps_modify rfl writes rfl

theorem disciplined_drop {table : Table} {key : String}
    (writes : (rules table).Writes (holding (.of table) .exclusive).held) :
    Disciplined rank rules (drop table key) .start := by
  apply disciplined_locked
  exact keeps_modify rfl writes rfl

theorem disciplined_setClient {client : KubauthClient}
    (writes : (rules .clients).Writes (holding (.of .clients) .exclusive).held) :
    Disciplined rank rules (setClient client) .start := by
  apply disciplined_locked
  rw [Dialogue.keeps_bind]
  refine keeps_lookup rfl writes.reads fun found => ?_
  cases found with
  | none =>
      simp only
      rw [Dialogue.keeps_bind]
      exact keeps_modify rfl writes rfl
  | some oldClient =>
      simp only
      split
      · rfl
      · rw [Dialogue.keeps_bind]
        exact keeps_modify rfl writes rfl

theorem disciplined_setTokenLifespans {clientID : String}
    (reads : (rules .clients).Reads Standing.start.held) :
    Disciplined rank rules (setTokenLifespans clientID) .start := by
  unfold Disciplined setTokenLifespans
  rw [Dialogue.keeps_bind]
  refine keeps_lookup rfl reads fun found => ?_
  cases found with
  | none => exact fun _ => rfl
  | some client => exact fun _ => rfl

theorem disciplined_rangeClients
    (reads : (rules .clients).Reads Standing.start.held) :
    Disciplined rank rules rangeClients .start :=
  ⟨⟨rfl, reads⟩, fun _ _ => rfl⟩

theorem disciplined_clientAssertionJWTValid {now : Int} {jti : String}
    (reads : (rules .blacklistedJTIs).Reads
      (holding (.of .blacklistedJTIs) .shared).held) :
    Disciplined rank rules (clientAssertionJWTValid now jti) .start := by
  apply disciplined_rlocked
  rw [Dialogue.keeps_bind]
  refine keeps_lookup rfl reads fun found => ?_
  cases found with
  | none => rfl
  | some exp => rfl

theorem disciplined_setClientAssertionJWT {clock : String → Int}
    {jti : String} {exp : Int}
    (writes : (rules .blacklistedJTIs).Writes
      (holding (.of .blacklistedJTIs) .exclusive).held) :
    Disciplined rank rules (setClientAssertionJWT clock jti exp) .start := by
  apply disciplined_locked
  rw [Dialogue.keeps_bind]
  refine keeps_modify rfl writes ?_
  rw [Dialogue.keeps_bind]
  refine keeps_lookup rfl writes.reads fun found => ?_
  cases found with
  | none =>
      simp only
      rw [Dialogue.keeps_bind]
      exact keeps_modify rfl writes rfl
  | some exp => rfl

theorem disciplined_getAuthorizeCodeSession {code : String}
    (reads : (rules .authorizeCodes).Reads
      (holding (.of .authorizeCodes) .shared).held) :
    Disciplined rank rules (getAuthorizeCodeSession code) .start := by
  apply disciplined_rlocked
  rw [Dialogue.keeps_bind]
  refine keeps_lookup rfl reads fun found => ?_
  cases found with
  | none => rfl
  | some entry =>
      simp only
      split <;> rfl

theorem disciplined_invalidateAuthorizeCodeSession {code : String}
    (writes : (rules .authorizeCodes).Writes
      (holding (.of .authorizeCodes) .exclusive).held) :
    Disciplined rank rules (invalidateAuthorizeCodeSession code) .start := by
  apply disciplined_locked
  rw [Dialogue.keeps_bind]
  refine keeps_lookup rfl writes.reads fun found => ?_
  cases found with
  | none => rfl
  | some entry =>
      simp only
      rw [Dialogue.keeps_bind]
      exact keeps_modify rfl writes rfl

theorem disciplined_getRefreshTokenSession {signature : String}
    (reads : (rules .refreshTokens).Reads
      (holding (.of .refreshTokens) .shared).held) :
    Disciplined rank rules (getRefreshTokenSession signature) .start := by
  apply disciplined_rlocked
  rw [Dialogue.keeps_bind]
  refine keeps_lookup rfl reads fun found => ?_
  cases found with
  | none => rfl
  | some token =>
      simp only
      split <;> rfl

theorem disciplined_revokeRefreshToken {requestID : String}
    (index : (rules .refreshTokenRequestIDs).Reads
      (holding (.of .refreshTokenRequestIDs) .exclusive).held)
    (writes : (rules .refreshTokens).Writes
      (holding (.of .refreshTokenRequestIDs) .exclusive).held) :
    Disciplined rank rules (revokeRefreshToken requestID) .start := by
  apply disciplined_locked
  rw [Dialogue.keeps_bind]
  refine keeps_lookup rfl index fun found => ?_
  cases found with
  | none => rfl
  | some signature =>
      simp only
      rw [Dialogue.keeps_bind]
      refine keeps_lookup rfl writes.reads fun found => ?_
      cases found with
      | none => rfl
      | some token =>
          simp only
          rw [Dialogue.keeps_bind]
          exact keeps_modify rfl writes rfl

theorem disciplined_pair {index table : Table}
    (ordered : rank (.of index) < rank (.of table))
    {value : table.Value} {entry : index.Value} {key name : String}
    (writesTable : (rules table).Writes
      ((holding (.of index) .exclusive).set (.of table) .exclusive).held)
    (writesIndex : (rules index).Writes
      ((holding (.of index) .exclusive).set (.of table) .exclusive).held) :
    Disciplined rank rules
      (locked (.of index) (locked (.of table) do
        assign table key value
        assign index name entry)) .start := by
  apply keeps_locked rfl rfl (below_start (.of index))
  apply keeps_nested ordered
  rw [Dialogue.keeps_bind]
  exact keeps_modify rfl writesTable (keeps_modify rfl writesIndex rfl)

theorem disciplined_revokeAccessToken {requestID : String}
    (index : (rules .accessTokenRequestIDs).Reads
      (holding (.of .accessTokenRequestIDs) .shared).held)
    (writes : (rules .accessTokens).Writes
      ((holding (.of .accessTokenRequestIDs) .shared).set (.of .accessTokens)
        .exclusive).held) :
    Disciplined rank rules (revokeAccessToken requestID) .start := by
  apply keeps_rlocked rfl rfl (below_start _)
  rw [Dialogue.keeps_bind]
  refine keeps_lookup rfl index fun found => ?_
  cases found with
  | none =>
      exact ⟨held_holding _ _, fun other => free_release _ other _⟩
  | some signature =>
      refine keeps_nested (by decide) ?_
      exact keeps_modify rfl writes rfl

end Locked

end Discipline

theorem Method.disciplined {clients refreshTokens : Rule Lock}
    (method : Method) (fitsClients : method.FitsClients clients)
    (fitsTokens : method.FitsRefreshTokens refreshTokens) :
    Disciplined rank (guards clients refreshTokens) method.code .start := by
  cases method with
  | createOpenIDConnectSession authorizeCode requester =>
      exact Locked.disciplined_put (writes_own _)
  | getOpenIDConnectSession authorizeCode =>
      exact Locked.disciplined_inspect (reads_own _)
  | deleteOpenIDConnectSession authorizeCode =>
      exact Locked.disciplined_drop (writes_own _)
  | getUpstream name =>
      apply disciplined_rlocked
      exact keeps_lookup rfl (reads_own _) fun _ => rfl
  | getUpstreams =>
      apply disciplined_rlocked
      exact ⟨⟨rfl, reads_own _⟩, fun _ => rfl⟩
  | setUpstream upstream => exact Locked.disciplined_put (writes_own _)
  | deleteUpstream name => exact Locked.disciplined_drop (writes_own _)
  | getKubauthClient id => exact Locked.disciplined_inspect fitsClients
  | setClient client => exact Locked.disciplined_setClient fitsClients
  | deleteClient clientId => exact Locked.disciplined_drop fitsClients
  | setTokenLifespans clientID =>
      exact Locked.disciplined_setTokenLifespans fitsClients
  | rangeClients => exact Locked.disciplined_rangeClients fitsClients
  | clientAssertionJWTValid now jti =>
      exact Locked.disciplined_clientAssertionJWTValid (reads_own _)
  | setClientAssertionJWT clock jti exp =>
      exact Locked.disciplined_setClientAssertionJWT (writes_own _)
  | createAuthorizeCodeSession code requester =>
      exact Locked.disciplined_put (writes_own _)
  | getAuthorizeCodeSession code =>
      exact Locked.disciplined_getAuthorizeCodeSession (reads_own _)
  | invalidateAuthorizeCodeSession code =>
      exact Locked.disciplined_invalidateAuthorizeCodeSession (writes_own _)
  | createPKCERequestSession code requester =>
      exact Locked.disciplined_put (writes_own _)
  | getPKCERequestSession code => exact Locked.disciplined_inspect (reads_own _)
  | deletePKCERequestSession code =>
      exact Locked.disciplined_drop (writes_own _)
  | createAccessTokenSession signature requester =>
      exact Locked.disciplined_pair (by decide) rfl rfl
  | getAccessTokenSession signature =>
      exact Locked.disciplined_inspect (reads_own _)
  | deleteAccessTokenSession signature =>
      exact Locked.disciplined_drop (writes_own _)
  | createRefreshTokenSession signature accessTokenSignature requester =>
      exact Locked.disciplined_pair (by decide) fitsTokens rfl
  | getRefreshTokenSession signature =>
      exact Locked.disciplined_getRefreshTokenSession fitsTokens
  | deleteRefreshTokenSession signature =>
      exact Locked.disciplined_drop fitsTokens
  | authenticateUserWithClaims => exact disciplined_rlocked rfl
  | revokeRefreshToken requestID =>
      exact Locked.disciplined_revokeRefreshToken (writes_own _).reads fitsTokens
  | revokeAccessToken requestID =>
      exact Locked.disciplined_revokeAccessToken (reads_own _) rfl
  | getPublicKey issuer subject keyId =>
      exact Locked.disciplined_inspect (reads_own _)
  | getPublicKeys issuer subject =>
      exact Locked.disciplined_inspect (reads_own _)
  | getPublicKeyScopes issuer subject keyId =>
      exact Locked.disciplined_inspect (reads_own _)
  | createPARSession requestURI request =>
      exact Locked.disciplined_put (writes_own _)
  | getPARSession requestURI => exact Locked.disciplined_inspect (reads_own _)
  | deletePARSession requestURI =>
      exact Locked.disciplined_drop (writes_own _)

/-! ## Which methods go together -/

/-- Of the two methods that go around a mutex, none is used together with
those that rely on it. -/
def Tame (methods : Set Method) : Prop :=
  ((∀ requestID, .revokeRefreshToken requestID ∉ methods) ∨
    ∀ signature, .getRefreshTokenSession signature ∉ methods ∧
      .deleteRefreshTokenSession signature ∉ methods) ∧
  (((∀ clientID, .setTokenLifespans clientID ∉ methods) ∧
      .rangeClients ∉ methods) ∨
    (∀ client, .setClient client ∉ methods) ∧
      ∀ clientId, .deleteClient clientId ∉ methods)

variable {methods : Set Method}

theorem Tame.exists_refreshTokens (tame : Tame methods) :
    ∃ rule : Rule Lock, rule ≠ .unchecked ∧
      ∀ method ∈ methods, method.FitsRefreshTokens rule := by
  rcases tame.1 with noRevocation | noAccess
  · refine ⟨.guarded (.of .refreshTokens), by simp, ?_⟩
    intro method member
    cases method with
    | createRefreshTokenSession signature accessTokenSignature requester =>
        rfl
    | getRefreshTokenSession signature => exact reads_own _
    | deleteRefreshTokenSession signature => exact writes_own _
    | revokeRefreshToken requestID =>
        exact absurd member (noRevocation requestID)
    | _ => trivial
  · refine ⟨.guarded (.of .refreshTokenRequestIDs), by simp, ?_⟩
    intro method member
    cases method with
    | createRefreshTokenSession signature accessTokenSignature requester =>
        rfl
    | getRefreshTokenSession signature =>
        exact absurd member (noAccess signature).1
    | deleteRefreshTokenSession signature =>
        exact absurd member (noAccess signature).2
    | revokeRefreshToken requestID => exact writes_own _
    | _ => trivial

theorem Tame.exists_clients (tame : Tame methods) :
    ∃ rule : Rule Lock, rule ≠ .unchecked ∧
      ∀ method ∈ methods, method.FitsClients rule := by
  rcases tame.2 with ⟨noLifespans, noRange⟩ | ⟨noSet, noDelete⟩
  · refine ⟨.guarded (.of .clients), by simp, ?_⟩
    intro method member
    cases method with
    | getKubauthClient id => exact reads_own _
    | setClient client => exact writes_own _
    | deleteClient clientId => exact writes_own _
    | setTokenLifespans clientID => exact absurd member (noLifespans clientID)
    | rangeClients => exact absurd member noRange
    | _ => trivial
  · refine ⟨.frozen, by simp, ?_⟩
    intro method member
    cases method with
    | setClient client => exact absurd member (noSet client)
    | deleteClient clientId => exact absurd member (noDelete clientId)
    | _ => trivial

/-- Rules that check every map and that all these methods keep. -/
theorem Tame.exists_rules (tame : Tame methods) :
    ∃ rules : Table → Rule Lock, (∀ table, rules table ≠ .unchecked) ∧
      ∀ method : methods, Disciplined rank rules method.1.code .start := by
  obtain ⟨clients, checkedClients, fitsClients⟩ := tame.exists_clients
  obtain ⟨tokens, checkedTokens, fitsTokens⟩ := tame.exists_refreshTokens
  refine ⟨guards clients tokens, fun table => ?_, fun method =>
    method.1.disciplined (fitsClients _ method.2) (fitsTokens _ method.2)⟩
  cases table with
  | clients => exact checkedClients
  | refreshTokens => exact checkedTokens
  | _ => simp [guards]

theorem Method.disciplined_unchecked (method : Method) :
    Disciplined rank (guards .unchecked .unchecked) method.code .start := by
  apply method.disciplined
  · cases method <;> trivial
  · cases method <;> trivial

/-! ## Runs -/

section Runs

variable {Thread α : Type} [DecidableEq Thread] {store : MemoryStore}
  {schedule : List Thread}

/-- Whatever methods the threads call, and however they interleave, some thread
can go on until all are finished. -/
theorem never_deadlocks [Finite Thread]
    {programs : Thread → Dialogue Method.Answer α}
    {config : Config Thread Lock Table.Contents Method.Answer α}
    (run : Run (Config.Step Method.code) (.start store.view programs) schedule
      config) :
    (∀ thread, config.Finished thread) ∨
      ∃ thread after, Config.Step Method.code config thread after := by
  obtain ⟨standings, orderly⟩ :=
    Orderly.of_run Method.disciplined_unchecked run
  exact orderly.progress

/-- One thread revokes the access token that another one creates. -/
def sampleCalls (thread : Bool) : Dialogue Method.Answer Unit :=
  if thread then .ask (.revokeAccessToken "") fun _ => .done ()
  else .ask (.createAccessTokenSession "signature" default) fun _ => .done ()

/-- The revoking thread waits for the other one. -/
theorem never_deadlocks_sample :
    ∃ config : Config Bool Lock Table.Contents Method.Answer Unit,
      Run (Config.Step Method.code) (.start empty.view sampleCalls)
        [false, true, false] config ∧
      ((∀ thread, config.Finished thread) ∨
        ∃ thread after, Config.Step Method.code config thread after) := by
  have run : ∃ config : Config Bool Lock Table.Contents Method.Answer Unit,
      Run (Config.Step Method.code) (.start empty.view sampleCalls)
        [false, true, false] config :=
    ⟨_, .cons rfl (.cons rfl (.cons rfl (.nil _)))⟩
  obtain ⟨config, run⟩ := run
  exact ⟨config, run, never_deadlocks run⟩

/-- A method on the whole store is a call, or leaves the store alone. -/
theorem Method.run_cases (method : Method) (store : MemoryStore) :
    (method.run store).2 = store ∨
      ∃ call, (method.run store).2 = store.apply call := by
  cases method with
  | createOpenIDConnectSession authorizeCode requester =>
      exact .inr ⟨.createOpenIDConnectSession authorizeCode requester, rfl⟩
  | deleteOpenIDConnectSession authorizeCode =>
      exact .inr ⟨.deleteOpenIDConnectSession authorizeCode, rfl⟩
  | setUpstream upstream => exact .inr ⟨.setUpstream upstream, rfl⟩
  | deleteUpstream name => exact .inr ⟨.deleteUpstream name, rfl⟩
  | setClient client => exact .inr ⟨.setClient client, rfl⟩
  | deleteClient clientId => exact .inr ⟨.deleteClient clientId, rfl⟩
  | setClientAssertionJWT clock jti exp =>
      exact .inr ⟨.setClientAssertionJWT clock jti exp, rfl⟩
  | createAuthorizeCodeSession code requester =>
      exact .inr ⟨.createAuthorizeCodeSession code requester, rfl⟩
  | invalidateAuthorizeCodeSession code =>
      exact .inr ⟨.invalidateAuthorizeCodeSession code, rfl⟩
  | createPKCERequestSession code requester =>
      exact .inr ⟨.createPKCERequestSession code requester, rfl⟩
  | deletePKCERequestSession code =>
      exact .inr ⟨.deletePKCERequestSession code, rfl⟩
  | createAccessTokenSession signature requester =>
      exact .inr ⟨.createAccessTokenSession signature requester, rfl⟩
  | deleteAccessTokenSession signature =>
      exact .inr ⟨.deleteAccessTokenSession signature, rfl⟩
  | createRefreshTokenSession signature accessTokenSignature requester =>
      exact .inr ⟨.createRefreshTokenSession signature accessTokenSignature
        requester, rfl⟩
  | deleteRefreshTokenSession signature =>
      exact .inr ⟨.deleteRefreshTokenSession signature, rfl⟩
  | revokeRefreshToken requestID =>
      exact .inr ⟨.revokeRefreshToken requestID, rfl⟩
  | revokeAccessToken requestID =>
      exact .inr ⟨.revokeAccessToken requestID, rfl⟩
  | createPARSession requestURI request =>
      exact .inr ⟨.createPARSession requestURI request, rfl⟩
  | deletePARSession requestURI =>
      exact .inr ⟨.deletePARSession requestURI, rfl⟩
  | _ => exact .inl rfl

theorem calls_of_atomic
    {before after : Atomic Thread MemoryStore
      (fun method : methods => method.1.Answer) α} {order : List Thread}
    (run : Run (Atomic.Step fun method : methods => method.1.run) before order
      after) :
    ∃ calls, Run MemoryStore.Step before.state calls after.state := by
  induction run with
  | nil state => exact ⟨[], .nil _⟩
  | @cons start middle finish thread order taken _ induction =>
      obtain ⟨calls, later⟩ := induction
      unfold Atomic.Step Atomic.step at taken
      split at taken
      · cases taken
      · next method rest _ =>
          cases taken
          obtain unchanged | ⟨call, called⟩ := method.1.run_cases start.state
          · simp only [unchanged] at later
            exact ⟨calls, later⟩
          · exact ⟨call :: calls, .cons called later⟩

/-- However the threads interleave, what they and the store come to is what
they come to by whole methods, one after the other, each at a step of its own
thread. -/
theorem methods_atomic (tame : Tame methods)
    {programs : Thread → Dialogue (fun method : methods => method.1.Answer) α}
    {config : Config Thread Lock Table.Contents
      (fun method : methods => method.1.Answer) α}
    (run : Run (Config.Step fun method : methods => method.1.code)
      (.start store.view programs) schedule config) :
    ∃ order final, order.Sublist schedule ∧
      Run (Atomic.Step fun method : methods => method.1.run)
        { state := store, threads := programs } order final ∧
      (∃ calls, Run MemoryStore.Step store calls final.state) ∧
      (∀ thread rest, config.threads thread = .idle rest →
        final.threads thread = rest) ∧
      ((∀ thread, ∃ rest, config.threads thread = .idle rest) →
        final.state.view = config.shared.store) := by
  obtain ⟨rules, checked, disciplined⟩ := tame.exists_rules
  obtain ⟨order, final, sublist, happened, threads, left⟩ :=
    atomic_of_run (fun method state => method.1.alone_code state) checked
      disciplined run
  exact ⟨order, final, sublist, happened, calls_of_atomic happened, threads,
    left⟩

end Runs

/-- The two methods of the sample. -/
def sampleMethods : Set Method :=
  {.createAccessTokenSession "signature" default, .revokeAccessToken ""}

/-- One thread revokes the access token that another one creates. -/
def sampleThreads (thread : Bool) :
    Dialogue (fun method : sampleMethods => method.1.Answer) Unit :=
  if thread then .ask ⟨_, .inr rfl⟩ fun _ => .done ()
  else .ask ⟨_, .inl rfl⟩ fun _ => .done ()

theorem tame_sampleMethods : Tame sampleMethods := by
  simp [Tame, sampleMethods]

theorem methods_atomic_sample :
    let schedule := [false, true, false, false, false, false, false, false,
      false, false, true, true, false, true, true, true, true, true, true]
    ∃ config : Config Bool Lock Table.Contents
        (fun method : sampleMethods => method.1.Answer) Unit,
      (∀ thread, ∃ rest, config.threads thread = .idle rest) ∧
      ∃ order final, order.Sublist schedule ∧
        Run (Atomic.Step fun method : sampleMethods => method.1.run)
          { state := empty, threads := sampleThreads } order final ∧
        final.state.view = config.shared.store := by
  intro schedule
  have run : ∃ config : Config Bool Lock Table.Contents
        (fun method : sampleMethods => method.1.Answer) Unit,
      Run (Config.Step fun method : sampleMethods => method.1.code)
        (.start empty.view sampleThreads) schedule config ∧
      ∀ thread, ∃ rest, config.threads thread = .idle rest :=
    ⟨_, .cons rfl (.cons rfl (.cons rfl (.cons rfl (.cons rfl (.cons rfl
      (.cons rfl (.cons rfl (.cons rfl (.cons rfl (.cons rfl (.cons rfl
      (.cons rfl (.cons rfl (.cons rfl (.cons rfl (.cons rfl (.cons rfl
      (.cons rfl (.nil _))))))))))))))))))),
      fun thread => by cases thread <;> exact ⟨_, rfl⟩⟩
  obtain ⟨config, run, idle⟩ := run
  obtain ⟨order, final, sublist, happened, -, -, left⟩ :=
    methods_atomic tame_sampleMethods run
  exact ⟨config, idle, order, final, sublist, happened, left idle⟩

/-! ## Races -/

section Races

variable {Thread α : Type} [DecidableEq Thread] {thread : Thread}
  {shared last : Shared Thread Lock Table.Contents}

theorem advances_lookup {table : Table} {key : String}
    {following : Option table.Value → Code Lock Table.Contents α}
    {code : Code Lock Table.Contents α} {found : Option table.Value}
    (present : GoMap.get (shared.store table) key = found)
    (later : Advances thread shared (following found) last code) :
    Advances thread shared (lookup table key >>= following) last code := by
  subst present
  exact .step rfl later

/-- `RevokeRefreshToken` gets to its write without the mutex of the tokens. -/
theorem advances_revokeRefreshToken {requestID signature : String}
    {token : StoreRefreshToken}
    (free : shared.mutexes (.of .refreshTokenRequestIDs) =
      { writer := none, readers := [] })
    (indexed : GoMap.get (shared.store .refreshTokenRequestIDs) requestID =
      some signature)
    (stored : GoMap.get (shared.store .refreshTokens) signature = some token) :
    ∃ change next,
      Advances thread shared (Locked.revokeRefreshToken requestID)
        (shared.setMutex (.of .refreshTokenRequestIDs)
          { writer := some thread, readers := [] })
        (.ask (.update .refreshTokens change) next) := by
  have arrived : Advances thread shared (Locked.revokeRefreshToken requestID)
      (shared.setMutex (.of .refreshTokenRequestIDs)
        { writer := some thread, readers := [] })
      ((assign .refreshTokens signature { token with active := false } >>=
          fun _ => pure none) >>= fun result =>
        .ask (.unlock (.of .refreshTokenRequestIDs)) fun _ => .done result) :=
    .locked free (advances_lookup indexed (advances_lookup stored (.refl _ _)))
  exact ⟨_, _, arrived⟩

end Races

/-- Threads that call these methods can come to a race. -/
def Races (methods : Set Method) : Prop :=
  ∃ (Thread : Type) (_ : DecidableEq Thread) (store : MemoryStore)
    (programs : Thread →
      Dialogue (fun method : methods => method.1.Answer) Unit)
    (schedule : List Thread)
    (config : Config Thread Lock Table.Contents
      (fun method : methods => method.1.Answer) Unit)
    (table : Table),
    Run (Config.Step fun method : methods => method.1.code)
      (.start store.view programs) schedule config ∧ config.Race table

/-- Two threads with one call each. -/
def twoCalls (first second : methods) (thread : Bool) :
    Dialogue (fun method : methods => method.1.Answer) Unit :=
  if thread then .ask second fun _ => .done ()
  else .ask first fun _ => .done ()

/-- No mutex is held. -/
def unlocked (Thread : Type) (store : MemoryStore) :
    Shared Thread Lock Table.Contents where
  store := store.view
  mutexes := fun _ => { writer := none, readers := [] }

/-- The method gets to an access of the table that conflicts with a write. -/
def Method.Meets (method : Method) (table : Table)
    (shared : Shared Bool Lock Table.Contents) : Prop :=
  ∃ last action next,
    Advances true shared method.code last (.ask action next) ∧
      (action = .read table ∨ ∃ change, action = .update table change)

theorem races_of_meets {writer other : Method} (member : writer ∈ methods)
    (otherMember : other ∈ methods) {store : MemoryStore} {table : Table}
    {middle : Shared Bool Lock Table.Contents}
    (arrives : ∃ change next, Advances false (unlocked Bool store) writer.code
      middle (.ask (.update table change) next))
    (meets : other.Meets table middle) : Races methods := by
  obtain ⟨change, next, arrived⟩ := arrives
  obtain ⟨last, action, following, met, conflicts⟩ := meets
  let first : methods := ⟨writer, member⟩
  let second : methods := ⟨other, otherMember⟩
  have writes : twoCalls first second false = .ask first fun _ => .done () :=
    rfl
  have follows : twoCalls first second true = .ask second fun _ => .done () :=
    rfl
  have raced : ∃ schedule config,
      Run (Config.Step fun method : methods => method.1.code)
        (.start store.view (twoCalls first second)) schedule config ∧
      config.Race table :=
    exists_race Bool.false_ne_true writes follows arrived met conflicts
  obtain ⟨schedule, config, run, race⟩ := raced
  exact ⟨Bool, inferInstance, store, twoCalls first second, schedule, config,
    table, run, race⟩

section Meetings

variable {shared : Shared Bool Lock Table.Contents}

theorem meets_getRefreshTokenSession
    (free : shared.mutexes (.of .refreshTokens) =
      { writer := none, readers := [] }) (signature : String) :
    (Method.getRefreshTokenSession signature).Meets .refreshTokens shared := by
  have arrived : Advances true shared
      (Locked.getRefreshTokenSession signature) _ _ :=
    .rlocked free (.refl _ _)
  exact ⟨_, _, _, arrived, .inl rfl⟩

theorem meets_deleteRefreshTokenSession
    (free : shared.mutexes (.of .refreshTokens) =
      { writer := none, readers := [] }) (signature : String) :
    (Method.deleteRefreshTokenSession signature).Meets .refreshTokens
      shared := by
  have arrived : Advances true shared
      (Locked.drop .refreshTokens signature) _ _ :=
    .locked free (.refl _ _)
  exact ⟨_, _, _, arrived, .inr ⟨_, rfl⟩⟩

theorem meets_setTokenLifespans (clientID : String) :
    (Method.setTokenLifespans clientID).Meets .clients shared :=
  ⟨_, _, _, .refl shared (Locked.setTokenLifespans clientID), .inl rfl⟩

theorem meets_rangeClients : Method.rangeClients.Meets .clients shared :=
  ⟨_, _, _, .refl shared Locked.rangeClients, .inl rfl⟩

end Meetings

theorem advances_setClient (client : KubauthClient) :
    ∃ change next, Advances false (unlocked Bool .empty)
      (Method.setClient client).code
      ((unlocked Bool .empty).setMutex (.of .clients)
        { writer := some false, readers := [] })
      (.ask (.update .clients change) next) := by
  have arrived : Advances false (unlocked Bool .empty)
      (Locked.setClient client)
      ((unlocked Bool .empty).setMutex (.of .clients)
        { writer := some false, readers := [] })
      ((assign .clients client.clientId client >>= fun _ => pure none) >>=
        fun result => .ask (.unlock (.of .clients)) fun _ => .done result) :=
    .locked rfl (advances_lookup rfl (.refl _ _))
  exact ⟨_, _, arrived⟩

theorem advances_deleteClient (clientId : String) :
    ∃ change next, Advances false (unlocked Bool .empty)
      (Method.deleteClient clientId).code
      ((unlocked Bool .empty).setMutex (.of .clients)
        { writer := some false, readers := [] })
      (.ask (.update .clients change) next) := by
  have arrived : Advances false (unlocked Bool .empty)
      (Locked.drop .clients clientId) _ _ :=
    .locked rfl (.refl _ _)
  exact ⟨_, _, arrived⟩

theorem races_of_revokeRefreshToken {requestID : String} {other : Method}
    (revokes : .revokeRefreshToken requestID ∈ methods)
    (member : other ∈ methods)
    (meets : ∀ shared : Shared Bool Lock Table.Contents,
      shared.mutexes (.of .refreshTokens) =
        { writer := none, readers := [] } →
      other.Meets .refreshTokens shared) :
    Races methods := by
  let store : MemoryStore :=
    { MemoryStore.empty with
      refreshTokenRequestIDs := [(requestID, "")]
      refreshTokens := [("", default)] }
  have indexed : GoMap.get store.refreshTokenRequestIDs requestID =
      some "" := by
    simp [store, GoMap.get]
  have arrives : ∃ change next, Advances false (unlocked Bool store)
      (Locked.revokeRefreshToken requestID)
      ((unlocked Bool store).setMutex (.of .refreshTokenRequestIDs)
        { writer := some false, readers := [] })
      (.ask (.update .refreshTokens change) next) :=
    advances_revokeRefreshToken rfl indexed rfl
  exact races_of_meets revokes member arrives (meets _ rfl)

/-- Threads can come to a race exactly if they use one of the two methods that
go around a mutex together with one that relies on it. -/
theorem races_iff_not_tame (methods : Set Method) :
    Races methods ↔ ¬Tame methods := by
  constructor
  · rintro ⟨Thread, _, store, programs, schedule, config, table, run, race⟩ tame
    obtain ⟨rules, checked, disciplined⟩ := tame.exists_rules
    obtain ⟨standings, orderly⟩ := Orderly.of_run disciplined run
    exact orderly.not_race (checked table) race
  · intro wild
    rw [Tame, not_and_or, not_or, not_or] at wild
    simp only [not_and_or, not_forall, not_not] at wild
    rcases wild with ⟨⟨requestID, revokes⟩, signature, gets | deletes⟩ |
      ⟨reads, writes⟩
    · exact races_of_revokeRefreshToken revokes gets fun _ free =>
        meets_getRefreshTokenSession free signature
    · exact races_of_revokeRefreshToken revokes deletes fun _ free =>
        meets_deleteRefreshTokenSession free signature
    · rcases writes with ⟨client, sets⟩ | ⟨clientId, deletes⟩ <;>
        rcases reads with ⟨clientID, looks⟩ | ranges
      · exact races_of_meets sets looks (advances_setClient client)
          (meets_setTokenLifespans clientID)
      · exact races_of_meets sets ranges (advances_setClient client)
          meets_rangeClients
      · exact races_of_meets deletes looks (advances_deleteClient clientId)
          (meets_setTokenLifespans clientID)
      · exact races_of_meets deletes ranges (advances_deleteClient clientId)
          meets_rangeClients

end Kubauth.MemoryStore
