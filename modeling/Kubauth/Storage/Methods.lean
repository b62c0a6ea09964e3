import Kubauth.Locking.Atomicity
import Kubauth.Storage.Memory

/-!
# The methods of the memory store, lock by lock

The store has a read-write mutex for every map.  Each method is given here as
the sequence of its locks and its accesses to the maps, and beside it as the
function that it computes when it runs alone.
-/

namespace Kubauth.MemoryStore

open Locking (Code locked rlocked alone)

/-! ## Tables and mutexes -/

inductive Table where
  | clients
  | authorizeCodes
  | idSessions
  | accessTokens
  | refreshTokens
  | pkces
  | blacklistedJTIs
  | accessTokenRequestIDs
  | refreshTokenRequestIDs
  | issuerPublicKeys
  | parSessions
  | upstreams
  deriving Repr, DecidableEq

abbrev Table.Value : Table → Type
  | .clients => KubauthClient
  | .authorizeCodes => StoreAuthorizeCode
  | .idSessions => Requester
  | .accessTokens => Requester
  | .refreshTokens => StoreRefreshToken
  | .pkces => Requester
  | .blacklistedJTIs => Int
  | .accessTokenRequestIDs => String
  | .refreshTokenRequestIDs => String
  | .issuerPublicKeys => IssuerPublicKeys
  | .parSessions => Requester
  | .upstreams => Upstream

abbrev Table.Contents (table : Table) := GoMap String table.Value

/-- The mutex of each map, and `usersMutex`, under which the authenticator is
called. -/
inductive Lock where
  | of (table : Table)
  | users
  deriving Repr, DecidableEq

/-- The maps of the store, by their names. -/
def view (store : MemoryStore) : (table : Table) → table.Contents
  | .clients => store.clients
  | .authorizeCodes => store.authorizeCodes
  | .idSessions => store.idSessions
  | .accessTokens => store.accessTokens
  | .refreshTokens => store.refreshTokens
  | .pkces => store.pkces
  | .blacklistedJTIs => store.blacklistedJTIs
  | .accessTokenRequestIDs => store.accessTokenRequestIDs
  | .refreshTokenRequestIDs => store.refreshTokenRequestIDs
  | .issuerPublicKeys => store.issuerPublicKeys
  | .parSessions => store.parSessions
  | .upstreams => store.upstreams

/-- The store with another map in the place of one. -/
def replace (store : MemoryStore) :
    (table : Table) → table.Contents → MemoryStore
  | .clients, contents => { store with clients := contents }
  | .authorizeCodes, contents => { store with authorizeCodes := contents }
  | .idSessions, contents => { store with idSessions := contents }
  | .accessTokens, contents => { store with accessTokens := contents }
  | .refreshTokens, contents => { store with refreshTokens := contents }
  | .pkces, contents => { store with pkces := contents }
  | .blacklistedJTIs, contents => { store with blacklistedJTIs := contents }
  | .accessTokenRequestIDs, contents =>
      { store with accessTokenRequestIDs := contents }
  | .refreshTokenRequestIDs, contents =>
      { store with refreshTokenRequestIDs := contents }
  | .issuerPublicKeys, contents => { store with issuerPublicKeys := contents }
  | .parSessions, contents => { store with parSessions := contents }
  | .upstreams, contents => { store with upstreams := contents }

theorem view_replace (store : MemoryStore) (table : Table)
    (contents : table.Contents) :
    (store.replace table contents).view =
      Function.update store.view table contents := by
  funext other
  by_cases same : other = table
  · subst same
    rw [Function.update_self]
    cases other <;> rfl
  · rw [Function.update_of_ne same]
    cases table <;> cases other <;> first | rfl | exact absurd rfl same

/-! ## Accesses -/

variable {α : Type}

/-- `m[key]`. -/
def lookup (table : Table) (key : String) :
    Code Lock Table.Contents (Option table.Value) :=
  .ask (.read table) fun contents => .done (GoMap.get contents key)

/-- All entries, for a loop. -/
def entries (table : Table) : Code Lock Table.Contents table.Contents :=
  .ask (.read table) .done

def modify (table : Table) (change : table.Contents → table.Contents) :
    Code Lock Table.Contents Unit :=
  .ask (.update table change) fun _ => .done ()

/-- `m[key] = value`. -/
def assign (table : Table) (key : String) (value : table.Value) :
    Code Lock Table.Contents Unit :=
  modify table fun contents => GoMap.set contents key value

/-- `delete(m, key)`. -/
def remove (table : Table) (key : String) : Code Lock Table.Contents Unit :=
  modify table fun contents => GoMap.delete contents key

/-! ## Methods -/

namespace Locked

/-- What a look-up returns: the value, or the error that there is none. -/
def found : Option α → Option α × Option StoreError
  | none => (none, some .notFound)
  | some value => (some value, none)

/-- A value is looked up under the mutex of its map. -/
def inspect (table : Table) (key : String)
    (answer : Option table.Value → α) : Code Lock Table.Contents α :=
  rlocked (.of table) do
    return answer (← lookup table key)

def find (table : Table) (key : String) :
    Code Lock Table.Contents (Option table.Value × Option StoreError) :=
  inspect table key found

/-- A value is stored under the mutex of its map. -/
def put (table : Table) (key : String) (value : table.Value) :
    Code Lock Table.Contents Unit :=
  locked (.of table) (assign table key value)

/-- A value is deleted under the mutex of its map. -/
def drop (table : Table) (key : String) : Code Lock Table.Contents Unit :=
  locked (.of table) (remove table key)

def setClient (client : KubauthClient) :
    Code Lock Table.Contents (Option ClientDuplicationError) :=
  locked (.of .clients) do
    match ← lookup .clients client.clientId with
    | some oldClient =>
        if oldClient.getK8sId ≠ client.getK8sId then
          return some { existingClient := oldClient.getK8sId }
        else
          assign .clients client.clientId client
          return none
    | none =>
        assign .clients client.clientId client
        return none

/-- No lock is taken.  The type of the stored clients never is the expected
one. -/
def setTokenLifespans (clientID : String) :
    Code Lock Table.Contents (StoreError ⊕ String) := do
  match ← lookup .clients clientID with
  | some _ =>
      return .inr
        "failed to set token lifespans due to failed client type assertion"
  | none => return .inl .notFound

/-- The loop of `handleIndex` over the clients, which takes no lock. -/
def rangeClients : Code Lock Table.Contents (List KubauthClient) := do
  return (← entries .clients).map Prod.snd

def clientAssertionJWTValid (now : Int) (jti : String) :
    Code Lock Table.Contents (Option StoreError) :=
  rlocked (.of .blacklistedJTIs) do
    match ← lookup .blacklistedJTIs jti with
    | some exp => return if now < exp then some .jtiKnown else none
    | none => return none

/-- The loop that drops the expired entries is one change of the map. -/
def setClientAssertionJWT (clock : String → Int) (jti : String) (exp : Int) :
    Code Lock Table.Contents (Option StoreError) :=
  locked (.of .blacklistedJTIs) do
    modify .blacklistedJTIs fun contents =>
      contents.filter fun entry => clock entry.1 ≤ entry.2
    match ← lookup .blacklistedJTIs jti with
    | some _ => return some .jtiKnown
    | none =>
        assign .blacklistedJTIs jti exp
        return none

def getAuthorizeCodeSession (code : String) :
    Code Lock Table.Contents (Option Requester × Option StoreError) :=
  rlocked (.of .authorizeCodes) do
    match ← lookup .authorizeCodes code with
    | none => return (none, some .notFound)
    | some entry =>
        if entry.active then return (some entry.requester, none)
        else return (some entry.requester, some .invalidatedAuthorizeCode)

def invalidateAuthorizeCodeSession (code : String) :
    Code Lock Table.Contents (Option StoreError) :=
  locked (.of .authorizeCodes) do
    match ← lookup .authorizeCodes code with
    | none => return some .notFound
    | some entry =>
        assign .authorizeCodes code { entry with active := false }
        return none

def createAccessTokenSession (signature : String) (requester : Requester) :
    Code Lock Table.Contents Unit :=
  locked (.of .accessTokenRequestIDs) (locked (.of .accessTokens) do
    assign .accessTokens signature requester
    assign .accessTokenRequestIDs requester.id signature)

def createRefreshTokenSession (signature accessTokenSignature : String)
    (requester : Requester) : Code Lock Table.Contents Unit :=
  locked (.of .refreshTokenRequestIDs) (locked (.of .refreshTokens) do
    assign .refreshTokens signature
      { active := true
        accessTokenSignature := accessTokenSignature
        requester := requester }
    assign .refreshTokenRequestIDs requester.id signature)

def getRefreshTokenSession (signature : String) :
    Code Lock Table.Contents (Option Requester × Option StoreError) :=
  rlocked (.of .refreshTokens) do
    match ← lookup .refreshTokens signature with
    | none => return (none, some .notFound)
    | some token =>
        if token.active then return (some token.requester, none)
        else return (some token.requester, some .inactiveToken)

/-- The tokens are accessed without their own mutex. -/
def revokeRefreshToken (requestID : String) :
    Code Lock Table.Contents (Option StoreError) :=
  locked (.of .refreshTokenRequestIDs) do
    match ← lookup .refreshTokenRequestIDs requestID with
    | none => return none
    | some signature =>
        match ← lookup .refreshTokens signature with
        | none => return some .notFound
        | some token =>
            assign .refreshTokens signature { token with active := false }
            return none

def revokeAccessToken (requestID : String) : Code Lock Table.Contents Unit :=
  rlocked (.of .accessTokenRequestIDs) do
    match ← lookup .accessTokenRequestIDs requestID with
    | none => return ()
    | some signature => drop .accessTokens signature

end Locked

inductive Method where
  | createOpenIDConnectSession (authorizeCode : String) (requester : Requester)
  | getOpenIDConnectSession (authorizeCode : String)
  | deleteOpenIDConnectSession (authorizeCode : String)
  | getUpstream (name : String)
  | getUpstreams
  | setUpstream (upstream : Upstream)
  | deleteUpstream (name : String)
  | getKubauthClient (id : String)
  | setClient (client : KubauthClient)
  | deleteClient (clientId : String)
  | setTokenLifespans (clientID : String)
  | rangeClients
  | clientAssertionJWTValid (now : Int) (jti : String)
  | setClientAssertionJWT (clock : String → Int) (jti : String) (exp : Int)
  | createAuthorizeCodeSession (code : String) (requester : Requester)
  | getAuthorizeCodeSession (code : String)
  | invalidateAuthorizeCodeSession (code : String)
  | createPKCERequestSession (code : String) (requester : Requester)
  | getPKCERequestSession (code : String)
  | deletePKCERequestSession (code : String)
  | createAccessTokenSession (signature : String) (requester : Requester)
  | getAccessTokenSession (signature : String)
  | deleteAccessTokenSession (signature : String)
  | createRefreshTokenSession (signature accessTokenSignature : String)
      (requester : Requester)
  | getRefreshTokenSession (signature : String)
  | deleteRefreshTokenSession (signature : String)
  | authenticateUserWithClaims
  | revokeRefreshToken (requestID : String)
  | revokeAccessToken (requestID : String)
  | getPublicKey (issuer subject keyId : String)
  | getPublicKeys (issuer subject : String)
  | getPublicKeyScopes (issuer subject keyId : String)
  | createPARSession (requestURI : String) (request : Requester)
  | getPARSession (requestURI : String)
  | deletePARSession (requestURI : String)

namespace Method

/-- What a method returns.  Where it always returns the nil error, there is
nothing to return. -/
def Answer : Method → Type
  | getOpenIDConnectSession _ => Option Requester × Option StoreError
  | getUpstream _ => Option Upstream
  | getUpstreams => List Upstream
  | getKubauthClient _ => Option KubauthClient × Option StoreError
  | setClient _ => Option ClientDuplicationError
  | setTokenLifespans _ => StoreError ⊕ String
  | rangeClients => List KubauthClient
  | clientAssertionJWTValid _ _ => Option StoreError
  | setClientAssertionJWT _ _ _ => Option StoreError
  | getAuthorizeCodeSession _ => Option Requester × Option StoreError
  | invalidateAuthorizeCodeSession _ => Option StoreError
  | getPKCERequestSession _ => Option Requester × Option StoreError
  | getAccessTokenSession _ => Option Requester × Option StoreError
  | getRefreshTokenSession _ => Option Requester × Option StoreError
  | revokeRefreshToken _ => Option StoreError
  | getPublicKey _ _ _ => Option JSONWebKey × Option StoreError
  | getPublicKeys _ _ => List JSONWebKey × Option StoreError
  | getPublicKeyScopes _ _ _ => List String × Option StoreError
  | getPARSession _ => Option Requester × Option StoreError
  | _ => Unit

/-- The locks and accesses of a method. -/
def code : (method : Method) → Code Lock Table.Contents method.Answer
  | createOpenIDConnectSession authorizeCode requester =>
      Locked.put .idSessions authorizeCode requester
  | getOpenIDConnectSession authorizeCode =>
      Locked.find .idSessions authorizeCode
  | deleteOpenIDConnectSession authorizeCode =>
      Locked.drop .idSessions authorizeCode
  | getUpstream name => rlocked (.of .upstreams) (lookup .upstreams name)
  | getUpstreams =>
      rlocked (.of .upstreams) do
        return (← entries .upstreams).map Prod.snd
  | setUpstream upstream => Locked.put .upstreams upstream.name upstream
  | deleteUpstream name => Locked.drop .upstreams name
  | getKubauthClient id => Locked.find .clients id
  | setClient client => Locked.setClient client
  | deleteClient clientId => Locked.drop .clients clientId
  | setTokenLifespans clientID => Locked.setTokenLifespans clientID
  | rangeClients => Locked.rangeClients
  | clientAssertionJWTValid now jti => Locked.clientAssertionJWTValid now jti
  | setClientAssertionJWT clock jti exp =>
      Locked.setClientAssertionJWT clock jti exp
  | createAuthorizeCodeSession code requester =>
      Locked.put .authorizeCodes code
        { active := true, requester := requester }
  | getAuthorizeCodeSession code => Locked.getAuthorizeCodeSession code
  | invalidateAuthorizeCodeSession code =>
      Locked.invalidateAuthorizeCodeSession code
  | createPKCERequestSession code requester => Locked.put .pkces code requester
  | getPKCERequestSession code => Locked.find .pkces code
  | deletePKCERequestSession code => Locked.drop .pkces code
  | createAccessTokenSession signature requester =>
      Locked.createAccessTokenSession signature requester
  | getAccessTokenSession signature => Locked.find .accessTokens signature
  | deleteAccessTokenSession signature => Locked.drop .accessTokens signature
  | createRefreshTokenSession signature accessTokenSignature requester =>
      Locked.createRefreshTokenSession signature accessTokenSignature requester
  | getRefreshTokenSession signature => Locked.getRefreshTokenSession signature
  | deleteRefreshTokenSession signature => Locked.drop .refreshTokens signature
  | authenticateUserWithClaims => rlocked .users (return ())
  | revokeRefreshToken requestID => Locked.revokeRefreshToken requestID
  | revokeAccessToken requestID => Locked.revokeAccessToken requestID
  | getPublicKey issuer subject keyId =>
      Locked.inspect .issuerPublicKeys issuer (publicKey · subject keyId)
  | getPublicKeys issuer subject =>
      Locked.inspect .issuerPublicKeys issuer (publicKeys · subject)
  | getPublicKeyScopes issuer subject keyId =>
      Locked.inspect .issuerPublicKeys issuer (publicKeyScopes · subject keyId)
  | createPARSession requestURI request =>
      Locked.put .parSessions requestURI request
  | getPARSession requestURI => Locked.find .parSessions requestURI
  | deletePARSession requestURI => Locked.drop .parSessions requestURI

/-- The method as a function of the whole store. -/
def run : (method : Method) → MemoryStore → method.Answer × MemoryStore
  | createOpenIDConnectSession authorizeCode requester, store =>
      ((), store.createOpenIDConnectSession authorizeCode requester)
  | getOpenIDConnectSession authorizeCode, store =>
      (Locked.found (GoMap.get store.idSessions authorizeCode), store)
  | deleteOpenIDConnectSession authorizeCode, store =>
      ((), store.deleteOpenIDConnectSession authorizeCode)
  | getUpstream name, store => (store.getUpstream name, store)
  | getUpstreams, store => (store.getUpstreams, store)
  | setUpstream upstream, store => ((), store.setUpstream upstream)
  | deleteUpstream name, store => ((), store.deleteUpstream name)
  | getKubauthClient id, store => (store.getKubauthClient id, store)
  | setClient client, store => (store.setClient client).swap
  | deleteClient clientId, store => ((), store.deleteClient clientId)
  | setTokenLifespans clientID, store =>
      (match GoMap.get store.clients clientID with
        | some _ =>
            .inr ("failed to set token lifespans due to failed client " ++
              "type assertion")
        | none => .inl .notFound,
        store)
  | rangeClients, store => (store.clients.map Prod.snd, store)
  | clientAssertionJWTValid now jti, store =>
      (store.clientAssertionJWTValid now jti, store)
  | setClientAssertionJWT clock jti exp, store =>
      (store.setClientAssertionJWT clock jti exp).swap
  | createAuthorizeCodeSession code requester, store =>
      ((), store.createAuthorizeCodeSession code requester)
  | getAuthorizeCodeSession code, store =>
      (store.getAuthorizeCodeSession code, store)
  | invalidateAuthorizeCodeSession code, store =>
      (store.invalidateAuthorizeCodeSession code).swap
  | createPKCERequestSession code requester, store =>
      ((), store.createPKCERequestSession code requester)
  | getPKCERequestSession code, store =>
      (Locked.found (GoMap.get store.pkces code), store)
  | deletePKCERequestSession code, store =>
      ((), store.deletePKCERequestSession code)
  | createAccessTokenSession signature requester, store =>
      ((), store.createAccessTokenSession signature requester)
  | getAccessTokenSession signature, store =>
      (store.getAccessTokenSession signature, store)
  | deleteAccessTokenSession signature, store =>
      ((), store.deleteAccessTokenSession signature)
  | createRefreshTokenSession signature accessTokenSignature requester,
      store =>
      ((), store.createRefreshTokenSession signature accessTokenSignature
        requester)
  | getRefreshTokenSession signature, store =>
      (store.getRefreshTokenSession signature, store)
  | deleteRefreshTokenSession signature, store =>
      ((), store.deleteRefreshTokenSession signature)
  | authenticateUserWithClaims, store => ((), store)
  | revokeRefreshToken requestID, store =>
      (store.revokeRefreshToken requestID).swap
  | revokeAccessToken requestID, store =>
      ((), store.revokeAccessToken requestID)
  | getPublicKey issuer subject keyId, store =>
      (store.getPublicKey issuer subject keyId, store)
  | getPublicKeys issuer subject, store =>
      (store.getPublicKeys issuer subject, store)
  | getPublicKeyScopes issuer subject keyId, store =>
      (store.getPublicKeyScopes issuer subject keyId, store)
  | createPARSession requestURI request, store =>
      ((), store.createPARSession requestURI request)
  | getPARSession requestURI, store => (store.getPARSession requestURI, store)
  | deletePARSession requestURI, store =>
      ((), store.deletePARSession requestURI)

end Method

/-! ## Methods that run alone -/

namespace Locked

variable (store : MemoryStore)

theorem alone_lookup {β : Type} (table : Table) (key : String)
    (following : Option table.Value → Code Lock Table.Contents β) :
    alone (lookup table key >>= following) store.view =
      alone (following (GoMap.get (store.view table) key)) store.view :=
  rfl

theorem alone_modify (table : Table)
    (change : table.Contents → table.Contents) (result : α) :
    alone (modify table change >>= fun _ => pure result) store.view =
      (result, (store.replace table (change (store.view table))).view) := by
  rw [view_replace]
  rfl

theorem alone_put (table : Table) (key : String) (value : table.Value) :
    alone (put table key value) store.view =
      ((), (store.replace table
        (GoMap.set (store.view table) key value)).view) := by
  unfold put
  rw [Locking.alone_locked]
  exact alone_modify store table _ ()

theorem alone_drop (table : Table) (key : String) :
    alone (drop table key) store.view =
      ((), (store.replace table
        (GoMap.delete (store.view table) key)).view) := by
  unfold drop
  rw [Locking.alone_locked]
  exact alone_modify store table _ ()

theorem alone_setClient (client : KubauthClient) :
    alone (setClient client) store.view =
      ((store.setClient client).2, (store.setClient client).1.view) := by
  unfold setClient MemoryStore.setClient
  rw [Locking.alone_locked, alone_lookup]
  simp only [view]
  cases GoMap.get store.clients client.clientId with
  | none => exact alone_modify store .clients _ none
  | some oldClient =>
      by_cases same : oldClient.getK8sId = client.getK8sId
      · simp only [same, ne_eq, not_true_eq_false, if_false]
        exact alone_modify store .clients _ none
      · simp only [same, ne_eq, not_false_eq_true, if_true]
        rfl

theorem alone_setTokenLifespans (clientID : String) :
    alone (setTokenLifespans clientID) store.view =
      (((Method.setTokenLifespans clientID).run store).1, store.view) := by
  unfold setTokenLifespans Method.run
  rw [alone_lookup]
  simp only [view]
  cases GoMap.get store.clients clientID <;> rfl

theorem alone_clientAssertionJWTValid (now : Int) (jti : String) :
    alone (clientAssertionJWTValid now jti) store.view =
      (store.clientAssertionJWTValid now jti, store.view) := by
  unfold clientAssertionJWTValid MemoryStore.clientAssertionJWTValid
  rw [Locking.alone_rlocked, alone_lookup]
  simp only [view]
  cases GoMap.get store.blacklistedJTIs jti <;> rfl

theorem alone_setClientAssertionJWT (clock : String → Int) (jti : String)
    (exp : Int) :
    alone (setClientAssertionJWT clock jti exp) store.view =
      ((store.setClientAssertionJWT clock jti exp).2,
        (store.setClientAssertionJWT clock jti exp).1.view) := by
  unfold setClientAssertionJWT MemoryStore.setClientAssertionJWT
  let young := store.blacklistedJTIs.filter fun entry =>
    clock entry.1 ≤ entry.2
  let remaining : MemoryStore := store.replace .blacklistedJTIs young
  have first : alone (modify .blacklistedJTIs fun contents =>
      contents.filter fun entry => clock entry.1 ≤ entry.2) store.view =
      ((), remaining.view) :=
    alone_modify store .blacklistedJTIs _ ()
  have second : GoMap.get (remaining.view .blacklistedJTIs) jti =
      GoMap.get young jti := rfl
  rw [Locking.alone_locked, Locking.alone_bind, first, alone_lookup, second]
  simp only
  cases GoMap.get young jti with
  | none => exact alone_modify remaining .blacklistedJTIs _ none
  | some _ => rfl

theorem alone_getAuthorizeCodeSession (code : String) :
    alone (getAuthorizeCodeSession code) store.view =
      (store.getAuthorizeCodeSession code, store.view) := by
  unfold getAuthorizeCodeSession MemoryStore.getAuthorizeCodeSession
  rw [Locking.alone_rlocked, alone_lookup]
  simp only [view]
  cases GoMap.get store.authorizeCodes code with
  | none => rfl
  | some entry => cases active : entry.active <;> simp [active]

theorem alone_invalidateAuthorizeCodeSession (code : String) :
    alone (invalidateAuthorizeCodeSession code) store.view =
      ((store.invalidateAuthorizeCodeSession code).2,
        (store.invalidateAuthorizeCodeSession code).1.view) := by
  unfold invalidateAuthorizeCodeSession
    MemoryStore.invalidateAuthorizeCodeSession
  rw [Locking.alone_locked, alone_lookup]
  simp only [view]
  cases GoMap.get store.authorizeCodes code with
  | none => rfl
  | some entry => exact alone_modify store .authorizeCodes _ none

theorem alone_createAccessTokenSession (signature : String)
    (requester : Requester) :
    alone (createAccessTokenSession signature requester) store.view =
      ((), (store.createAccessTokenSession signature requester).view) := by
  let stored := store.replace .accessTokens
    (GoMap.set store.accessTokens signature requester)
  have first : alone (assign .accessTokens signature requester) store.view =
      ((), stored.view) :=
    alone_modify store .accessTokens _ ()
  unfold createAccessTokenSession
  rw [Locking.alone_locked, Locking.alone_locked, Locking.alone_bind, first]
  exact alone_modify stored .accessTokenRequestIDs _ ()

theorem alone_createRefreshTokenSession
    (signature accessTokenSignature : String) (requester : Requester) :
    alone (createRefreshTokenSession signature accessTokenSignature requester)
        store.view =
      ((), (store.createRefreshTokenSession signature accessTokenSignature
        requester).view) := by
  let token : StoreRefreshToken :=
    { active := true
      accessTokenSignature := accessTokenSignature
      requester := requester }
  let stored := store.replace .refreshTokens
    (GoMap.set store.refreshTokens signature token)
  have first : alone (assign .refreshTokens signature token) store.view =
      ((), stored.view) :=
    alone_modify store .refreshTokens _ ()
  unfold createRefreshTokenSession
  rw [Locking.alone_locked, Locking.alone_locked, Locking.alone_bind, first]
  exact alone_modify stored .refreshTokenRequestIDs _ ()

theorem alone_getRefreshTokenSession (signature : String) :
    alone (getRefreshTokenSession signature) store.view =
      (store.getRefreshTokenSession signature, store.view) := by
  unfold getRefreshTokenSession MemoryStore.getRefreshTokenSession
  rw [Locking.alone_rlocked, alone_lookup]
  simp only [view]
  cases GoMap.get store.refreshTokens signature with
  | none => rfl
  | some token => cases active : token.active <;> simp [active]

theorem alone_revokeRefreshToken (requestID : String) :
    alone (revokeRefreshToken requestID) store.view =
      ((store.revokeRefreshToken requestID).2,
        (store.revokeRefreshToken requestID).1.view) := by
  unfold revokeRefreshToken MemoryStore.revokeRefreshToken
  rw [Locking.alone_locked, alone_lookup]
  simp only [view]
  cases GoMap.get store.refreshTokenRequestIDs requestID with
  | none => rfl
  | some signature =>
      simp only
      rw [alone_lookup]
      simp only [view]
      cases GoMap.get store.refreshTokens signature with
      | none => rfl
      | some token => exact alone_modify store .refreshTokens _ none

theorem alone_revokeAccessToken (requestID : String) :
    alone (revokeAccessToken requestID) store.view =
      ((), (store.revokeAccessToken requestID).view) := by
  unfold revokeAccessToken MemoryStore.revokeAccessToken
  rw [Locking.alone_rlocked, alone_lookup]
  simp only [view]
  cases GoMap.get store.accessTokenRequestIDs requestID with
  | none => rfl
  | some signature => exact alone_drop store .accessTokens signature

end Locked

/-- A method that runs alone computes its function. -/
theorem Method.alone_code (method : Method) (store : MemoryStore) :
    alone method.code store.view =
      ((method.run store).1, (method.run store).2.view) := by
  cases method with
  | createOpenIDConnectSession authorizeCode requester =>
      exact Locked.alone_put store .idSessions _ _
  | getOpenIDConnectSession authorizeCode => rfl
  | deleteOpenIDConnectSession authorizeCode =>
      exact Locked.alone_drop store .idSessions _
  | getUpstream name => rfl
  | getUpstreams => rfl
  | setUpstream upstream => exact Locked.alone_put store .upstreams _ _
  | deleteUpstream name => exact Locked.alone_drop store .upstreams _
  | getKubauthClient id =>
      change (Locked.found (GoMap.get store.clients id), store.view) =
        (store.getKubauthClient id, store.view)
      unfold MemoryStore.getKubauthClient
      cases GoMap.get store.clients id <;> rfl
  | setClient client => exact Locked.alone_setClient store client
  | deleteClient clientId => exact Locked.alone_drop store .clients _
  | setTokenLifespans clientID =>
      exact Locked.alone_setTokenLifespans store clientID
  | rangeClients => rfl
  | clientAssertionJWTValid now jti =>
      exact Locked.alone_clientAssertionJWTValid store now jti
  | setClientAssertionJWT clock jti exp =>
      exact Locked.alone_setClientAssertionJWT store clock jti exp
  | createAuthorizeCodeSession code requester =>
      exact Locked.alone_put store .authorizeCodes _ _
  | getAuthorizeCodeSession code =>
      exact Locked.alone_getAuthorizeCodeSession store code
  | invalidateAuthorizeCodeSession code =>
      exact Locked.alone_invalidateAuthorizeCodeSession store code
  | createPKCERequestSession code requester =>
      exact Locked.alone_put store .pkces _ _
  | getPKCERequestSession code => rfl
  | deletePKCERequestSession code => exact Locked.alone_drop store .pkces _
  | createAccessTokenSession signature requester =>
      exact Locked.alone_createAccessTokenSession store signature requester
  | getAccessTokenSession signature =>
      change (Locked.found (GoMap.get store.accessTokens signature),
        store.view) = (store.getAccessTokenSession signature, store.view)
      unfold MemoryStore.getAccessTokenSession
      cases GoMap.get store.accessTokens signature <;> rfl
  | deleteAccessTokenSession signature =>
      exact Locked.alone_drop store .accessTokens _
  | createRefreshTokenSession signature accessTokenSignature requester =>
      exact Locked.alone_createRefreshTokenSession store signature
        accessTokenSignature requester
  | getRefreshTokenSession signature =>
      exact Locked.alone_getRefreshTokenSession store signature
  | deleteRefreshTokenSession signature =>
      exact Locked.alone_drop store .refreshTokens _
  | authenticateUserWithClaims => rfl
  | revokeRefreshToken requestID =>
      exact Locked.alone_revokeRefreshToken store requestID
  | revokeAccessToken requestID =>
      exact Locked.alone_revokeAccessToken store requestID
  | getPublicKey issuer subject keyId => rfl
  | getPublicKeys issuer subject => rfl
  | getPublicKeyScopes issuer subject keyId => rfl
  | createPARSession requestURI request =>
      exact Locked.alone_put store .parSessions _ _
  | getPARSession requestURI =>
      change (Locked.found (GoMap.get store.parSessions requestURI),
        store.view) = (store.getPARSession requestURI, store.view)
      unfold MemoryStore.getPARSession
      cases GoMap.get store.parSessions requestURI <;> rfl
  | deletePARSession requestURI =>
      exact Locked.alone_drop store .parSessions _

end Kubauth.MemoryStore
