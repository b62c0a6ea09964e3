import Kubauth.Fosite
import Kubauth.Upstreams

/-!
# The memory store

Every table is a map.  A method that can fail returns the store beside its
error, and a method that cannot returns the store alone.  These are the methods
as they run alone; their locks, and how far these make them atomic, come later.
-/

namespace Kubauth

/-- The errors of the OAuth2 library that the store reports. -/
inductive StoreError where
  | notFound
  | inactiveToken
  | invalidatedAuthorizeCode
  | jtiKnown
  deriving Repr, DecidableEq

structure ClientDuplicationError where
  existingClient : String
  deriving Repr, DecidableEq

def ClientDuplicationError.message (failure : ClientDuplicationError) :
    String :=
  "duplicate client_id with " ++ failure.existingClient

structure StoreAuthorizeCode where
  active : Bool
  requester : Requester
  deriving Repr, Inhabited

structure StoreRefreshToken where
  active : Bool
  accessTokenSignature : String
  requester : Requester
  deriving Repr, Inhabited

/-- `jose.JSONWebKey`, which the store only hands out. -/
structure JSONWebKey where
  document : String
  deriving Repr, DecidableEq

structure PublicKeyScopes where
  key : JSONWebKey
  scopes : List String
  deriving Repr, DecidableEq

structure SubjectPublicKeys where
  subject : String
  keys : GoMap String PublicKeyScopes
  deriving Repr

structure IssuerPublicKeys where
  issuer : String
  keysBySub : GoMap String SubjectPublicKeys
  deriving Repr

structure MemoryStore where
  clients : GoMap String KubauthClient
  authorizeCodes : GoMap String StoreAuthorizeCode
  idSessions : GoMap String Requester
  accessTokens : GoMap String Requester
  refreshTokens : GoMap String StoreRefreshToken
  pkces : GoMap String Requester
  blacklistedJTIs : GoMap String Int
  accessTokenRequestIDs : GoMap String String
  refreshTokenRequestIDs : GoMap String String
  issuerPublicKeys : GoMap String IssuerPublicKeys
  parSessions : GoMap String Requester
  upstreams : GoMap String Upstream
  deriving Repr, Inhabited

namespace MemoryStore

/-- `NewMemoryStore`. -/
def empty : MemoryStore :=
  { clients := []
    authorizeCodes := []
    idSessions := []
    accessTokens := []
    refreshTokens := []
    pkces := []
    blacklistedJTIs := []
    accessTokenRequestIDs := []
    refreshTokenRequestIDs := []
    issuerPublicKeys := []
    parSessions := []
    upstreams := [] }

/-! ## OpenID Connect sessions -/

def createOpenIDConnectSession (store : MemoryStore) (authorizeCode : String)
    (requester : Requester) : MemoryStore :=
  { store with
    idSessions := GoMap.set store.idSessions authorizeCode requester }

def deleteOpenIDConnectSession (store : MemoryStore)
    (authorizeCode : String) : MemoryStore :=
  { store with idSessions := GoMap.delete store.idSessions authorizeCode }

/-! ## Upstreams -/

def getUpstream (store : MemoryStore) (name : String) : Option Upstream :=
  GoMap.get store.upstreams name

/-- The values of the map.  Go lists them in no particular order. -/
def getUpstreams (store : MemoryStore) : List Upstream :=
  store.upstreams.map Prod.snd

def setUpstream (store : MemoryStore) (upstream : Upstream) : MemoryStore :=
  { store with
    upstreams := GoMap.set store.upstreams upstream.name upstream }

def deleteUpstream (store : MemoryStore) (name : String) : MemoryStore :=
  { store with upstreams := GoMap.delete store.upstreams name }

/-! ## Clients -/

def getKubauthClient (store : MemoryStore) (id : String) :
    Option KubauthClient × Option StoreError :=
  match GoMap.get store.clients id with
  | none => (none, some .notFound)
  | some client => (some client, none)

/-- A client id belongs to the resource that registered it. -/
def setClient (store : MemoryStore) (client : KubauthClient) :
    MemoryStore × Option ClientDuplicationError :=
  let registered :=
    { store with
      clients := GoMap.set store.clients client.clientId client }
  match GoMap.get store.clients client.clientId with
  | some oldClient =>
      if oldClient.getK8sId ≠ client.getK8sId then
        (store, some { existingClient := oldClient.getK8sId })
      else (registered, none)
  | none => (registered, none)

def deleteClient (store : MemoryStore) (clientId : String) : MemoryStore :=
  { store with clients := GoMap.delete store.clients clientId }

/-! ## JWT assertions -/

def clientAssertionJWTValid (store : MemoryStore) (now : Int)
    (jti : String) : Option StoreError :=
  match GoMap.get store.blacklistedJTIs jti with
  | some exp => if now < exp then some .jtiKnown else none
  | none => none

/-- The expired entries are dropped before the new one is looked up.  The loop
over the entries reads the clock anew at each of them: `clock` lists these
readings. -/
def setClientAssertionJWT (store : MemoryStore) (clock : String → Int)
    (jti : String) (exp : Int) : MemoryStore × Option StoreError :=
  let remaining := store.blacklistedJTIs.filter fun entry =>
    clock entry.1 ≤ entry.2
  match GoMap.get remaining jti with
  | some _ =>
      ({ store with blacklistedJTIs := remaining }, some .jtiKnown)
  | none =>
      ({ store with blacklistedJTIs := GoMap.set remaining jti exp }, none)

def isJWTUsed (store : MemoryStore) (now : Int) (jti : String) : Bool :=
  (store.clientAssertionJWTValid now jti).isSome

def markJWTUsedForTime (store : MemoryStore) (clock : String → Int)
    (jti : String) (exp : Int) : MemoryStore × Option StoreError :=
  store.setClientAssertionJWT clock jti exp

/-! ## Public keys of issuers -/

/-- The keys of a subject, as its issuer has them. -/
def subjectKeys (issuerKeys : Option IssuerPublicKeys) (subject : String) :
    Option (GoMap String PublicKeyScopes) := do
  let subKeys ← GoMap.get (← issuerKeys).keysBySub subject
  return subKeys.keys

def publicKey (issuerKeys : Option IssuerPublicKeys)
    (subject keyId : String) : Option JSONWebKey × Option StoreError :=
  match (subjectKeys issuerKeys subject).bind (GoMap.get · keyId) with
  | some keyScopes => (some keyScopes.key, none)
  | none => (none, some .notFound)

/-- A subject without keys has no key set. -/
def publicKeys (issuerKeys : Option IssuerPublicKeys) (subject : String) :
    List JSONWebKey × Option StoreError :=
  match subjectKeys issuerKeys subject with
  | none => ([], some .notFound)
  | some [] => ([], some .notFound)
  | some keys => (keys.map fun entry => entry.2.key, none)

def publicKeyScopes (issuerKeys : Option IssuerPublicKeys)
    (subject keyId : String) : List String × Option StoreError :=
  match (subjectKeys issuerKeys subject).bind (GoMap.get · keyId) with
  | some keyScopes => (keyScopes.scopes, none)
  | none => ([], some .notFound)

def getPublicKey (store : MemoryStore) (issuer subject keyId : String) :
    Option JSONWebKey × Option StoreError :=
  publicKey (GoMap.get store.issuerPublicKeys issuer) subject keyId

def getPublicKeys (store : MemoryStore) (issuer subject : String) :
    List JSONWebKey × Option StoreError :=
  publicKeys (GoMap.get store.issuerPublicKeys issuer) subject

def getPublicKeyScopes (store : MemoryStore)
    (issuer subject keyId : String) : List String × Option StoreError :=
  publicKeyScopes (GoMap.get store.issuerPublicKeys issuer) subject keyId

/-! ## Pushed authorization requests -/

def createPARSession (store : MemoryStore) (requestURI : String)
    (request : Requester) : MemoryStore :=
  { store with
    parSessions := GoMap.set store.parSessions requestURI request }

def getPARSession (store : MemoryStore) (requestURI : String) :
    Option Requester × Option StoreError :=
  match GoMap.get store.parSessions requestURI with
  | none => (none, some .notFound)
  | some request => (some request, none)

def deletePARSession (store : MemoryStore) (requestURI : String) :
    MemoryStore :=
  { store with parSessions := GoMap.delete store.parSessions requestURI }

/-! ## Authorization codes -/

def createAuthorizeCodeSession (store : MemoryStore) (code : String)
    (requester : Requester) : MemoryStore :=
  { store with
    authorizeCodes := GoMap.set store.authorizeCodes code
      { active := true, requester := requester } }

/-- An invalidated code is returned beside its error. -/
def getAuthorizeCodeSession (store : MemoryStore) (code : String) :
    Option Requester × Option StoreError :=
  match GoMap.get store.authorizeCodes code with
  | none => (none, some .notFound)
  | some entry =>
      if entry.active then (some entry.requester, none)
      else (some entry.requester, some .invalidatedAuthorizeCode)

/-- Succeeds on every code that is stored, active or not. -/
def invalidateAuthorizeCodeSession (store : MemoryStore) (code : String) :
    MemoryStore × Option StoreError :=
  match GoMap.get store.authorizeCodes code with
  | none => (store, some .notFound)
  | some entry =>
      ({ store with
         authorizeCodes := GoMap.set store.authorizeCodes code
           { entry with active := false } },
        none)

/-! ## PKCE sessions -/

def createPKCERequestSession (store : MemoryStore) (code : String)
    (requester : Requester) : MemoryStore :=
  { store with pkces := GoMap.set store.pkces code requester }

def deletePKCERequestSession (store : MemoryStore) (code : String) :
    MemoryStore :=
  { store with pkces := GoMap.delete store.pkces code }

/-! ## Tokens -/

def createAccessTokenSession (store : MemoryStore) (signature : String)
    (requester : Requester) : MemoryStore :=
  { store with
    accessTokens := GoMap.set store.accessTokens signature requester
    accessTokenRequestIDs :=
      GoMap.set store.accessTokenRequestIDs requester.id signature }

def getAccessTokenSession (store : MemoryStore) (signature : String) :
    Option Requester × Option StoreError :=
  match GoMap.get store.accessTokens signature with
  | none => (none, some .notFound)
  | some requester => (some requester, none)

def deleteAccessTokenSession (store : MemoryStore) (signature : String) :
    MemoryStore :=
  { store with accessTokens := GoMap.delete store.accessTokens signature }

def createRefreshTokenSession (store : MemoryStore)
    (signature accessTokenSignature : String) (requester : Requester) :
    MemoryStore :=
  { store with
    refreshTokens := GoMap.set store.refreshTokens signature
      { active := true
        accessTokenSignature := accessTokenSignature
        requester := requester }
    refreshTokenRequestIDs :=
      GoMap.set store.refreshTokenRequestIDs requester.id signature }

/-- An inactive token is returned beside its error. -/
def getRefreshTokenSession (store : MemoryStore) (signature : String) :
    Option Requester × Option StoreError :=
  match GoMap.get store.refreshTokens signature with
  | none => (none, some .notFound)
  | some token =>
      if token.active then (some token.requester, none)
      else (some token.requester, some .inactiveToken)

def deleteRefreshTokenSession (store : MemoryStore) (signature : String) :
    MemoryStore :=
  { store with refreshTokens := GoMap.delete store.refreshTokens signature }

/-- Deactivates the one refresh token that the index holds for the request. -/
def revokeRefreshToken (store : MemoryStore) (requestID : String) :
    MemoryStore × Option StoreError :=
  match GoMap.get store.refreshTokenRequestIDs requestID with
  | none => (store, none)
  | some signature =>
      match GoMap.get store.refreshTokens signature with
      | none => (store, some .notFound)
      | some token =>
          ({ store with
             refreshTokens := GoMap.set store.refreshTokens signature
               { token with active := false } },
            none)

/-- Deletes the one access token that the index holds for the request. -/
def revokeAccessToken (store : MemoryStore) (requestID : String) :
    MemoryStore :=
  match GoMap.get store.accessTokenRequestIDs requestID with
  | none => store
  | some signature => store.deleteAccessTokenSession signature

/-- The presented signature is not looked at. -/
def rotateRefreshToken (store : MemoryStore)
    (requestID _refreshTokenSignature : String) :
    MemoryStore × Option StoreError :=
  match store.revokeRefreshToken requestID with
  | (revoked, some failure) => (revoked, some failure)
  | (revoked, none) => (revoked.revokeAccessToken requestID, none)

/-! ## Calls -/

/-- The calls that write to the store. -/
inductive Call where
  | createOpenIDConnectSession (code : String) (requester : Requester)
  | deleteOpenIDConnectSession (code : String)
  | setUpstream (upstream : Upstream)
  | deleteUpstream (name : String)
  | setClient (client : KubauthClient)
  | deleteClient (clientId : String)
  | setClientAssertionJWT (clock : String → Int) (jti : String) (exp : Int)
  | createPARSession (requestURI : String) (request : Requester)
  | deletePARSession (requestURI : String)
  | createAuthorizeCodeSession (code : String) (requester : Requester)
  | invalidateAuthorizeCodeSession (code : String)
  | createPKCERequestSession (code : String) (requester : Requester)
  | deletePKCERequestSession (code : String)
  | createAccessTokenSession (signature : String) (requester : Requester)
  | deleteAccessTokenSession (signature : String)
  | createRefreshTokenSession (signature accessTokenSignature : String)
      (requester : Requester)
  | deleteRefreshTokenSession (signature : String)
  | revokeRefreshToken (requestID : String)
  | revokeAccessToken (requestID : String)
  | rotateRefreshToken (requestID signature : String)

/-- The store after a call, whether or not the call reports an error. -/
def apply (store : MemoryStore) : Call → MemoryStore
  | .createOpenIDConnectSession code requester =>
      store.createOpenIDConnectSession code requester
  | .deleteOpenIDConnectSession code => store.deleteOpenIDConnectSession code
  | .setUpstream upstream => store.setUpstream upstream
  | .deleteUpstream name => store.deleteUpstream name
  | .setClient client => (store.setClient client).1
  | .deleteClient clientId => store.deleteClient clientId
  | .setClientAssertionJWT clock jti exp =>
      (store.setClientAssertionJWT clock jti exp).1
  | .createPARSession requestURI request =>
      store.createPARSession requestURI request
  | .deletePARSession requestURI => store.deletePARSession requestURI
  | .createAuthorizeCodeSession code requester =>
      store.createAuthorizeCodeSession code requester
  | .invalidateAuthorizeCodeSession code =>
      (store.invalidateAuthorizeCodeSession code).1
  | .createPKCERequestSession code requester =>
      store.createPKCERequestSession code requester
  | .deletePKCERequestSession code => store.deletePKCERequestSession code
  | .createAccessTokenSession signature requester =>
      store.createAccessTokenSession signature requester
  | .deleteAccessTokenSession signature =>
      store.deleteAccessTokenSession signature
  | .createRefreshTokenSession signature accessTokenSignature requester =>
      store.createRefreshTokenSession signature accessTokenSignature requester
  | .deleteRefreshTokenSession signature =>
      store.deleteRefreshTokenSession signature
  | .revokeRefreshToken requestID => (store.revokeRefreshToken requestID).1
  | .revokeAccessToken requestID => store.revokeAccessToken requestID
  | .rotateRefreshToken requestID signature =>
      (store.rotateRefreshToken requestID signature).1

/-- One call on the store, as a transition. -/
def Step (before : MemoryStore) (call : Call) (after : MemoryStore) : Prop :=
  after = before.apply call

end MemoryStore

end Kubauth
