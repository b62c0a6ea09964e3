import Kubauth.Dialogue
import Kubauth.Proto

/-!
# Authentication against an LDAP directory

The authenticator looks a login up in a directory, tries the password with a
bind as the entry that it found, and collects the groups of that entry.  What
it sends over the connection and what the directory answers is a dialogue: the
answers are not constrained in any way.
-/

namespace Kubauth.Ldap

abbrev Bytes := List UInt8

structure UserSearch where
  baseDN : String
  filter : String
  loginAttr : String
  scope : String
  numericalIdAttr : String
  emailAttr : String
  cnAttr : String
  deriving Repr, DecidableEq, Inhabited

structure GroupSearch where
  baseDN : String
  filter : String
  scope : String
  nameAttr : String
  linkUserAttr : String
  linkGroupAttr : String
  deriving Repr, DecidableEq, Inhabited

structure LdapConfig where
  host : String
  port : String
  timeoutSec : Int
  insecureNoSSL : Bool
  insecureSkipVerify : Bool
  startTLS : Bool
  rootCaPath : String
  rootCaData : String
  rootCaSecret : String
  rootCaSecretPath : String
  clientCert : String
  clientKey : String
  bindDN : String
  bindPW : String
  userSearch : UserSearch
  groupSearch : GroupSearch
  deriving Repr, DecidableEq, Inhabited

/-- The fields of `tls.Config` that are set: nil root CAs are those of the
host. -/
structure TlsConfig where
  serverName : String
  insecureSkipVerify : Bool
  rootCAs : Option (List Bytes)
  certificates : List Bytes
  deriving Repr, DecidableEq, Inhabited

inductive Scope where
  | baseObject
  | singleLevel
  | wholeSubtree
  deriving Repr, DecidableEq, Inhabited

structure LdapAuthenticator where
  config : LdapConfig
  hostPort : String
  tlsConfig : TlsConfig
  userSearchScope : Scope
  groupSearchScope : Scope
  deriving Repr, DecidableEq, Inhabited

/-! ## The connection -/

/-- The result codes that the authenticator distinguishes. -/
inductive ResultCode where
  | invalidCredentials
  | constraintViolation
  | other (code : Nat)
  deriving Repr, DecidableEq, Inhabited

/-- An error of the client library, without a code unless the directory itself
reported it. -/
structure Failure where
  resultCode : Option ResultCode
  message : String
  deriving Repr, DecidableEq, Inhabited

structure SearchRequest where
  baseDN : String
  filter : String
  scope : Scope
  attributes : List String
  deriving Repr, DecidableEq, Inhabited

structure Entry where
  dn : String
  attributes : List (String × List String)
  deriving Repr, DecidableEq, Inhabited

/-- What is presented by `UnauthenticatedBind` and by `Bind`. -/
inductive Credentials where
  | unauthenticated (dn : String)
  | simple (dn password : String)
  deriving Repr, DecidableEq, Inhabited

/-- What is done with a connection. -/
inductive Query where
  | dial (hostPort : String)
  | dialTLS (hostPort : String) (tlsConfig : TlsConfig)
  | startTLS (tlsConfig : TlsConfig)
  | bind (credentials : Credentials)
  | search (request : SearchRequest)
  | close
  deriving Repr, DecidableEq, Inhabited

/-- What comes back.  Closing is not seen to fail. -/
abbrev Reply : Query → Type
  | .search _ => Except Failure (List Entry)
  | .close => Unit
  | .dial _ | .dialTLS _ _ | .startTLS _ | .bind _ => Except Failure Unit

abbrev Session := Dialogue.Fallible String Reply

def ask (query : Query) : Session (Reply query) :=
  ExceptT.lift (Dialogue.query query)

/-- Functions of the libraries: `ldap.EscapeFilter` and the verb `%q`. -/
structure Primitives where
  escapeFilter : String → String
  quote : String → String

/-! ## Entries -/

/-- The values of the first attribute of that name. -/
def attributeValues (entry : Entry) (name : String) : List String :=
  match entry.attributes.find? fun a => a.1 = name with
  | some a => a.2
  | none => []

def getAttrs (entry : Entry) (name : String) : List String :=
  if name = "DN" then [entry.dn] else attributeValues entry name

def getAttr (entry : Entry) (name : String) : String :=
  if name = "" then "" else (getAttrs entry name).head?.getD ""

/-- `Entry.GetAttributeValue`, for which `DN` is a name like another. -/
def getAttributeValue (entry : Entry) (name : String) : String :=
  (attributeValues entry name).head?.getD ""

/-- The value of a nonempty sequence of decimal digits. -/
def magnitude (digits : List Char) : Option Nat :=
  if digits ≠ [] ∧ digits.all Char.isDigit then
    some (Nat.ofDigitChars 10 digits 0)
  else none

/-- `strconv.Atoi`, on a machine with integers of 64 bits. -/
def atoi (text : String) : Option Int :=
  let inRange (value : Int) : Option Int :=
    if -9223372036854775808 ≤ value ∧ value ≤ 9223372036854775807 then
      some value
    else none
  match text.toList with
  | '-' :: digits => (magnitude digits).bind fun value => inRange (-value)
  | '+' :: digits => (magnitude digits).bind fun value => inRange value
  | digits => (magnitude digits).bind fun value => inRange value

/-! ## Binds -/

/-- `conn.UnauthenticatedBind` and `conn.Bind`. -/
def bindAs (credentials : Credentials) :
    Dialogue Reply (Except Failure Unit) :=
  Dialogue.query (Query.bind credentials)

/-- The bind of the service account, which is not authenticated where there is
no password. -/
def serviceBind (bindDN bindPW : String) :
    Dialogue Reply (Except Failure Unit) :=
  if bindPW = "" then bindAs (.unauthenticated bindDN)
  else bindAs (.simple bindDN bindPW)

def checkPassword (user : Entry) (password : String) : Session Status := do
  if password = "" then pure Status.passwordFail
  else
    match ← ExceptT.lift (bindAs (.simple user.dn password)) with
    | .ok () => pure Status.passwordChecked
    | .error failure =>
        match failure.resultCode with
        | some .invalidCredentials => pure Status.passwordFail
        | some .constraintViolation => pure Status.passwordFail
        | _ =>
            throw ("conn.Bind(" ++ user.dn ++ ", xxxxxxxx) => failed: " ++
              failure.message)

/-! ## Searches -/

def scopeString : Scope → String
  | .baseObject => "base"
  | .singleLevel => "one"
  | .wholeSubtree => "sub"

def searchDesc (request : SearchRequest) : String :=
  "baseDN:'" ++ request.baseDN ++ "' scope:'" ++ scopeString request.scope ++
    "' filter:'" ++ request.filter ++ "'"

/-- `conn.Search`, with the text of its error. -/
def search (request : SearchRequest) : Session (List Entry) := do
  match ← ask (.search request) with
  | .ok entries => pure entries
  | .error failure =>
      throw ("search [" ++ searchDesc request ++ "] failed: " ++
        failure.message)

variable (primitives : Primitives)

/-- An attribute that has a value, under the filter of the configuration if
there is one. -/
def attributeFilter (configured name value : String) : String :=
  let filter := "(" ++ name ++ "=" ++ primitives.escapeFilter value ++ ")"
  if configured ≠ "" then "(&" ++ configured ++ filter ++ ")" else filter

namespace LdapAuthenticator

variable (l : LdapAuthenticator)

def userFilter (login : String) : String :=
  attributeFilter primitives l.config.userSearch.filter
    l.config.userSearch.loginAttr login

def userRequest (login : String) : SearchRequest :=
  { baseDN := l.config.userSearch.baseDN
    filter := l.userFilter primitives login
    scope := l.userSearchScope
    attributes := l.config.userSearch.loginAttr ::
      [l.config.userSearch.numericalIdAttr, l.config.userSearch.emailAttr,
        l.config.userSearch.cnAttr,
        l.config.groupSearch.linkUserAttr].filter (· ≠ "") }

/-- The search for the groups of one value of the link attribute.  A link to
the DN of the group reads that very entry. -/
def groupRequest (attr : String) : SearchRequest :=
  if l.config.groupSearch.linkGroupAttr.toList.map Char.toUpper =
      ['D', 'N'] then
    { baseDN := attr
      filter :=
        if l.config.groupSearch.filter ≠ "" then l.config.groupSearch.filter
        else "(objectClass=top)"
      scope := .baseObject
      attributes := [l.config.groupSearch.nameAttr] }
  else
    { baseDN := l.config.groupSearch.baseDN
      filter := attributeFilter primitives l.config.groupSearch.filter
        l.config.groupSearch.linkGroupAttr attr
      scope := l.groupSearchScope
      attributes := [l.config.groupSearch.nameAttr] }

def lookupUser (login : String) : Session (Option Entry) := do
  match ← search (l.userRequest primitives login) with
  | [] => pure none
  | [entry] => pure (some entry)
  | entries =>
      throw ("filter returned multiple (" ++ toString entries.length ++
        ") results: " ++ primitives.quote (l.userFilter primitives login))

def groupNames (ldapGroups : List Entry) : List String :=
  (ldapGroups.map fun ldapGroup =>
    getAttributeValue ldapGroup l.config.groupSearch.nameAttr).filter (· ≠ "")

def lookupGroups (user : Entry) : Session (List String) := do
  let ldapGroups ← (getAttrs user l.config.groupSearch.linkUserAttr).foldlM
    (fun ldapGroups attr => do
      let entries ← search (l.groupRequest primitives attr)
      pure (ldapGroups ++ entries)) []
  pure (l.groupNames ldapGroups)

/-- What the service account presents. -/
def serviceCredentials : Credentials :=
  if l.config.bindPW = "" then .unauthenticated l.config.bindDN
  else .simple l.config.bindDN l.config.bindPW

theorem serviceBind_eq :
    serviceBind l.config.bindDN l.config.bindPW =
      bindAs l.serviceCredentials := by
  by_cases empty : l.config.bindPW = ""
  · simp only [serviceBind, serviceCredentials, if_pos empty]
  · simp only [serviceBind, serviceCredentials, if_neg empty]

/-- The bind as `Authenticate` performs it, twice. -/
def bindService : Session Unit := do
  match ← ExceptT.lift (serviceBind l.config.bindDN l.config.bindPW) with
  | .ok () => pure ()
  | .error failure =>
      throw ("conn.Bind(" ++ l.config.bindDN ++ ", xxxxxxxx) failed: " ++
        failure.message)

/-! ## Authentication -/

/-- Opening the connection of `do`. -/
def connect : Session Unit := do
  if l.config.insecureNoSSL then
    match ← ask (.dial l.hostPort) with
    | .ok () => pure ()
    | .error failure => throw ("failed to connect: " ++ failure.message)
  else if l.config.startTLS then
    match ← ask (.dial l.hostPort) with
    | .error failure => throw ("failed to connect: " ++ failure.message)
    | .ok () =>
        match ← ask (.startTLS l.tlsConfig) with
        | .ok () => pure ()
        -- The connection is not closed here.
        | .error failure => throw ("start TLS failed: " ++ failure.message)
  else
    match ← ask (.dialTLS l.hostPort l.tlsConfig) with
    | .ok () => pure ()
    | .error failure => throw ("failed to connect: " ++ failure.message)

/-- The function `do`: what is done with a connection that is open, and then
closed whether or not it succeeded. -/
def doConn {α : Type} (f : Session α) : Session α := do
  l.connect
  let outcome ← ExceptT.lift f.run
  ask .close
  ExceptT.mk (pure outcome)

/-- What is said of the password, which is not tried when it is empty. -/
def passwordStatus (entry : Entry) (password : String) : Session Status :=
  if password ≠ "" then checkPassword entry password
  else pure Status.passwordUnchecked

/-- The part of `examine` for an entry that was found. -/
def examineEntry (password : String) (entry : Entry) :
    Session (Entry × Status × List String) := do
  let status ← passwordStatus entry password
  -- The password was tried as the user.
  l.bindService
  let groups ← l.lookupGroups primitives entry
  pure (entry, status, groups)

/-- The function that `Authenticate` passes to `do`: the entry, if there is
one, with the status of the password and the groups. -/
def examine (request : IdentityRequest) :
    Session (Option (Entry × Status × List String)) := do
  l.bindService
  match ← l.lookupUser primitives request.login with
  | none => pure none
  | some entry =>
      let found ← l.examineEntry primitives request.password entry
      pure (some found)

/-- A number that is not one is logged and left out. -/
def userOf (login : String) (entry : Entry) (groups : List String) : User :=
  let uidStr := getAttr entry l.config.userSearch.numericalIdAttr
  { initUser login with
    groups := groups
    uid := if uidStr ≠ "" then atoi uidStr else none
    emails := getAttrs entry l.config.userSearch.emailAttr
    name := getAttr entry l.config.userSearch.cnAttr }

/-- The response to a request, from what was found for it. -/
def responseOf (login : String) :
    Option (Entry × Status × List String) → IdentityResponse
  | none =>
      { user := initUser login
        status := Status.userNotFound
        details := []
        authority := "" }
  | some (entry, status, groups) =>
      { user := l.userOf login entry groups
        status := status
        details := []
        authority := "" }

def authenticate (request : IdentityRequest) : Session IdentityResponse := do
  let found ← l.doConn (l.examine primitives request)
  pure (l.responseOf request.login found)

end LdapAuthenticator

end Kubauth.Ldap
