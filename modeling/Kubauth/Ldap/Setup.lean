import Kubauth.GoMap
import Kubauth.Ldap.Discipline

/-!
# From the configuration to the connection

`New` checks a configuration, fills in defaults, and fetches the certificates
that the directory is checked against.  Together with what an authentication
sends, this says which certificates stand behind every password that leaves
the connector.
-/

namespace Kubauth.Ldap

open Dialogue

/-- What `New` is told by its host and by the API server, and functions of the
libraries. -/
structure Host where
  isAbs : String → Bool
  join : String → String → String
  clean : String → String
  clean_ne : ∀ path, clean path ≠ ""
  /-- The bytes that `base64.StdEncoding.Decode` writes. -/
  decodeBase64 : String → Except String Bytes
  readFile : String → Except String Bytes
  trimSpace : Bytes → String
  getSecret : String → String → Except String (GoMap String Bytes)
  /-- The certificates that `AppendCertsFromPEM` appends. -/
  certificatesOf : Bytes → List Bytes
  loadX509KeyPair : String → String → Except String Bytes
  quote : String → String

/-- `misc.CountTrue`. -/
def countTrue (xs : List Bool) : Nat :=
  xs.foldl (fun count x => if x then count + 1 else count) 0

section

variable (host : Host) (config : LdapConfig)

def adjustPath (baseFolder path : String) : String :=
  if path ≠ "" then
    host.clean (if host.isAbs path then path else host.join baseFolder path)
  else path

def checkRequired : Except String Unit :=
  if config.host = "" then .error "missing required ldap.host"
  else if config.userSearch.baseDN = "" then
    .error "missing required ldap.userSearch.baseDN"
  else if config.userSearch.loginAttr = "" then
    .error "missing required ldap.userSearch.loginAttr"
  else if config.groupSearch.baseDN ≠ "" then
    -- The first of these checks never fails.
    if config.groupSearch.baseDN = "" then
      .error "missing required ldap.groupSearch.baseDN"
    else if config.groupSearch.nameAttr = "" then
      .error "missing required ldap.groupSearch.nameAttr"
    else if config.groupSearch.linkGroupAttr = "" then
      .error "missing required ldap.groupSearch.linkGroupAttr"
    else if config.groupSearch.linkUserAttr = "" then
      .error "missing required ldap.groupSearch.linkUserAttr"
    else .ok ()
  else .ok ()

def withDefaults (configFolder : String) : LdapConfig :=
  { config with
    port :=
      if config.port = "" then
        if config.insecureNoSSL then "389" else "636"
      else config.port
    timeoutSec := if config.timeoutSec = 0 then 10 else config.timeoutSec
    rootCaPath := adjustPath host configFolder config.rootCaPath
    clientCert := adjustPath host configFolder config.clientCert
    clientKey := adjustPath host configFolder config.clientKey }

/-! ## Root certificates -/

def getCurrentNamespace (ns : String) : Except String String :=
  if ns ≠ "" then .ok ns
  else
    match host.readFile
        "/var/run/secrets/kubernetes.io/serviceaccount/namespace" with
    | .error failure =>
        .error ("error reading namespace file: " ++ failure ++
          ". If running out or Kubernetes context, set namespace explicitly" ++
          " (--namespace)")
    | .ok data => .ok (host.trimSpace data)

/-- Where root certificates come from. -/
inductive CaSource where
  | data
  | path
  | secret
  deriving Repr, DecidableEq

namespace CaSource

def configured : CaSource → Bool
  | .data => config.rootCaData ≠ ""
  | .path => config.rootCaPath ≠ ""
  | .secret => config.rootCaSecret ≠ ""

/-- The buffer for the decoded data is as long as `DecodedLen` says, and what
is not written of it is zero.  The name that a missing entry of a secret is
reported under is a constant. -/
def read (ns : String) : CaSource → Except String Bytes
  | .data =>
      match host.decodeBase64 config.rootCaData with
      | .error failure => .error ("error while parsing RootCaData : " ++ failure)
      | .ok decoded =>
          let size := config.rootCaData.utf8ByteSize / 4 * 3
          .ok (decoded ++ List.replicate (size - decoded.length) 0)
  | .path =>
      match host.readFile config.rootCaPath with
      | .error failure => .error ("error while reading CA file: " ++ failure)
      | .ok content => .ok content
  | .secret =>
      match getCurrentNamespace host ns with
      | .error failure => .error failure
      | .ok ns =>
          match host.getSecret ns config.rootCaSecret with
          | .error failure =>
              .error ("error while getting root CA secret '" ++ ns ++ "/" ++
                config.rootCaSecret ++ "': " ++ failure)
          | .ok entries =>
              let caName :=
                if config.rootCaPath = "" then "ca.crt"
                else config.rootCaPath
              match GoMap.get entries caName with
              | none =>
                  .error ("cA data not found in secret 'namespace/" ++
                    config.rootCaSecret ++ "' CA path:'" ++ caName ++ "'")
              | some content => .ok content

end CaSource

/-- The last source that is configured, if any. -/
def readCa (ns : String) : Except String (Option Bytes) :=
  [CaSource.data, .path, .secret].foldlM
    (fun data source =>
      if source.configured config then
        (source.read host config ns).map some
      else .ok data)
    none

def rootCAs (ns : String) : Except String (Option (List Bytes)) :=
  if countTrue [CaSource.data.configured config,
      CaSource.secret.configured config,
      CaSource.path.configured config] > 1 then
    .error ("at most one of 'rootCaData', 'rootCaSecret' or 'rootCaPath' " ++
      "must be specified")
  else
    match readCa host config ns with
    | .error failure => .error failure
    | .ok none => .ok none
    | .ok (some data) =>
        if host.certificatesOf data = [] then
          .error "no certs found in ca file"
        else .ok (some (host.certificatesOf data))

def clientCertificates : Except String (List Bytes) :=
  if config.clientKey ≠ "" ∧ config.clientCert ≠ "" then
    match host.loadX509KeyPair config.clientCert config.clientKey with
    | .error failure => .error ("load client cert failed: " ++ failure)
    | .ok cert => .ok [cert]
  else .ok []

def parseScope (s : String) : Option Scope :=
  if s = "" ∨ s = "sub" then some .wholeSubtree
  else if s = "one" then some .singleLevel
  else none

def searchScope (field s : String) : Except String Scope :=
  match parseScope s with
  | none => .error (field ++ ".Scope unknown value " ++ host.quote s)
  | some scope => .ok scope

end

/-- `New`. -/
def new (host : Host) (ldapConfig : LdapConfig) (configFolder ns : String) :
    Except String LdapAuthenticator := do
  checkRequired ldapConfig
  let config := withDefaults host ldapConfig configFolder
  let rootCAs ← rootCAs host config ns
  let certificates ← clientCertificates host config
  let userSearchScope ← searchScope host "userSearch" config.userSearch.scope
  let groupSearchScope ←
    searchScope host "groupSearch" config.groupSearch.scope
  return { config := config, hostPort := config.host ++ ":" ++ config.port,
           tlsConfig :=
             { serverName := config.host
               insecureSkipVerify := config.insecureSkipVerify
               rootCAs := rootCAs
               certificates := certificates }
           userSearchScope := userSearchScope
           groupSearchScope := groupSearchScope }

/-! ## What is trusted -/

section

variable {host : Host} {config : LdapConfig} {ns : String}

/-- The root certificates are those of the host, or they come from the only
source that is configured and are not none. -/
def Trusts (host : Host) (config : LdapConfig) (ns : String)
    (roots : Option (List Bytes)) : Prop :=
  match roots with
  | none => ∀ source : CaSource, source.configured config = false
  | some certificates =>
      certificates ≠ [] ∧
        ∃ source : CaSource, ∃ content,
          (∀ other : CaSource,
            other.configured config = true ↔ other = source) ∧
          source.read host config ns = .ok content ∧
          certificates = host.certificatesOf content

theorem countTrue_le_one : ∀ first second third : Bool,
    countTrue [first, second, third] ≤ 1 →
      (first, second, third) ∈
        [(false, false, false), (true, false, false), (false, true, false),
          (false, false, true)] := by
  decide

theorem CaSource.configured_of_countTrue
    (few : countTrue [CaSource.data.configured config,
      CaSource.secret.configured config,
      CaSource.path.configured config] ≤ 1) :
    (∀ source : CaSource, source.configured config = false) ∨
      ∃ source : CaSource, ∀ other : CaSource,
        other.configured config = true ↔ other = source := by
  have possible := countTrue_le_one _ _ _ few
  simp only [List.mem_cons, Prod.mk.injEq, List.not_mem_nil,
    or_false] at possible
  rcases possible with ⟨data, secret, path⟩ | ⟨data, secret, path⟩ |
    ⟨data, secret, path⟩ | ⟨data, secret, path⟩
  · refine .inl fun source => ?_
    cases source <;> assumption
  · refine .inr ⟨.data, fun other => ?_⟩
    cases other <;> simp [data, secret, path]
  · refine .inr ⟨.secret, fun other => ?_⟩
    cases other <;> simp [data, secret, path]
  · refine .inr ⟨.path, fun other => ?_⟩
    cases other <;> simp [data, secret, path]

/-- Sources that are not configured leave what was read before them. -/
theorem foldlM_read_of_unset {sources : List CaSource}
    (unset : ∀ source ∈ sources, source.configured config = false)
    (found : Option Bytes) :
    sources.foldlM
        (fun data source =>
          if source.configured config then
            (source.read host config ns).map some
          else .ok data)
        found = pure found := by
  induction sources with
  | nil => rfl
  | cons source rest induction =>
      have first : source.configured config = false :=
        unset source List.mem_cons_self
      rw [List.foldlM_cons, first]
      exact induction fun other member =>
        unset other (List.mem_cons_of_mem source member)

/-- Of sources that exclude each other, the configured one is read. -/
theorem foldlM_read_of_one (earlier later : List CaSource) {source : CaSource}
    (set : source.configured config = true)
    (unset : ∀ other ∈ earlier ++ later, other.configured config = false) :
    (earlier ++ source :: later).foldlM
        (fun data source =>
          if source.configured config then
            (source.read host config ns).map some
          else .ok data)
        none = (source.read host config ns).map some := by
  rw [List.foldlM_append, foldlM_read_of_unset fun other member =>
    unset other (List.mem_append_left later member), pure_bind,
    List.foldlM_cons, if_pos set]
  cases source.read host config ns with
  | error failure => rfl
  | ok content =>
      exact foldlM_read_of_unset (fun other member =>
        unset other (List.mem_append_right earlier member)) (some content)

theorem readCa_of_none (unset : ∀ source : CaSource,
    source.configured config = false) :
    readCa host config ns = .ok none :=
  foldlM_read_of_unset (fun source _ => unset source) none

theorem readCa_of_one {source : CaSource}
    (only : ∀ other : CaSource,
      other.configured config = true ↔ other = source) :
    readCa host config ns = (source.read host config ns).map some := by
  have set : source.configured config = true := (only source).mpr rfl
  have unset {others : List CaSource} (apart : source ∉ others) :
      ∀ other ∈ others, other.configured config = false := by
    intro other member
    rw [Bool.eq_false_iff]
    intro configured
    rw [(only other).mp configured] at member
    exact apart member
  cases source with
  | data =>
      exact foldlM_read_of_one [] [.path, .secret] set (unset (by decide))
  | path =>
      exact foldlM_read_of_one [.data] [.secret] set (unset (by decide))
  | secret =>
      exact foldlM_read_of_one [.data, .path] [] set (unset (by decide))

theorem rootCAs_trusts {roots : Option (List Bytes)}
    (fetched : rootCAs host config ns = .ok roots) :
    Trusts host config ns roots := by
  unfold rootCAs at fetched
  split at fetched
  · cases fetched
  · next few =>
      rcases CaSource.configured_of_countTrue (Nat.le_of_not_lt few) with
        unset | ⟨source, only⟩
      · rw [readCa_of_none unset] at fetched
        cases fetched
        exact unset
      · rw [readCa_of_one only] at fetched
        cases read : source.read host config ns with
        | error failure =>
            rw [read] at fetched
            cases fetched
        | ok content =>
            rw [read] at fetched
            simp only [Except.map] at fetched
            split at fetched
            · cases fetched
            · next found =>
                cases fetched
                exact ⟨found, source, content, only, read, rfl⟩

/-- What `New` makes of a configuration that it accepts. -/
structure Built (host : Host) (ldapConfig : LdapConfig)
    (configFolder ns : String) (l : LdapAuthenticator) : Prop where
  config : l.config = withDefaults host ldapConfig configFolder
  hostPort : l.hostPort = l.config.host ++ ":" ++ l.config.port
  serverName : l.tlsConfig.serverName = ldapConfig.host
  verification :
    l.tlsConfig.insecureSkipVerify = ldapConfig.insecureSkipVerify
  trusted : Trusts host l.config ns l.tlsConfig.rootCAs

theorem eq_ok_of_bind_eq_ok {α β : Type} {stage : Except String α}
    {following : α → Except String β} {result : β}
    (passed : stage >>= following = .ok result) :
    ∃ value, stage = .ok value ∧ following value = .ok result := by
  cases stage with
  | error failure => cases passed
  | ok value => exact ⟨value, rfl, passed⟩

theorem new_built {configFolder : String} {l : LdapAuthenticator}
    (accepted : new host config configFolder ns = .ok l) :
    Built host config configFolder ns l := by
  unfold new at accepted
  obtain ⟨_, -, accepted⟩ := eq_ok_of_bind_eq_ok accepted
  obtain ⟨roots, fetched, accepted⟩ := eq_ok_of_bind_eq_ok accepted
  obtain ⟨certificates, -, accepted⟩ := eq_ok_of_bind_eq_ok accepted
  obtain ⟨userSearchScope, -, accepted⟩ := eq_ok_of_bind_eq_ok accepted
  obtain ⟨groupSearchScope, -, accepted⟩ := eq_ok_of_bind_eq_ok accepted
  cases accepted
  exact ⟨rfl, rfl, rfl, rfl, rootCAs_trusts fetched⟩

end

/-! ## What is sent -/

/-- TLS was negotiated with this configuration. -/
def Handshake (tlsConfig : TlsConfig) : Event Reply → Prop
  | ⟨.dialTLS _ used, .ok _⟩ => used = tlsConfig
  | ⟨.startTLS used, .ok _⟩ => used = tlsConfig
  | _ => False

/-- What is not for everybody to see. -/
def Query.Confidential : Query → Prop
  | .bind _ | .search _ => True
  | .dial _ | .dialTLS _ _ | .startTLS _ | .close => False

/-- TLS was negotiated on the connection that is open. -/
def Negotiated (tlsConfig : TlsConfig) (trace : Trace) : Prop :=
  ∃ earlier handshake later, trace = earlier ++ handshake :: later ∧
    Handshake tlsConfig handshake ∧ ∀ event ∈ later, event.1 ≠ .close

theorem Negotiated.append {tlsConfig : TlsConfig} {trace : Trace}
    (negotiated : Negotiated tlsConfig trace) {event : Event Reply}
    (stays : event.1 ≠ .close) : Negotiated tlsConfig (trace ++ [event]) := by
  obtain ⟨earlier, handshake, later, rfl, agreed, kept⟩ := negotiated
  refine ⟨earlier, handshake, later ++ [event], by simp, agreed, ?_⟩
  intro other member
  rcases List.mem_append.mp member with before | last
  · exact kept other before
  · rw [List.mem_singleton.mp last]
    exact stays

theorem Negotiated.last {tlsConfig : TlsConfig} {event : Event Reply}
    (agreed : Handshake tlsConfig event) (trace : Trace) :
    Negotiated tlsConfig (trace ++ [event]) :=
  ⟨trace, event, [], rfl, agreed, fun _ member => by cases member⟩

theorem negotiated_of_secured {trace : Trace}
    (secured : (Line.after trace).transport = .secured) :
    ∃ tlsConfig, Negotiated tlsConfig trace := by
  induction trace using List.reverseRecOn with
  | nil => cases secured
  | append_singleton trace event induction =>
      rw [Line.after_append] at secured
      -- the transport changes by what dials, starts TLS or closes
      have kept (stays : event.1 ≠ .close)
          (before : (Line.after trace).transport = .secured) :
          ∃ tlsConfig, Negotiated tlsConfig (trace ++ [event]) := by
        obtain ⟨tlsConfig, negotiated⟩ := induction before
        exact ⟨tlsConfig, negotiated.append stays⟩
      obtain ⟨query, reply⟩ := event
      cases query with
      | dial hostPort =>
          cases reply with
          | ok _ => cases secured
          | error failure => exact kept (by simp) secured
      | dialTLS hostPort tlsConfig =>
          cases reply with
          | ok _ =>
              have agreed : Handshake tlsConfig
                  ⟨.dialTLS hostPort tlsConfig, .ok ()⟩ := rfl
              exact ⟨tlsConfig, .last agreed trace⟩
          | error failure => exact kept (by simp) secured
      | startTLS tlsConfig =>
          cases reply with
          | ok _ =>
              have agreed : Handshake tlsConfig
                  ⟨.startTLS tlsConfig, .ok ()⟩ := rfl
              exact ⟨tlsConfig, .last agreed trace⟩
          | error failure => cases secured
      | bind credentials =>
          exact kept (by simp) secured
      | search request =>
          exact kept (by simp) secured
      | close => cases secured

/-- A handshake that is permitted uses the configuration of the
authenticator. -/
theorem Handshake.eq_of_permitted {l : LdapAuthenticator}
    {primitives : Primitives} {request : IdentityRequest} {line : Line}
    {tlsConfig : TlsConfig} {event : Event Reply}
    (agreed : Handshake tlsConfig event)
    (permitted : l.Permitted primitives request line event.1) :
    tlsConfig = l.tlsConfig := by
  obtain ⟨query, reply⟩ := event
  cases query with
  | dialTLS hostPort used =>
      cases reply with
      | ok _ => exact agreed.symm.trans permitted.2.2.1
      | error failure => cases agreed
  | startTLS used =>
      cases reply with
      | ok _ => exact agreed.symm.trans permitted.2.1
      | error failure => cases agreed
  | dial hostPort => cases reply <;> cases agreed
  | bind credentials => cases agreed
  | search sought => cases agreed
  | close => cases agreed

theorem LdapAuthenticator.Permitted.up {l : LdapAuthenticator}
    {primitives : Primitives} {request : IdentityRequest} {line : Line}
    {query : Query} (permitted : l.Permitted primitives request line query)
    (confidential : query.Confidential) : l.Up line := by
  cases query with
  | bind credentials => exact permitted.1
  | search sought => exact permitted.1
  | dial hostPort => cases confidential
  | dialTLS hostPort tlsConfig => cases confidential
  | startTLS tlsConfig => cases confidential
  | close => cases confidential

/-- A negotiation in the name of the configuration: the directory is called by
the configured name, its certificate is checked unless the configuration says
otherwise, against the certificates of the configuration. -/
structure Vouched (host : Host) (ldapConfig : LdapConfig)
    (configFolder ns : String) (tlsConfig : TlsConfig) : Prop where
  serverName : tlsConfig.serverName = ldapConfig.host
  verification : tlsConfig.insecureSkipVerify = ldapConfig.insecureSkipVerify
  trusted : Trusts host (withDefaults host ldapConfig configFolder) ns
    tlsConfig.rootCAs

/-- Unless the configuration asks for a connection without TLS, no credentials
and no searches are sent before TLS is negotiated as the configuration says,
whatever the directory answers. -/
theorem new_authenticate_secured (host : Host) (ldapConfig : LdapConfig)
    (configFolder ns : String) (l : LdapAuthenticator)
    (accepted : new host ldapConfig configFolder ns = .ok l)
    (encrypted : ldapConfig.insecureNoSSL = false)
    (primitives : Primitives) (request : IdentityRequest) (trace : Trace)
    (outcome : Except String IdentityResponse)
    (conversation :
      Converses (l.authenticate primitives request).run trace outcome) :
    ∀ before event after, trace = before ++ event :: after →
      event.1.Confidential →
        ∃ tlsConfig, Negotiated tlsConfig before ∧
          Vouched host ldapConfig configFolder ns tlsConfig := by
  intro before event after split confidential
  have built : Built host ldapConfig configFolder ns l := new_built accepted
  have each : ∀ before event after, trace = before ++ event :: after →
      l.Permitted primitives request (.after before) event.1 := by
    intro before event after split
    have permitted := (LdapAuthenticator.keeps_authenticate.sound
      conversation).1 before event after split
    rwa [LdapAuthenticator.discipline, Monitor.foldl_history] at permitted
  have secured : (Line.after before).transport = .secured := by
    rcases (each before event after split).up confidential with
      secured | ⟨-, insecure⟩
    · exact secured
    · rw [built.config] at insecure
      have insecure : ldapConfig.insecureNoSSL = true := insecure
      rw [encrypted] at insecure
      cases insecure
  obtain ⟨tlsConfig, earlier, handshake, later, found, agreed, kept⟩ :=
    negotiated_of_secured secured
  have whole : trace = earlier ++ handshake :: (later ++ event :: after) := by
    rw [split, found, List.append_assoc, List.cons_append]
  have same : tlsConfig = l.tlsConfig :=
    agreed.eq_of_permitted (each earlier handshake _ whole)
  refine ⟨tlsConfig, ⟨earlier, handshake, later, found, agreed, kept⟩, ?_⟩
  rw [same]
  exact ⟨built.serverName, built.verification, built.config ▸ built.trusted⟩

theorem adjustPath_eq_empty {host : Host} {baseFolder path : String} :
    adjustPath host baseFolder path = "" ↔ path = "" := by
  unfold adjustPath
  split
  · next named =>
      exact ⟨fun empty => absurd empty (host.clean_ne _),
        fun empty => absurd empty named⟩
  · rfl

/-- A secret is looked up under a fixed key: the path within the secret is not
read, and the path of a file, which is, cannot be configured at the same
time. -/
theorem new_secret_entry (host : Host) (ldapConfig : LdapConfig)
    (configFolder ns : String) (l : LdapAuthenticator)
    (accepted : new host ldapConfig configFolder ns = .ok l)
    (named : ldapConfig.rootCaSecret ≠ "") :
    ldapConfig.rootCaPath = "" ∧ ldapConfig.rootCaData = "" ∧
      ∃ current entries content,
        getCurrentNamespace host ns = .ok current ∧
        host.getSecret current ldapConfig.rootCaSecret = .ok entries ∧
        GoMap.get entries "ca.crt" = some content ∧
        l.tlsConfig.rootCAs = some (host.certificatesOf content) := by
  have built : Built host ldapConfig configFolder ns l := new_built accepted
  have trusted := built.trusted
  rw [built.config] at trusted
  have configured : CaSource.secret.configured
      (withDefaults host ldapConfig configFolder) = true :=
    decide_eq_true named
  cases roots : l.tlsConfig.rootCAs with
  | none =>
      rw [roots] at trusted
      have unset := trusted .secret
      rw [configured] at unset
      cases unset
  | some certificates =>
      rw [roots] at trusted
      obtain ⟨-, source, content, only, read, rfl⟩ := trusted
      obtain rfl := (only .secret).mp configured
      have noPath : (withDefaults host ldapConfig configFolder).rootCaPath =
          "" := by
        by_contra path
        cases (only .path).mp (decide_eq_true path)
      have noData : ldapConfig.rootCaData = "" := by
        by_contra data
        cases (only .data).mp (decide_eq_true data)
      refine ⟨adjustPath_eq_empty.mp noPath, noData, ?_⟩
      simp only [CaSource.read, noPath, if_true] at read
      split at read
      · cases read
      · next current found =>
          split at read
          · cases read
          · next entries fetched =>
              split at read
              · cases read
              · next entry held =>
                  cases read
                  exact ⟨current, entries, _, found, fetched, held, rfl⟩

/-! ## A configuration -/

open LdapAuthenticator

/-- A host with one secret of two certificates. -/
def sampleHost : Host :=
  { isAbs := fun _ => true
    join := fun folder path => folder ++ "/" ++ path
    clean := fun path => if path = "" then "." else path
    clean_ne := by
      intro path
      by_cases empty : path = ""
      · simp [empty]
      · simp [empty]
    decodeBase64 := fun _ => .error "illegal base64 data at input byte 0"
    readFile := fun _ => .error "no such file or directory"
    trimSpace := fun _ => ""
    getSecret := fun _ _ => .ok [("ca.crt", [1]), ("other.crt", [2])]
    certificatesOf := fun content => [content]
    loadX509KeyPair := fun _ _ => .error "no such file or directory"
    quote := id }

def sampleConfig : LdapConfig :=
  { (default : LdapConfig) with
    host := "ldap"
    rootCaSecret := "ldap-ca"
    rootCaSecretPath := "other.crt"
    bindDN := "cn=service"
    bindPW := "hidden"
    userSearch :=
      { (default : UserSearch) with baseDN := "ou=users", loginAttr := "uid" } }

/-- What `New` makes of it. -/
def sampleBuilt : LdapAuthenticator :=
  { config := withDefaults sampleHost sampleConfig "/etc"
    hostPort := "ldap:636"
    tlsConfig := ⟨"ldap", false, some [[1]], []⟩
    userSearchScope := .wholeSubtree
    groupSearchScope := .wholeSubtree }

theorem new_sample : new sampleHost sampleConfig "/etc" "kubauth" =
    .ok sampleBuilt := by
  rfl

theorem new_secret_entry_sample :
    sampleConfig.rootCaSecretPath = "other.crt" ∧
      sampleBuilt.tlsConfig.rootCAs = some [[1]] := by
  obtain ⟨-, -, current, entries, content, -, fetched, held, roots⟩ :=
    new_secret_entry sampleHost sampleConfig "/etc" "kubauth" sampleBuilt
      new_sample (by decide)
  cases fetched
  cases held
  exact ⟨rfl, roots⟩

/-- The events of a login at a directory. -/
def sampleSecureTrace : Trace :=
  events sampleDirectory.peer
    (sampleBuilt.authenticate samplePrimitives sampleRequest).run none

/-- The service account is bound after the negotiation. -/
theorem new_authenticate_secured_sample :
    ∃ tlsConfig, Negotiated tlsConfig (sampleSecureTrace.take 1) ∧
      Vouched sampleHost sampleConfig "/etc" "kubauth" tlsConfig :=
  new_authenticate_secured sampleHost sampleConfig "/etc" "kubauth" sampleBuilt
    new_sample rfl samplePrimitives sampleRequest sampleSecureTrace _
    (converses_run sampleDirectory.peer _ none)
    (sampleSecureTrace.take 1)
    ⟨.bind (.simple "cn=service" "hidden"), .ok ()⟩
    (sampleSecureTrace.drop 2) rfl trivial

end Kubauth.Ldap
