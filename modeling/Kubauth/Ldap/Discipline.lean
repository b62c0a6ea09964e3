import Kubauth.Ldap.Directory

/-!
# What is sent over the connection

Whatever the directory answers, an authentication sends credentials and
searches only over a connection that is as secure as configured, searches only
as the service account, and presents the password of the user once, to the
entry that the directory has just named.  The connection is closed, except
when TLS could not be started on it.
-/

namespace Kubauth.Ldap

open Dialogue

abbrev Trace := List (Event Reply)

/-- Where TLS could not be started it is up to the client library what is left
of the connection. -/
inductive Transport where
  | down
  | clear
  | secured
  | unsettled
  deriving Repr, DecidableEq, Inhabited

/-- The connection as it results from what was sent and answered. -/
structure Line where
  transport : Transport
  /-- A connection was opened, and `Close` was not called on it. -/
  unclosed : Bool
  /-- Nothing after a bind that was refused. -/
  identity : Option Credentials
  /-- The binds that were tried. -/
  binds : Nat
  last : Option (Event Reply)

namespace Line

def initial : Line :=
  { transport := .down
    unclosed := false
    identity := none
    binds := 0
    last := none }

def next (line : Line) (event : Event Reply) : Line :=
  { transport :=
      match event with
      | ⟨.dial _, .ok _⟩ => .clear
      | ⟨.dialTLS _ _, .ok _⟩ => .secured
      | ⟨.startTLS _, .ok _⟩ => .secured
      | ⟨.startTLS _, .error _⟩ => .unsettled
      | ⟨.close, _⟩ => .down
      | _ => line.transport
    unclosed :=
      match event with
      | ⟨.dial _, .ok _⟩ => true
      | ⟨.dialTLS _ _, .ok _⟩ => true
      | ⟨.close, _⟩ => false
      | _ => line.unclosed
    identity :=
      match event with
      | ⟨.bind credentials, .ok _⟩ => some credentials
      | ⟨.bind _, .error _⟩ => none
      | _ => line.identity
    binds :=
      match event with
      | ⟨.bind _, _⟩ => line.binds + 1
      | _ => line.binds
    last := some event }

/-- The connection after some events. -/
def after (trace : Trace) : Line :=
  trace.foldl next initial

@[simp]
theorem after_append (trace : Trace) (event : Event Reply) :
    after (trace ++ [event]) = (after trace).next event :=
  List.foldl_concat next initial event trace

theorem last_after (trace : Trace) : (after trace).last = trace.getLast? := by
  induction trace using List.reverseRecOn with
  | nil => rfl
  | append_singleton trace event _ =>
      rw [after_append, List.getLast?_concat]
      rfl

end Line

namespace LdapAuthenticator

variable (l : LdapAuthenticator) (primitives : Primitives)
  (request : IdentityRequest)

/-- Up, and encrypted unless the configuration says otherwise. -/
def Up (line : Line) : Prop :=
  line.transport = .secured ∨
    (line.transport = .clear ∧ l.config.insecureNoSSL = true)

/-- The password is that of the request, is not empty, is tried for the first
time, and goes to the only entry that the search for the login has just
given. -/
structure PresentsPassword (line : Line) (credentials : Credentials) :
    Prop where
  bound : line.identity = some l.serviceCredentials
  nonempty : request.password ≠ ""
  first : line.binds = 1
  named : ∃ entry : Entry,
    credentials = .simple entry.dn request.password ∧
      line.last =
        some ⟨.search (l.userRequest primitives request.login), .ok [entry]⟩

/-- What may be sent in which state of the connection. -/
def Permitted (line : Line) : Query → Prop
  | .dial hostPort =>
      line.transport = .down ∧ hostPort = l.hostPort ∧
        (l.config.insecureNoSSL = true ∨ l.config.startTLS = true)
  | .dialTLS hostPort tlsConfig =>
      line.transport = .down ∧ hostPort = l.hostPort ∧
        tlsConfig = l.tlsConfig ∧ l.config.insecureNoSSL = false
  | .startTLS tlsConfig =>
      line.transport = .clear ∧ tlsConfig = l.tlsConfig ∧
        l.config.insecureNoSSL = false
  | .bind credentials =>
      l.Up line ∧
        (credentials = l.serviceCredentials ∨
          l.PresentsPassword primitives request line credentials)
  | .search sought =>
      l.Up line ∧ line.identity = some l.serviceCredentials ∧
        (sought = l.userRequest primitives request.login ∨
          ∃ attr, sought = l.groupRequest primitives attr)
  | .close => line.transport ≠ .down

/-- The observer that permits this. -/
def discipline : Monitor Reply Trace :=
  .history fun trace => l.Permitted primitives request (.after trace)

variable {l primitives request}
variable {α : Type} {trace : Trace}

/-- Bound as the service account. -/
structure Bound (l : LdapAuthenticator) (line : Line) : Prop where
  up : l.Up line
  identity : line.identity = some l.serviceCredentials

section Steps

variable {good : α → Trace → Prop} {bad : String → Trace → Prop}

theorem keeps_ask {query : Query} {good : Reply query → Trace → Prop}
    (permitted : l.Permitted primitives request (.after trace) query)
    (each : ∀ reply, good reply (trace ++ [⟨query, reply⟩])) :
    Keeps (l.discipline primitives request) (ask query).run
      (Fallible.Onward good bad) trace :=
  (Fallible.keeps_lift _).mpr ⟨permitted, each⟩

theorem keeps_bindAs {credentials : Credentials}
    {post : Except Failure Unit → Trace → Prop}
    (permitted : l.Permitted primitives request (.after trace)
      (.bind credentials))
    (each : ∀ reply, post reply (trace ++ [⟨.bind credentials, reply⟩])) :
    Keeps (l.discipline primitives request) (bindAs credentials) post trace :=
  keeps_query_history.mpr ⟨permitted, each⟩

theorem keeps_bindService {good : Unit → Trace → Prop}
    (up : l.Up (.after trace))
    (bound : ∀ after, trace <+: after → l.Bound (.after after) →
      (Line.after after).binds = (Line.after trace).binds + 1 →
      good () after)
    (refused : ∀ text after, l.Up (.after after) → bad text after) :
    Keeps (l.discipline primitives request) l.bindService.run
      (Fallible.Onward good bad) trace := by
  apply Fallible.keeps_bind
  rw [serviceBind_eq, Fallible.keeps_lift]
  have permitted : l.Permitted primitives request (.after trace)
      (.bind l.serviceCredentials) := ⟨up, .inl rfl⟩
  apply keeps_bindAs permitted
  intro reply
  cases reply with
  | error failure =>
      apply refused
      rw [Line.after_append]
      exact up
  | ok accepted =>
      apply bound _ (List.prefix_append trace _)
      · rw [Line.after_append]
        exact ⟨up, rfl⟩
      · rw [Line.after_append]
        rfl

theorem keeps_search {sought : SearchRequest}
    {good : List Entry → Trace → Prop} (bound : l.Bound (.after trace))
    (known : sought = l.userRequest primitives request.login ∨
      ∃ attr, sought = l.groupRequest primitives attr)
    (found : ∀ entries,
      l.Bound (.after (trace ++ [⟨.search sought, .ok entries⟩])) →
      good entries (trace ++ [⟨.search sought, .ok entries⟩]))
    (refused : ∀ text after, l.Up (.after after) → bad text after) :
    Keeps (l.discipline primitives request) (search sought).run
      (Fallible.Onward good bad) trace := by
  apply Fallible.keeps_bind
  have permitted : l.Permitted primitives request (.after trace)
      (.search sought) := ⟨bound.up, bound.identity, known⟩
  apply keeps_ask permitted
  intro reply
  cases reply with
  | error failure =>
      apply refused
      rw [Line.after_append]
      exact bound.up
  | ok entries =>
      apply found
      rw [Line.after_append]
      exact ⟨bound.up, bound.identity⟩

theorem keeps_lookupUser {good : Option Entry → Trace → Prop}
    (bound : l.Bound (.after trace))
    (absent : ∀ after, l.Up (.after after) → good none after)
    (found : ∀ (entry : Entry) after,
      l.Bound (.after after) →
      (Line.after after).binds = (Line.after trace).binds →
      (Line.after after).last =
        some ⟨.search (l.userRequest primitives request.login),
          .ok [entry]⟩ →
      good (some entry) after)
    (refused : ∀ text after, l.Up (.after after) → bad text after) :
    Keeps (l.discipline primitives request)
      (l.lookupUser primitives request.login).run
      (Fallible.Onward good bad) trace := by
  apply Fallible.keeps_bind
  apply keeps_search bound (.inl rfl)
  · intro entries still
    match entries with
    | [] => exact absent _ still.up
    | [entry] =>
        apply found entry _ still
        · rw [Line.after_append]
          rfl
        · rw [Line.after_append]
          rfl
    | _ :: _ :: _ => exact refused _ _ still.up
  · exact refused

/-- The directory accepted the password, which is not empty, for the only entry
of the login. -/
def Accepted (l : LdapAuthenticator) (primitives : Primitives)
    (request : IdentityRequest) (trace : Trace) : Prop :=
  request.password ≠ "" ∧ ∃ entry : Entry,
    (⟨.search (l.userRequest primitives request.login), .ok [entry]⟩ :
      Event Reply) ∈ trace ∧
    (⟨.bind (.simple entry.dn request.password), .ok ()⟩ : Event Reply) ∈ trace

theorem Accepted.mono {before after : Trace}
    (accepted : l.Accepted primitives request before)
    (extended : before <+: after) :
    l.Accepted primitives request after := by
  obtain ⟨nonempty, entry, searched, bound⟩ := accepted
  exact ⟨nonempty, entry, extended.subset searched, extended.subset bound⟩

theorem keeps_checkPassword {good : Status → Trace → Prop} {entry : Entry}
    (bound : l.Bound (.after trace)) (first : (Line.after trace).binds = 1)
    (nonempty : request.password ≠ "")
    (named : (Line.after trace).last =
      some ⟨.search (l.userRequest primitives request.login), .ok [entry]⟩)
    (checked : ∀ status after, l.Up (.after after) →
      (status = Status.passwordChecked →
        l.Accepted primitives request after) →
      good status after)
    (refused : ∀ text after, l.Up (.after after) → bad text after) :
    Keeps (l.discipline primitives request)
      (checkPassword entry request.password).run
      (Fallible.Onward good bad) trace := by
  unfold checkPassword
  rw [if_neg nonempty]
  apply Fallible.keeps_bind
  have permitted : l.Permitted primitives request (.after trace)
      (.bind (.simple entry.dn request.password)) :=
    ⟨bound.up, .inr ⟨bound.identity, nonempty, first, entry, rfl, named⟩⟩
  rw [Fallible.keeps_lift]
  apply keeps_bindAs permitted
  intro reply
  have up : l.Up (.after (trace ++
      [⟨.bind (.simple entry.dn request.password), reply⟩])) := by
    rw [Line.after_append]
    exact bound.up
  cases reply with
  | ok accepted =>
      apply checked _ _ up
      intro _
      have searched := List.mem_of_getLast?
        ((Line.last_after trace).symm.trans named)
      exact ⟨nonempty, entry, List.mem_append_left _ searched,
        List.mem_append_right _ (List.mem_singleton.mpr rfl)⟩
  | error failure =>
      dsimp only
      split
      · exact checked _ _ up (fun same => absurd same (by decide))
      · exact checked _ _ up (fun same => absurd same (by decide))
      · exact refused _ _ up

theorem keeps_lookupGroups {good : List String → Trace → Prop}
    {entry : Entry} (bound : l.Bound (.after trace))
    (collected : ∀ groups after, trace <+: after → l.Up (.after after) →
      good groups after)
    (refused : ∀ text after, l.Up (.after after) → bad text after) :
    Keeps (l.discipline primitives request)
      (l.lookupGroups primitives entry).run
      (Fallible.Onward good bad) trace := by
  apply Fallible.keeps_bind
  have loop : Keeps (l.discipline primitives request)
      (ExceptT.run ((getAttrs entry l.config.groupSearch.linkUserAttr).foldlM
        (fun ldapGroups attr => do
          let entries ← search (l.groupRequest primitives attr)
          pure (ldapGroups ++ entries)) []))
      (Fallible.Onward (fun _ after => l.Bound (.after after)) bad) trace := by
    refine Fallible.keeps_foldlM ?_ bound
    intro before attr state _ bound
    apply Fallible.keeps_bind
    apply keeps_search bound (.inr ⟨attr, rfl⟩)
    · intro entries still
      exact still
    · exact refused
  apply loop.extends.mono
  rintro outcome after ⟨extended, held⟩
  cases outcome with
  | error failure => exact held
  | ok ldapGroups => exact collected _ _ extended held.up

theorem keeps_passwordStatus {good : Status → Trace → Prop} {entry : Entry}
    (bound : l.Bound (.after trace)) (first : (Line.after trace).binds = 1)
    (named : (Line.after trace).last =
      some ⟨.search (l.userRequest primitives request.login), .ok [entry]⟩)
    (checked : ∀ status after, l.Up (.after after) →
      (status = Status.passwordChecked →
        l.Accepted primitives request after) →
      good status after)
    (refused : ∀ text after, l.Up (.after after) → bad text after) :
    Keeps (l.discipline primitives request)
      (passwordStatus entry request.password).run
      (Fallible.Onward good bad) trace := by
  unfold passwordStatus
  split
  · next nonempty =>
      exact keeps_checkPassword bound first nonempty named checked refused
  · exact checked _ _ bound.up (fun same => absurd same (by decide))

theorem keeps_examineEntry {good : Entry × Status × List String → Trace → Prop}
    {entry : Entry} (bound : l.Bound (.after trace))
    (first : (Line.after trace).binds = 1)
    (named : (Line.after trace).last =
      some ⟨.search (l.userRequest primitives request.login), .ok [entry]⟩)
    (found : ∀ status groups after, l.Up (.after after) →
      (status = Status.passwordChecked →
        l.Accepted primitives request after) →
      good (entry, status, groups) after)
    (refused : ∀ text after, l.Up (.after after) → bad text after) :
    Keeps (l.discipline primitives request)
      (l.examineEntry primitives request.password entry).run
      (Fallible.Onward good bad) trace := by
  apply Fallible.keeps_bind
  refine keeps_passwordStatus bound first named ?_ refused
  intro status tried up accepted
  apply Fallible.keeps_bind
  refine keeps_bindService up ?_ refused
  intro again since bound _
  apply Fallible.keeps_bind
  refine keeps_lookupGroups bound ?_ refused
  intro groups after later up
  exact found status groups after up fun checked =>
    (accepted checked).mono (since.trans later)

theorem keeps_examine
    {good : Option (Entry × Status × List String) → Trace → Prop}
    (up : l.Up (.after trace)) (fresh : (Line.after trace).binds = 0)
    (found : ∀ result after, l.Up (.after after) →
      (∀ entry groups,
        result = some (entry, Status.passwordChecked, groups) →
          l.Accepted primitives request after) →
      good result after)
    (refused : ∀ text after, l.Up (.after after) → bad text after) :
    Keeps (l.discipline primitives request)
      (l.examine primitives request).run (Fallible.Onward good bad) trace := by
  apply Fallible.keeps_bind
  refine keeps_bindService up ?_ refused
  intro before _ bound counted
  apply Fallible.keeps_bind
  refine keeps_lookupUser bound ?_ ?_ refused
  · intro after up
    apply found none after up
    intro entry groups same
    cases same
  · intro entry searched bound same named
    have first : (Line.after searched).binds = 1 := by
      rw [same, counted, fresh]
    apply Fallible.keeps_bind
    refine keeps_examineEntry bound first named ?_ refused
    intro status groups after up accepted
    apply found _ after up
    rintro _ _ same
    cases same
    exact accepted rfl

/-- `Close` was called on what was opened, or TLS could not be started just
now. -/
def Closed (line : Line) : Prop :=
  line.unclosed = true ↔
    ∃ tlsConfig failure, line.last =
      some ⟨.startTLS tlsConfig, .error failure⟩

theorem closed_of_false {line : Line} (closed : line.unclosed = false)
    (other : ∀ tlsConfig failure, line.last ≠
      some ⟨.startTLS tlsConfig, .error failure⟩) : Closed line := by
  constructor
  · intro unclosed
    rw [closed] at unclosed
    cases unclosed
  · rintro ⟨tlsConfig, failure, refused⟩
    exact absurd refused (other tlsConfig failure)

theorem keeps_connect {good : Unit → Trace → Prop}
    (connected : ∀ after, l.Up (.after after) →
      (Line.after after).binds = 0 → good () after)
    (refused : ∀ text after, Closed (.after after) → bad text after) :
    Keeps (l.discipline primitives request) l.connect.run
      (Fallible.Onward good bad) [] := by
  unfold connect
  split
  · next insecure =>
      apply Fallible.keeps_bind
      have permitted : l.Permitted primitives request (.after [])
          (.dial l.hostPort) := ⟨rfl, rfl, .inl insecure⟩
      apply keeps_ask permitted
      intro reply
      cases reply with
      | ok accepted => exact connected _ (.inr ⟨rfl, insecure⟩) rfl
      | error failure =>
          exact refused _ _ (closed_of_false rfl fun _ _ => by rintro ⟨⟩)
  · next secure =>
      have secure : l.config.insecureNoSSL = false := Bool.not_eq_true _ ▸ secure
      split
      · next starts =>
          apply Fallible.keeps_bind
          have permitted : l.Permitted primitives request (.after [])
              (.dial l.hostPort) := ⟨rfl, rfl, .inr starts⟩
          apply keeps_ask permitted
          intro reply
          cases reply with
          | error failure =>
              exact refused _ _ (closed_of_false rfl fun _ _ => by rintro ⟨⟩)
          | ok dialled =>
              apply Fallible.keeps_bind
              have permitted : l.Permitted primitives request
                  (.after [⟨.dial l.hostPort, .ok dialled⟩])
                  (.startTLS l.tlsConfig) := ⟨rfl, rfl, secure⟩
              apply keeps_ask permitted
              intro reply
              cases reply with
              | ok started => exact connected _ (.inl rfl) rfl
              | error failure =>
                  apply refused
                  exact ⟨fun _ => ⟨_, _, rfl⟩, fun _ => rfl⟩
      · apply Fallible.keeps_bind
        have permitted : l.Permitted primitives request (.after [])
            (.dialTLS l.hostPort l.tlsConfig) := ⟨rfl, rfl, rfl, secure⟩
        apply keeps_ask permitted
        intro reply
        cases reply with
        | ok accepted => exact connected _ (.inl rfl) rfl
        | error failure =>
            exact refused _ _ (closed_of_false rfl fun _ _ => by rintro ⟨⟩)

end Steps

theorem Up.transport_ne {line : Line} (up : l.Up line) :
    line.transport ≠ .down := by
  rintro down
  rcases up with secured | ⟨clear, _⟩
  · rw [down] at secured
    cases secured
  · rw [down] at clear
    cases clear

/-- A connection that is up is closed, whatever became of what was done with
it. -/
theorem keeps_doConn {α : Type} {f : Session α} {good : α → Trace → Prop}
    {bad : String → Trace → Prop}
    (body : ∀ trace, l.Up (.after trace) → (Line.after trace).binds = 0 →
      Keeps (l.discipline primitives request) f.run
        (Fallible.Onward (fun result after => l.Up (.after after) ∧
          ∀ closed, after <+: closed → Closed (.after closed) →
            good result closed)
          (fun _ after => l.Up (.after after))) trace)
    (refused : ∀ text after, Closed (.after after) → bad text after) :
    Keeps (l.discipline primitives request) (l.doConn f).run
      (Fallible.Onward good bad) [] := by
  apply Fallible.keeps_bind
  refine keeps_connect ?_ refused
  intro opened up fresh
  apply Fallible.keeps_bind
  rw [Fallible.keeps_lift]
  apply (body opened up fresh).mono
  intro outcome used held
  have up : l.Up (.after used) := by
    cases outcome with
    | ok result => exact held.1
    | error failure => exact held
  apply Fallible.keeps_bind
  have permitted : l.Permitted primitives request (.after used) .close :=
    up.transport_ne
  apply keeps_ask permitted
  intro reply
  have closed : Closed (.after (used ++ [⟨.close, reply⟩])) := by
    rw [Line.after_append]
    exact closed_of_false rfl fun _ _ => by rintro ⟨⟩
  cases outcome with
  | ok result => exact held.2 _ (List.prefix_append used _) closed
  | error failure => exact refused _ _ closed

/-- What holds at the end. -/
structure Concluded (l : LdapAuthenticator) (primitives : Primitives)
    (request : IdentityRequest) (trace : Trace)
    (outcome : Except String IdentityResponse) : Prop where
  closed : Closed (.after trace)
  checked : ∀ response, outcome = .ok response →
    response.status = Status.passwordChecked →
      l.Accepted primitives request trace

theorem keeps_authenticate :
    Keeps (l.discipline primitives request)
      (l.authenticate primitives request).run
      (fun outcome trace =>
        l.Concluded primitives request trace outcome) [] := by
  have failing : ∀ text trace, Closed (.after trace) →
      l.Concluded primitives request trace (.error text) :=
    fun text trace closed => ⟨closed, fun response same => by cases same⟩
  have whole : Keeps (l.discipline primitives request)
      (l.authenticate primitives request).run
      (Fallible.Onward
        (fun response trace =>
          l.Concluded primitives request trace (.ok response))
        (fun text trace =>
          l.Concluded primitives request trace (.error text))) [] := by
    apply Fallible.keeps_bind
    refine keeps_doConn ?_ failing
    intro opened up fresh
    refine keeps_examine up fresh ?_ fun _ _ up => up
    intro found used up accepted
    refine ⟨up, fun trace later closed => ⟨closed, ?_⟩⟩
    intro response same checked
    cases same
    cases found with
    | none =>
        have other : Status.userNotFound ≠ Status.passwordChecked := by decide
        exact absurd checked other
    | some result =>
        obtain ⟨entry, status, groups⟩ := result
        have status : status = Status.passwordChecked := checked
        rw [status] at accepted
        exact (accepted entry groups rfl).mono later
  apply whole.mono
  intro outcome trace held
  cases outcome with
  | ok response => exact held
  | error text => exact held

/-- A directory of one entry that admits everybody, and does not start TLS. -/
def sampleDirectory : Directory :=
  { dials := .ok ()
    dialsTLS := fun _ => .ok ()
    startsTLS := fun _ => .error ⟨none, "not supported"⟩
    admits := fun _ => .ok ()
    shows := fun _ _ => .ok [⟨"uid=alice,ou=users", []⟩] }

def samplePrimitives : Primitives :=
  { escapeFilter := id
    quote := id }

def sampleAuthenticator (startTLS : Bool) : LdapAuthenticator :=
  { config :=
      { (default : LdapConfig) with
        startTLS := startTLS
        bindDN := "cn=service"
        bindPW := "hidden" }
    hostPort := "ldap:636"
    tlsConfig := default
    userSearchScope := .wholeSubtree
    groupSearchScope := .wholeSubtree }

/-- A login with a password. -/
def sampleRequest : IdentityRequest :=
  { login := "alice", password := "secret" }

/-- The events of a login at that directory. -/
def sampleTrace (startTLS : Bool) : Trace :=
  events sampleDirectory.peer
    ((sampleAuthenticator startTLS).authenticate samplePrimitives
      sampleRequest).run none

/-- Whatever the directory answers, each thing that an authentication sends is
permitted in the state that the connection is in: nothing but the negotiation
of TLS goes over a connection less secure than configured, every search is made
as the service account, and the password of the request is presented at most
once, to the only entry that the directory has just given for the login. -/
theorem authenticate_disciplined (l : LdapAuthenticator)
    (primitives : Primitives) (request : IdentityRequest)
    (trace : Trace) (outcome : Except String IdentityResponse)
    (conversation :
      Converses (l.authenticate primitives request).run trace outcome) :
    ∀ before event after, trace = before ++ event :: after →
      l.Permitted primitives request (.after before) event.1 := by
  intro before event after split
  have each := (keeps_authenticate.sound conversation).1 before event after split
  rwa [discipline, Monitor.foldl_history] at each

/-- The fourth thing sent is the password, to the entry that the third one
found. -/
theorem authenticate_disciplined_alice :
    (sampleAuthenticator false).Permitted samplePrimitives sampleRequest
      (.after ((sampleTrace false).take 3))
      (.bind (.simple "uid=alice,ou=users" "secret")) :=
  authenticate_disciplined (sampleAuthenticator false) samplePrimitives
    sampleRequest (sampleTrace false) _
    (converses_run sampleDirectory.peer _ none)
    ((sampleTrace false).take 3)
    ⟨.bind (.simple "uid=alice,ou=users" "secret"), .ok ()⟩
    ((sampleTrace false).drop 4) rfl

/-- A checked password was accepted by the directory, for the only entry of
the login. -/
theorem authenticate_checked (l : LdapAuthenticator)
    (primitives : Primitives) (request : IdentityRequest)
    (trace : Trace) (response : IdentityResponse)
    (conversation :
      Converses (l.authenticate primitives request).run trace (.ok response))
    (checked : response.status = Status.passwordChecked) :
    l.Accepted primitives request trace := by
  have concluded := (keeps_authenticate.sound conversation).2
  rw [discipline, Monitor.foldl_history, List.nil_append] at concluded
  exact concluded.checked response rfl checked

theorem authenticate_checked_alice :
    (sampleAuthenticator false).Accepted samplePrimitives sampleRequest
      (sampleTrace false) :=
  authenticate_checked (sampleAuthenticator false) samplePrimitives
    sampleRequest (sampleTrace false) _
    (converses_run sampleDirectory.peer _ none) rfl

end LdapAuthenticator

end Kubauth.Ldap
