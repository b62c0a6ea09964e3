import Kubauth.Ldap.Authenticator

/-!
# The directory behind the connection

A directory admits credentials and shows entries according to who is bound.
Seen through the connection, an authentication is a plain function of such a
directory, which knows nothing of connections and of the order of binds: all
that is read is what the service account may read.
-/

namespace Kubauth.Ldap

open Dialogue

/-- A directory, with what its network answers. -/
structure Directory where
  dials : Except Failure Unit
  dialsTLS : TlsConfig → Except Failure Unit
  startsTLS : TlsConfig → Except Failure Unit
  admits : Credentials → Except Failure Unit
  /-- What is shown to whom, to nobody in particular before a bind. -/
  shows : Option Credentials → SearchRequest → Except Failure (List Entry)

namespace Directory

variable (directory : Directory)

/-- Who is bound once these credentials were presented. -/
def boundBy (credentials : Credentials) : Option Credentials :=
  match directory.admits credentials with
  | .ok _ => some credentials
  | .error _ => none

/-- The directory as a peer, whose state is who is bound. -/
def peer : Peer Reply (Option Credentials)
  | _, .dial _ => (directory.dials, none)
  | _, .dialTLS _ tlsConfig => (directory.dialsTLS tlsConfig, none)
  | bound, .startTLS tlsConfig => (directory.startsTLS tlsConfig, bound)
  | _, .bind credentials =>
      (directory.admits credentials, directory.boundBy credentials)
  | bound, .search request => (directory.shows bound request, bound)
  | _, .close => ((), none)

variable (l : LdapAuthenticator) (primitives : Primitives)

/-! ## The plain function -/

/-- A failure, with the words of the program before it. -/
def reported {α : Type} (words : String) :
    Except Failure α → Except String α
  | .ok result => .ok result
  | .error failure => .error (words ++ failure.message)

def opens : Except String Unit :=
  if l.config.insecureNoSSL then
    reported "failed to connect: " directory.dials
  else if l.config.startTLS then do
    reported "failed to connect: " directory.dials
    reported "start TLS failed: " (directory.startsTLS l.tlsConfig)
  else reported "failed to connect: " (directory.dialsTLS l.tlsConfig)

def serves : Except String Unit :=
  reported ("conn.Bind(" ++ l.config.bindDN ++ ", xxxxxxxx) failed: ")
    (directory.admits l.serviceCredentials)

/-- What the service account reads. -/
def reads (request : SearchRequest) : Except String (List Entry) :=
  reported ("search [" ++ searchDesc request ++ "] failed: ")
    (directory.shows (some l.serviceCredentials) request)

def judges (entry : Entry) (password : String) : Except String Status :=
  if password = "" then .ok Status.passwordUnchecked
  else
    match directory.admits (.simple entry.dn password) with
    | .ok _ => .ok Status.passwordChecked
    | .error failure =>
        if failure.resultCode = some .invalidCredentials ∨
            failure.resultCode = some .constraintViolation then
          .ok Status.passwordFail
        else
          .error ("conn.Bind(" ++ entry.dn ++ ", xxxxxxxx) => failed: " ++
            failure.message)

/-- The groups of all values of the link attribute, in their order. -/
def groups (entry : Entry) : Except String (List String) := do
  let ldapGroups ← (getAttrs entry l.config.groupSearch.linkUserAttr).mapM
    fun attr => directory.reads l (l.groupRequest primitives attr)
  pure (l.groupNames ldapGroups.flatten)

/-- The only entry of the login, if there is one. -/
def locates (login : String) : Except String (Option Entry) := do
  match ← directory.reads l (l.userRequest primitives login) with
  | [] => pure none
  | [entry] => pure (some entry)
  | entries =>
      throw ("filter returned multiple (" ++ toString entries.length ++
        ") results: " ++ primitives.quote (l.userFilter primitives login))

/-- That entry, with what is said of the password and with its groups. -/
def finds (request : IdentityRequest) :
    Except String (Option (Entry × Status × List String)) := do
  match ← directory.locates l primitives request.login with
  | none => pure none
  | some entry =>
      let status ← directory.judges entry request.password
      let groups ← directory.groups l primitives entry
      pure (some (entry, status, groups))

def identifies (request : IdentityRequest) :
    Except String IdentityResponse := do
  directory.opens l
  directory.serves l
  let found ← directory.finds l primitives request
  pure (l.responseOf request.login found)

/-! ## The program computes it -/

variable {directory l primitives}
variable {bound : Option Credentials}

theorem run_search (request : SearchRequest) :
    run directory.peer (search request).run bound =
      (reported ("search [" ++ searchDesc request ++ "] failed: ")
        (directory.shows bound request), bound) := by
  have asked : run directory.peer (ask (.search request)).run bound =
      (.ok (directory.shows bound request), bound) := rfl
  rw [search, Fallible.run_bind_ok asked]
  cases directory.shows bound request with
  | ok entries => rfl
  | error failure => rfl

theorem run_bindAs (credentials : Credentials) :
    run directory.peer
        (ExceptT.lift (bindAs credentials) :
          Session (Except Failure Unit)).run bound =
      (.ok (directory.admits credentials), directory.boundBy credentials) :=
  rfl

theorem run_bindService :
    run directory.peer l.bindService.run bound =
      (directory.serves l, directory.boundBy l.serviceCredentials) := by
  rw [LdapAuthenticator.bindService, l.serviceBind_eq,
    Fallible.run_bind_ok (run_bindAs _), serves]
  cases directory.admits l.serviceCredentials with
  | ok admitted => rfl
  | error failure => rfl

theorem run_passwordStatus (entry : Entry) (password : String) :
    (run directory.peer (LdapAuthenticator.passwordStatus entry password).run
      bound).1 = directory.judges entry password := by
  unfold LdapAuthenticator.passwordStatus judges
  by_cases empty : password = ""
  · rw [if_neg (not_not.mpr empty), if_pos empty]
    rfl
  · rw [if_pos empty, if_neg empty, checkPassword, if_neg empty,
      Fallible.run_bind_ok (run_bindAs _)]
    cases directory.admits (.simple entry.dn password) with
    | ok admitted => rfl
    | error failure =>
        dsimp only
        split
        · next invalid =>
            rw [if_pos (.inl invalid)]
            rfl
        · next violation =>
            rw [if_pos (.inr violation)]
            rfl
        · next valid allowed =>
            rw [if_neg (not_or.mpr ⟨valid, allowed⟩)]
            rfl

/-- What a loop appends is what its steps give, one after the other. -/
theorem foldlM_append {α β : Type} (step : α → Except String (List β))
    (items : List α) (before : List β) :
    items.foldlM (fun before item => do
        let found ← step item
        pure (before ++ found)) before =
      (do
        let found ← items.mapM step
        pure (before ++ found.flatten)) := by
  induction items generalizing before with
  | nil =>
      rw [List.mapM_nil, pure_bind, List.flatten_nil, List.append_nil]
      rfl
  | cons item items induction =>
      rw [List.foldlM_cons, List.mapM_cons]
      cases step item with
      | error failure => rfl
      | ok found =>
          refine (induction (before ++ found)).trans ?_
          cases items.mapM step with
          | error failure => rfl
          | ok rest =>
              exact congrArg Except.ok (List.append_assoc before found _)

theorem run_lookupGroups (entry : Entry) :
    run directory.peer (l.lookupGroups primitives entry).run
        (some l.serviceCredentials) =
      (directory.groups l primitives entry, some l.serviceCredentials) := by
  have steady : ∀ before attr,
      run directory.peer
          (ExceptT.run (do
            let entries ← search (l.groupRequest primitives attr)
            pure (before ++ entries) : Session (List Entry)))
          (some l.serviceCredentials) =
        ((do
            let entries ← directory.reads l (l.groupRequest primitives attr)
            pure (before ++ entries)), some l.serviceCredentials) := by
    intro before attr
    exact Fallible.run_bind_steady (run_search _) fun entries => rfl
  have collected := Fallible.run_foldlM steady
    (getAttrs entry l.config.groupSearch.linkUserAttr) []
  rw [foldlM_append] at collected
  refine (Fallible.run_bind_steady collected fun ldapGroups => rfl).trans ?_
  rw [bind_assoc]
  rfl

theorem run_examineEntry
    (served : directory.admits l.serviceCredentials = .ok ())
    (password : String) (entry : Entry) :
    (run directory.peer (l.examineEntry primitives password entry).run
      bound).1 =
      (do
        let status ← directory.judges entry password
        let groups ← directory.groups l primitives entry
        pure (entry, status, groups)) := by
  have again : directory.boundBy l.serviceCredentials =
      some l.serviceCredentials := by rw [boundBy, served]
  have serves : directory.serves l = .ok () := by
    rw [serves, served]
    rfl
  rw [LdapAuthenticator.examineEntry, ← run_passwordStatus]
  apply Fallible.run_bind_fst rfl
  intro status _
  rw [Fallible.run_bind_ok (run_bindService.trans
    (congrArg₂ Prod.mk serves again))]
  apply Fallible.run_bind_fst (run_lookupGroups entry)
  intro groups _
  rfl

theorem run_connect :
    run directory.peer l.connect.run bound = (directory.opens l, none) := by
  have dialled : run directory.peer (ask (.dial l.hostPort)).run bound =
      (.ok directory.dials, none) := rfl
  unfold LdapAuthenticator.connect opens
  split
  · rw [Fallible.run_bind_ok dialled]
    cases directory.dials with
    | ok connected => rfl
    | error failure => rfl
  · split
    · rw [Fallible.run_bind_ok dialled]
      cases directory.dials with
      | error failure => rfl
      | ok connected =>
          have started : run directory.peer (ask (.startTLS l.tlsConfig)).run
              none = (.ok (directory.startsTLS l.tlsConfig), none) := rfl
          refine (Fallible.run_bind_ok started _).trans ?_
          cases directory.startsTLS l.tlsConfig with
          | ok secured => rfl
          | error failure => rfl
    · have dialled : run directory.peer
          (ask (.dialTLS l.hostPort l.tlsConfig)).run bound =
            (.ok (directory.dialsTLS l.tlsConfig), none) := rfl
      rw [Fallible.run_bind_ok dialled]
      cases directory.dialsTLS l.tlsConfig with
      | ok connected => rfl
      | error failure => rfl

theorem run_doConn {α : Type} (f : Session α) :
    (run directory.peer (l.doConn f).run bound).1 =
      (do
        directory.opens l
        (run directory.peer f.run none).1) := by
  apply Fallible.run_bind_fst run_connect
  intro opened _
  rw [Fallible.run_bind_ok (Fallible.run_lift f.run)]
  rfl

theorem run_lookupUser (login : String) :
    run directory.peer (l.lookupUser primitives login).run
        (some l.serviceCredentials) =
      (directory.locates l primitives login, some l.serviceCredentials) := by
  refine Fallible.run_bind_steady (run_search _) fun entries => ?_
  match entries with
  | [] => rfl
  | [entry] => rfl
  | _ :: _ :: _ => rfl

theorem admitted_of_serves (serves : directory.serves l = .ok ()) :
    directory.admits l.serviceCredentials = .ok () := by
  unfold Directory.serves at serves
  cases admits : directory.admits l.serviceCredentials with
  | ok admitted => rfl
  | error failure =>
      rw [admits] at serves
      cases serves

theorem run_examine (request : IdentityRequest) :
    (run directory.peer (l.examine primitives request).run bound).1 =
      (do
        directory.serves l
        directory.finds l primitives request) := by
  apply Fallible.run_bind_fst run_bindService
  intro _ serves
  have served := admitted_of_serves serves
  have bound : directory.boundBy l.serviceCredentials =
      some l.serviceCredentials := by rw [boundBy, served]
  rw [bound, finds]
  apply Fallible.run_bind_fst (run_lookupUser request.login)
  intro located _
  cases located with
  | none => rfl
  | some entry =>
      refine (Fallible.run_bind_fst rfl fun _ _ => rfl).trans ?_
      rw [run_examineEntry served]
      simp only [bind_assoc, pure_bind]
      rfl

/-- Over the connection the program gets what the directory shows to the
service account, and its judgement of the password. -/
theorem run_authenticate (directory : Directory) (l : LdapAuthenticator)
    (primitives : Primitives) (request : IdentityRequest)
    (bound : Option Credentials) :
    (run directory.peer (l.authenticate primitives request).run bound).1 =
      directory.identifies l primitives request := by
  refine (Fallible.run_bind_fst rfl fun _ _ => rfl).trans ?_
  rw [run_doConn, run_examine, identifies]
  simp only [bind_assoc]
  rfl

end Directory

end Kubauth.Ldap
