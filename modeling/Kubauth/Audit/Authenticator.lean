import Kubauth.Creation
import Kubauth.Decimal
import Kubauth.Proto
import Kubauth.Separator

/-!
# The audit of login attempts

The audit authenticator passes a request on and leaves a record of the answer
in its namespace.  The name of a record is made of the login and of the local
time to the millisecond.  A record that cannot be created, because another has
its name, is missing: the error is logged and the login goes on.
-/

namespace Kubauth.Audit

/-- A reading of the clock, as shown in the local time zone. -/
structure Time where
  year : Nat
  month : Nat
  day : Nat
  hour : Nat
  minute : Nat
  second : Nat
  nanosecond : Nat
  deriving Repr, DecidableEq, Inhabited

def Time.millisecond (now : Time) : Nat :=
  now.nanosecond / 1000000

structure LoginAttemptUser where
  login : String
  uid : Option Int
  name : String
  emails : List String
  groups : List String
  claims : Option Claims
  deriving Repr, Inhabited

structure LoginAttemptDetailProvider where
  name : String
  claimAuthority : Bool
  credentialAuthority : Bool
  emailAuthority : Bool
  groupAuthority : Bool
  nameAuthority : Bool
  deriving Repr, DecidableEq, Inhabited

structure LoginAttemptDetailTranslated where
  claims : Claims
  groups : List String
  uid : Option Int
  deriving Repr, Inhabited

structure LoginAttemptDetail where
  provider : LoginAttemptDetailProvider
  user : LoginAttemptUser
  status : String
  translated : LoginAttemptDetailTranslated
  deriving Repr, Inhabited

structure LoginAttemptSpec where
  when : Time
  user : LoginAttemptUser
  authority : String
  status : String
  details : List LoginAttemptDetail
  deriving Repr, Inhabited

structure LoginAttempt where
  name : String
  labels : GoMap String String
  spec : LoginAttemptSpec
  deriving Repr, Inhabited

/-- The user of a record.  The claims are stored as the JSON document of which
they are the value, and nil claims are left out. -/
def convertUser (user : User) : LoginAttemptUser :=
  { login := user.login
    uid := user.uid
    name := user.name
    emails := user.emails
    groups := user.groups
    claims := user.claims }

def convertDetail (detail : UserDetail) : LoginAttemptDetail :=
  { provider :=
      { name := detail.provider.name
        claimAuthority := detail.provider.claimAuthority
        credentialAuthority := detail.provider.credentialAuthority
        emailAuthority := detail.provider.emailAuthority
        groupAuthority := detail.provider.groupAuthority
        nameAuthority := detail.provider.nameAuthority }
    user := convertUser detail.user
    status := detail.status
    translated :=
      { claims := detail.translated.claims
        groups := detail.translated.groups
        uid := detail.translated.uid } }

def convertDetails (details : List UserDetail) : List LoginAttemptDetail :=
  details.map convertDetail

/-- The format `%s-%04d-%02d-%02d-%02d-%02d-%02d-%03d`. -/
def recordName (login : String) (now : Time) : String :=
  login ++ "-" ++ Decimal.padded 4 now.year ++
    "-" ++ Decimal.padded 2 now.month ++
    "-" ++ Decimal.padded 2 now.day ++
    "-" ++ Decimal.padded 2 now.hour ++
    "-" ++ Decimal.padded 2 now.minute ++
    "-" ++ Decimal.padded 2 now.second ++
    "-" ++ Decimal.padded 3 now.millisecond

def loginRecord (now : Time) (response : IdentityResponse) : LoginAttempt :=
  { name := recordName response.user.login now
    labels := [("kubauth.kubotal.io/login", response.user.login)]
    spec :=
      { when := now
        user := convertUser response.user
        authority := response.authority
        status := response.status
        details := convertDetails response.details } }

/-- The records of the namespace once one more is created, or the error of the
API. -/
def createLoginAttemptRecord (records : List LoginAttempt) (now : Time)
    (response : IdentityResponse) : Except String (List LoginAttempt) :=
  match Creation.create LoginAttempt.name records
      (loginRecord now response) with
  | some created => .ok created
  | none =>
      .error ("loginattempts.kubauth.kubotal.io \"" ++
        recordName response.user.login now ++ "\" already exists")

/-- `auditAuthenticator.Authenticate`: what it returns, and the records of the
namespace afterwards. -/
def authenticate (exchange : Exchange) (records : List LoginAttempt)
    (now : Time) (request : IdentityRequest) :
    Except String IdentityResponse × List LoginAttempt :=
  match exchange request with
  | .error failure => (.error failure, records)
  | .ok response =>
      match createLoginAttemptRecord records now response with
      -- The failure is logged and does not fail the authentication.
      | .error _ => (.ok response, records)
      | .ok created => (.ok response, created)

/-- One call, with what its exchange does and what its clock shows. -/
structure Call where
  exchange : Exchange
  request : IdentityRequest
  now : Time

/-- The records after a sequence of calls. -/
def authenticateAll (records : List LoginAttempt) (calls : List Call) :
    List LoginAttempt :=
  calls.foldl
    (fun present call =>
      (authenticate call.exchange present call.now call.request).2) records

/-! ## Names of records -/

/-- Two readings that are the same to the millisecond. -/
structure SameMillisecond (one other : Time) : Prop where
  year : one.year = other.year
  month : one.month = other.month
  day : one.day = other.day
  hour : one.hour = other.hour
  minute : one.minute = other.minute
  second : one.second = other.second
  millisecond : one.millisecond = other.millisecond

/-- The parts of a name that come from the clock. -/
def timeFields (now : Time) : List (List Char) :=
  [(4, now.year), (2, now.month), (2, now.day), (2, now.hour),
    (2, now.minute), (2, now.second), (3, now.millisecond)].map fun field =>
      (Decimal.padded field.1 field.2).toList

theorem timeFields_inj {first second : Time} :
    timeFields first = timeFields second ↔ SameMillisecond first second := by
  simp only [timeFields, List.map_cons, List.map_nil, List.cons.injEq,
    and_true, String.toList_inj, Decimal.padded_inj]
  constructor
  · rintro ⟨year, month, day, hour, minute, second, millisecond⟩
    exact ⟨year, month, day, hour, minute, second, millisecond⟩
  · rintro ⟨year, month, day, hour, minute, second, millisecond⟩
    exact ⟨year, month, day, hour, minute, second, millisecond⟩

theorem length_timeFields (now : Time) : (timeFields now).length = 7 := by
  rw [timeFields, List.length_map]
  rfl

theorem hyphen_not_mem_timeFields (now : Time) :
    ∀ field ∈ timeFields now, '-' ∉ field := by
  rw [timeFields, List.forall_mem_map]
  exact fun field _ => Decimal.not_mem_padded field.1 field.2 rfl

theorem toList_recordName (login : String) (now : Time) :
    (recordName login now).toList =
      Separator.joinAll '-' login.toList (timeFields now) := by
  have hyphen : "-".toList = ['-'] := rfl
  unfold recordName
  simp only [timeFields, String.toList_append, hyphen,
    List.map_cons, List.map_nil, Separator.joinAll, List.foldl_cons,
    List.foldl_nil, List.append_assoc, List.cons_append, List.nil_append]

/-- A name tells the login and the millisecond, even of a login with hyphens. -/
theorem recordName_inj {login otherLogin : String} {now otherNow : Time} :
    recordName login now = recordName otherLogin otherNow ↔
      login = otherLogin ∧ SameMillisecond now otherNow := by
  have number : (timeFields now).length = (timeFields otherNow).length := by
    rw [length_timeFields, length_timeFields]
  rw [← String.toList_inj, toList_recordName, toList_recordName,
    Separator.joinAll_inj (hyphen_not_mem_timeFields now)
      (hyphen_not_mem_timeFields otherNow) number,
    String.toList_inj, timeFields_inj]

/-! ## Completeness of the records -/

/-- The time and the response of the calls whose exchange succeeds. -/
def answered (calls : List Call) : List (Time × IdentityResponse) :=
  calls.filterMap fun call =>
    match call.exchange call.request with
    | .error _ => none
    | .ok response => some (call.now, response)

/-- The records that the answers ask for. -/
def asked (answers : List (Time × IdentityResponse)) : List LoginAttempt :=
  answers.map fun answer => loginRecord answer.1 answer.2

theorem authenticate_records (exchange : Exchange)
    (records : List LoginAttempt) (now : Time) (request : IdentityRequest) :
    (authenticate exchange records now request).2 =
      Creation.createAll LoginAttempt.name records
        (asked (answered [⟨exchange, request, now⟩])) := by
  unfold authenticate answered asked
  cases answer : exchange request with
  | error failure =>
      simp only [List.filterMap_cons, answer]
      rfl
  | ok response =>
      simp only [createLoginAttemptRecord, List.filterMap_cons, answer,
        List.filterMap_nil, List.map_cons, List.map_nil, Creation.createAll,
        List.foldl_cons, List.foldl_nil]
      cases Creation.create LoginAttempt.name records
        (loginRecord now response) with
      | none => rfl
      | some created => rfl

theorem authenticateAll_eq (records : List LoginAttempt) (calls : List Call) :
    authenticateAll records calls =
      Creation.createAll LoginAttempt.name records (asked (answered calls)) := by
  induction calls generalizing records with
  | nil => rfl
  | cons call rest induction =>
      have split : asked (answered (call :: rest)) =
          asked (answered [call]) ++ asked (answered rest) := by
        rw [← List.singleton_append, answered, List.filterMap_append]
        exact List.map_append
      rw [authenticateAll, List.foldl_cons, authenticate_records, split,
        Creation.createAll, Creation.createAll, List.foldl_append]
      exact induction _

/-- The record tells what the answer says. -/
structure Records (answer : Time × IdentityResponse) (record : LoginAttempt) :
    Prop where
  login : record.spec.user.login = answer.2.user.login
  status : record.spec.status = answer.2.status
  authority : record.spec.authority = answer.2.authority
  details : record.spec.details = convertDetails answer.2.details

/-- The namespace holds what it held before and one record for each successful
exchange, in any order. -/
def Complete (before : List LoginAttempt) (calls : List Call)
    (after : List LoginAttempt) : Prop :=
  ∃ created, after.Perm (before ++ created) ∧
    List.Forall₂ Records (answered calls) created

theorem records_asked (answers : List (Time × IdentityResponse)) :
    List.Forall₂ Records answers (asked answers) := by
  rw [asked, List.forall₂_map_right_iff, List.forall₂_same]
  exact fun answer _ => ⟨rfl, rfl, rfl, rfl⟩

theorem complete_iff_fresh (records : List LoginAttempt) (calls : List Call) :
    Complete records calls (authenticateAll records calls) ↔
      Creation.Fresh LoginAttempt.name records (asked (answered calls)) := by
  rw [authenticateAll_eq]
  constructor
  · rintro ⟨created, same, each⟩
    apply Creation.fresh_of_length_createAll
    rw [same.length_eq, List.length_append, ← each.length_eq, asked,
      List.length_map]
  · intro fresh
    rw [fresh.createAll_eq]
    exact ⟨_, List.Perm.refl _, records_asked _⟩

/-- Every successful exchange leaves its own record exactly if no two of them
are for one login in one millisecond, and no record that was there before has
the name of one of them. -/
theorem audit_complete_iff (records : List LoginAttempt)
    (calls : List Call) :
    Complete records calls (authenticateAll records calls) ↔
      (answered calls).Pairwise (fun first second =>
        first.2.user.login = second.2.user.login →
          ¬SameMillisecond first.1 second.1) ∧
      ∀ answer ∈ answered calls, ∀ record ∈ records,
        record.name ≠ recordName answer.2.user.login answer.1 := by
  rw [complete_iff_fresh]
  have distinct : ((asked (answered calls)).map LoginAttempt.name).Nodup ↔
      (answered calls).Pairwise (fun first second =>
        first.2.user.login = second.2.user.login →
          ¬SameMillisecond first.1 second.1) := by
    rw [asked, List.map_map, List.Nodup, List.pairwise_map]
    simp only [Function.comp_apply, loginRecord, ne_eq, recordName_inj,
      not_and]
  have unused : (∀ record ∈ asked (answered calls),
        record.name ∉ records.map LoginAttempt.name) ↔
      ∀ answer ∈ answered calls, ∀ record ∈ records,
        record.name ≠ recordName answer.2.user.login answer.1 := by
    rw [asked, List.forall_mem_map]
    simp only [loginRecord, List.mem_map, not_exists, not_and, ne_eq]
  constructor
  · intro fresh
    exact ⟨distinct.mp fresh.distinct, unused.mp fresh.unused⟩
  · rintro ⟨apart, clear⟩
    exact ⟨distinct.mpr apart, unused.mpr clear⟩

/-- A login without any detail. -/
def sampleResponse : IdentityResponse :=
  { user := initUser "alice"
    status := Status.passwordChecked
    details := []
    authority := "ldap" }

/-- A call that succeeds at some nanosecond of one second. -/
def sampleCall (nanosecond : Nat) : Call :=
  { exchange := fun _ => .ok sampleResponse
    request := { login := "alice", password := "secret" }
    now := ⟨2025, 3, 14, 9, 26, 53, nanosecond⟩ }

/-- Two logins of one user in one millisecond leave a single record. -/
theorem audit_loses_record :
    ¬Complete [] [sampleCall 589000000, sampleCall 589793238]
      (authenticateAll [] [sampleCall 589000000, sampleCall 589793238]) := by
  rw [complete_iff_fresh]
  rintro ⟨distinct, -⟩
  have same : recordName "alice" (sampleCall 589000000).now =
      recordName "alice" (sampleCall 589793238).now :=
    recordName_inj.mpr ⟨rfl, rfl, rfl, rfl, rfl, rfl, rfl, rfl⟩
  exact (List.nodup_cons.mp distinct).1 (List.mem_singleton.mpr same)

end Kubauth.Audit
