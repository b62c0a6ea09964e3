import Kubauth.Api
import Kubauth.Audit.Authenticator
import Kubauth.Sweep

/-!
# The cleaner of login attempts

A background process deletes the records whose lifetime is over.  It lists the
namespace and then deletes record after record, by name, while logins go on
creating records.  The API keeps the time of a record to the second only.
-/

namespace Kubauth.Audit

/-- A local time zone without a local time that is shown twice.  `unix` gives
the nanoseconds since the epoch. -/
structure Zone where
  unix : Time → Int
  steady : ∀ {first second}, SameMillisecond first second →
    unix first / 1000000 = unix second / 1000000

/-- The time of a record as it is read back from the API. -/
def Zone.listedWhen (zone : Zone) (record : LoginAttempt) : Int :=
  storedTime (zone.unix record.spec.when)

/-- `login.Spec.When.Time.Before(cutoffTime)`. -/
def expired (zone : Zone) (cutoffTime : Int) (record : LoginAttempt) : Bool :=
  zone.listedWhen record < cutoffTime

/-- The records of the namespace, and during a clean-up its cut-off time with
the listed records that the loop has not reached. -/
abbrev Namespace := Sweep.State Int LoginAttempt

/-- What happens to the namespace.  `withdraw` is a deletion by someone else,
and `next` the body of the cleaner's loop, with the outcome of its deletion. -/
inductive Event where
  | login (call : Call)
  | withdraw (name : String)
  | cleanupAudit (now : Int)
  | next (succeeds : Bool)

/-- The loop of `cleanupAudit` goes to its next record.  A deletion that fails
is logged and counted, and the loop goes on. -/
def cleanNext (zone : Zone) (present : Namespace) (succeeds : Bool) :
    Namespace :=
  match present.sweep with
  | none => present
  | some (_, []) => { present with sweep := none }
  | some (cutoffTime, login :: rest) =>
      if expired zone cutoffTime login then
        if succeeds then
          { records := present.records.filter (·.name ≠ login.name)
            sweep := some (cutoffTime, rest) }
        else { present with sweep := some (cutoffTime, rest) }
      else { present with sweep := some (cutoffTime, rest) }

/-- One event.  Clean-ups do not overlap: the loop of `startAuditCleaner` ends
one before it waits for its ticker.  A clean-up that cannot list does
nothing. -/
def step (zone : Zone) (recordLifetime : Int) (present : Namespace) :
    Event → Namespace
  | .login call =>
      { present with
        records :=
          (authenticate call.exchange present.records call.now
            call.request).2 }
  | .withdraw name =>
      { present with records := present.records.filter (·.name ≠ name) }
  | .cleanupAudit now =>
      match present.sweep with
      | some _ => present
      | none =>
          { present with
            sweep := some (now - recordLifetime, present.records) }
  | .next succeeds => cleanNext zone present succeeds

/-! ## The cleaner as a sweep -/

/-- What an event is for the sweep.  A login that fails is nothing. -/
def Event.sweep (recordLifetime : Int) :
    Event → Option (Sweep.Event Int String LoginAttempt)
  | .login call =>
      match call.exchange call.request with
      | .error _ => none
      | .ok response => some (.create (loginRecord call.now response))
  | .withdraw name => some (.withdraw name)
  | .cleanupAudit now => some (.list (now - recordLifetime))
  | .next succeeds => some (.visit succeeds)

variable (zone : Zone) (recordLifetime : Int)

theorem step_eq_sweep (present : Namespace) (event : Event) :
    step zone recordLifetime present event =
      (event.sweep recordLifetime).elim present
        (Sweep.step LoginAttempt.name (expired zone) present) := by
  cases event with
  | login call =>
      simp only [step, authenticate, Event.sweep]
      cases call.exchange call.request with
      | error failure => rfl
      | ok response =>
          simp only [createLoginAttemptRecord, Option.elim_some, Sweep.step]
          cases Creation.create LoginAttempt.name present.records
            (loginRecord call.now response) <;> rfl
  | withdraw name => rfl
  | cleanupAudit now => rcases present with ⟨records, _ | _⟩ <;> rfl
  | next succeeds =>
      rcases present with ⟨records, _ | ⟨cutoffTime, _ | ⟨login, rest⟩⟩⟩
      · rfl
      · rfl
      · simp only [step, cleanNext, Event.sweep, Option.elim_some, Sweep.step]
        cases expired zone cutoffTime login <;> cases succeeds <;> rfl

theorem foldl_step_eq_sweep (present : Namespace) (events : List Event) :
    events.foldl (step zone recordLifetime) present =
      (events.filterMap (·.sweep recordLifetime)).foldl
        (Sweep.step LoginAttempt.name (expired zone)) present := by
  induction events generalizing present with
  | nil => rfl
  | cons event events induction =>
      rw [List.foldl_cons, induction, step_eq_sweep, List.filterMap_cons]
      cases event.sweep recordLifetime <;> rfl

theorem sweep_inversion {event : Event}
    {taken : Sweep.Event Int String LoginAttempt}
    (sweeps : event.sweep recordLifetime = some taken) :
    match taken with
    | .create record => ∃ call response, event = .login call ∧
        record = loginRecord call.now response
    | .withdraw name => event = .withdraw name
    | .list cutoffTime => ∃ now, event = .cleanupAudit now ∧
        cutoffTime = now - recordLifetime
    | .visit succeeds => event = .next succeeds := by
  cases event with
  | login call =>
      simp only [Event.sweep] at sweeps
      split at sweeps
      · cases sweeps
      · next response _ =>
          cases sweeps
          exact ⟨call, response, rfl, rfl⟩
  | withdraw name =>
      cases sweeps
      rfl
  | cleanupAudit now =>
      cases sweeps
      exact ⟨now, rfl, rfl⟩
  | next succeeds =>
      cases sweeps
      rfl

/-! ## Names tell the time -/

/-- The name of the record is made of its own login and time. -/
def Named (record : LoginAttempt) : Prop :=
  record.name = recordName record.spec.user.login record.spec.when

theorem expired_of_name {zone : Zone} {first second : LoginAttempt}
    (named : Named first) (otherNamed : Named second)
    (same : first.name = second.name) (cutoffTime : Int) :
    expired zone cutoffTime first = expired zone cutoffTime second := by
  rw [named, otherNamed, recordName_inj] at same
  have millisecond := zone.steady same.2
  have listed : zone.listedWhen first = zone.listedWhen second := by
    unfold Zone.listedWhen storedTime
    omega
  unfold expired
  rw [listed]

theorem allNamed (events : List Event) :
    Sweep.AllGenuine Named
      (events.foldl (step zone recordLifetime) ⟨[], none⟩) := by
  rw [foldl_step_eq_sweep]
  refine Sweep.AllGenuine.run ⟨?_, ?_⟩ ?_
  · intro record present
    cases present
  · intro criterion rest sweeping
    cases sweeping
  · intro record created
    obtain ⟨event, -, creates⟩ := List.mem_filterMap.mp created
    obtain ⟨call, response, -, rfl⟩ := sweep_inversion _ creates
    rfl

/-! ## Retention -/

variable {zone recordLifetime}

/-- The cut-off time of a running clean-up lies one lifetime before it
began. -/
theorem cutoff_of_run {events : List Event} {cutoffTime : Int}
    {rest : List LoginAttempt}
    (cleaning : (events.foldl (step zone recordLifetime) ⟨[], none⟩).sweep =
      some (cutoffTime, rest)) :
    ∃ now, .cleanupAudit now ∈ events ∧ cutoffTime = now - recordLifetime := by
  rw [foldl_step_eq_sweep] at cleaning
  obtain ⟨event, member, lists⟩ :=
    List.mem_filterMap.mp (Sweep.listed_of_run rfl cleaning)
  obtain ⟨now, rfl, same⟩ := sweep_inversion _ lists
  exact ⟨now, member, same⟩

/-- A record that an event other than its withdrawal removes has the name of an
expired one. -/
theorem removed_by_cleaner {present : Namespace} {event : Event}
    {record : LoginAttempt} (before : record ∈ present.records)
    (removed : record ∉ (step zone recordLifetime present event).records)
    (cleaned : event ≠ .withdraw record.name) :
    ∃ cutoffTime listed rest,
      present.sweep = some (cutoffTime, listed :: rest) ∧
        expired zone cutoffTime listed = true ∧
        record.name = listed.name := by
  rw [step_eq_sweep] at removed
  cases swept : event.sweep recordLifetime with
  | none =>
      rw [swept] at removed
      exact absurd before removed
  | some taken =>
      rw [swept] at removed
      rcases Sweep.removed_step before removed with rfl | found
      · exact absurd (sweep_inversion _ swept) cleaned
      · exact found

/-- However logins, deletions and clean-ups interleave, the cleaner removes a
record only if its lifetime ended before the clean-up began, up to the second
in which the record was made. -/
theorem cleanup_spares_young {events : List Event} {event : Event}
    {record : LoginAttempt}
    (present : record ∈
      (events.foldl (step zone recordLifetime) ⟨[], none⟩).records)
    (removed : record ∉
      (step zone recordLifetime
        (events.foldl (step zone recordLifetime) ⟨[], none⟩) event).records)
    (cleaned : event ≠ .withdraw record.name) :
    ∃ now, .cleanupAudit now ∈ events ∧
      zone.unix record.spec.when + recordLifetime < now + 1000000000 := by
  have named := allNamed zone recordLifetime events
  have begun := @cutoff_of_run zone recordLifetime events
  generalize events.foldl (step zone recordLifetime) ⟨[], none⟩ = reached
    at present removed named begun
  obtain ⟨cutoffTime, listed, rest, cleaning, ended, same⟩ :=
    removed_by_cleaner present removed cleaned
  obtain ⟨now, started, rfl⟩ := begun cleaning
  refine ⟨now, started, ?_⟩
  rw [← expired_of_name (named.1 record present)
    (named.2 _ _ cleaning listed List.mem_cons_self) same, expired,
    decide_eq_true_iff, Zone.listedWhen, storedTime] at ended
  omega

/-- A zone in which every month has thirty-one days. -/
def sampleZone : Zone :=
  let seconds (time : Time) : Int :=
    ((((time.year * 12 + time.month) * 31 + time.day) * 24 + time.hour) * 60 +
      time.minute) * 60 + time.second
  { unix := fun time => seconds time * 1000000000 + time.nanosecond
    steady := by
      intro first second same
      have nanoseconds : first.nanosecond / 1000000 =
          second.nanosecond / 1000000 := same.millisecond
      simp only [seconds, same.year, same.month, same.day, same.hour,
        same.minute, same.second]
      omega }

/-- A login, and a clean-up that begins nine seconds later. -/
def sampleEvents : List Event :=
  [.login (sampleCall 589000000),
    .cleanupAudit (sampleZone.unix ⟨2025, 3, 14, 9, 27, 2, 0⟩)]

theorem cleanup_spares_young_sample :
    ∃ record now, .cleanupAudit now ∈ sampleEvents ∧
      record ∈ (sampleEvents.foldl (step sampleZone 8000000000)
        ⟨[], none⟩).records ∧
      record ∉ (step sampleZone 8000000000
        (sampleEvents.foldl (step sampleZone 8000000000) ⟨[], none⟩)
        (.next true)).records ∧
      sampleZone.unix record.spec.when + 8000000000 < now + 1000000000 := by
  have present : loginRecord (sampleCall 589000000).now sampleResponse ∈
      (sampleEvents.foldl (step sampleZone 8000000000)
        ⟨[], none⟩).records :=
    List.mem_singleton_self _
  have removed : loginRecord (sampleCall 589000000).now sampleResponse ∉
      (step sampleZone 8000000000
        (sampleEvents.foldl (step sampleZone 8000000000) ⟨[], none⟩)
        (.next true)).records := by
    intro kept
    simp [step, cleanNext, sampleEvents, authenticate, sampleCall,
      createLoginAttemptRecord, Creation.create, expired, Zone.listedWhen,
      storedTime, sampleZone, loginRecord] at kept
  obtain ⟨now, started, old⟩ := cleanup_spares_young present removed
    (fun same => Event.noConfusion same)
  exact ⟨_, now, started, present, removed, old⟩

/-- Once a clean-up is over whose deletions all succeeded, no record is left
whose lifetime had ended when it began, whatever else happened meanwhile. -/
theorem cleanup_thorough {present : Namespace} {events : List Event}
    {now : Int} {record : LoginAttempt} (lasting : 0 ≤ recordLifetime)
    (idle : present.sweep = none)
    (succeed : .next false ∉ events)
    (one : ∀ other, .cleanupAudit other ∉ events)
    (onward : ∀ call, .login call ∈ events → now ≤ zone.unix call.now)
    (ended : ((.cleanupAudit now :: events).foldl (step zone recordLifetime)
      present).sweep = none)
    (remains : record ∈
      ((.cleanupAudit now :: events).foldl (step zone recordLifetime)
        present).records) :
    now ≤ zone.unix record.spec.when + recordLifetime := by
  by_contra old
  have condemned : expired zone (now - recordLifetime) record = true := by
    rw [expired, decide_eq_true_iff, Zone.listedWhen, storedTime]
    omega
  rw [foldl_step_eq_sweep] at ended remains
  have created : .create record ∈
      events.filterMap (·.sweep recordLifetime) := by
    refine Sweep.swept idle ?_ ?_ ended remains condemned
    · intro failed
      obtain ⟨event, member, visits⟩ := List.mem_filterMap.mp failed
      rw [sweep_inversion _ visits] at member
      exact succeed member
    · intro cutoffTime again
      obtain ⟨event, member, lists⟩ := List.mem_filterMap.mp again
      obtain ⟨other, rfl, -⟩ := sweep_inversion _ lists
      exact one other member
  obtain ⟨event, member, creates⟩ := List.mem_filterMap.mp created
  obtain ⟨call, response, rfl, rfl⟩ := sweep_inversion _ creates
  have since := onward call member
  simp only [loginRecord] at old
  omega

/-- The record of a login forty seconds before the clean-up. -/
def sampleOld : LoginAttempt :=
  loginRecord ⟨2025, 3, 14, 9, 26, 0, 0⟩ sampleResponse

def sampleCleanup : Int := sampleZone.unix ⟨2025, 3, 14, 9, 26, 40, 0⟩

/-- The old record is deleted, and one that is created meanwhile is left. -/
theorem cleanup_thorough_sample :
    let reached := [Event.cleanupAudit sampleCleanup,
      .login (sampleCall 589000000), .next true, .next true].foldl
        (step sampleZone 8000000000) ⟨[sampleOld], none⟩
    reached.records.length = 1 ∧ ∃ record ∈ reached.records,
      sampleCleanup ≤ sampleZone.unix record.spec.when + 8000000000 := by
  intro reached
  have left : reached.records =
      [loginRecord (sampleCall 589000000).now sampleResponse] := rfl
  have remains : loginRecord (sampleCall 589000000).now sampleResponse ∈
      reached.records :=
    left ▸ List.mem_singleton_self _
  refine ⟨by rw [left]; rfl, _, remains,
    cleanup_thorough (by decide) rfl ?_ ?_ ?_ rfl remains⟩
  · simp
  · simp
  · intro call member
    have same : call = sampleCall 589000000 := by simpa using member
    subst same
    decide

end Kubauth.Audit
