import Kubauth.Creation
import Kubauth.Run

/-!
# Sweeping a collection that is in use

A sweeper lists a collection of keyed records.  Then it goes over its list and
deletes, by key, each record that its criterion condemns.  Between any two of
these steps others create and withdraw records, so that the record a deletion
meets need not be the one that was listed.
-/

namespace Sweep

variable {α : Type u} {κ : Type v} {γ : Type w}

/-- The records, and during a sweep its criterion and what is left of its
list. -/
structure State (γ : Type w) (α : Type u) where
  records : List α
  sweep : Option (γ × List α)

inductive Event (γ : Type w) (κ : Type v) (α : Type u) where
  | create (record : α)
  | withdraw (key : κ)
  | list (criterion : γ)
  | visit (succeeds : Bool)

/-- The records without those under a key. -/
def remove [DecidableEq κ] (key : α → κ) (removed : κ) (records : List α) :
    List α :=
  records.filter fun record => key record ≠ removed

/-- One step.  A visit looks at the next record of the list, or ends the sweep
after the last. -/
def step [DecidableEq κ] (key : α → κ) (condemns : γ → α → Bool)
    (state : State γ α) : Event γ κ α → State γ α
  | .create record =>
      { state with
        records :=
          (Creation.create key state.records record).getD state.records }
  | .withdraw removed =>
      { state with records := remove key removed state.records }
  | .list criterion =>
      match state.sweep with
      | some _ => state
      | none => { state with sweep := some (criterion, state.records) }
  | .visit succeeds =>
      match state.sweep with
      | none => state
      | some (_, []) => { state with sweep := none }
      | some (criterion, record :: rest) =>
          { records :=
              if condemns criterion record && succeeds then
                remove key (key record) state.records
              else state.records
            sweep := some (criterion, rest) }

variable [DecidableEq κ] {key : α → κ} {condemns : γ → α → Bool}
  {state : State γ α} {event : Event γ κ α} {record : α}

theorem mem_remove {removed : κ} {records : List α} :
    record ∈ remove key removed records ↔
      record ∈ records ∧ key record ≠ removed := by
  rw [remove, List.mem_filter, decide_eq_true_iff]

/-- A record is there because it was before, or because the step creates
it. -/
theorem mem_step (present : record ∈ (step key condemns state event).records) :
    record ∈ state.records ∨ event = .create record := by
  cases event with
  | create created =>
      simp only [step, Creation.create] at present
      split at present
      · exact .inl present
      · rw [Option.getD_some, List.mem_append, List.mem_singleton] at present
        rcases present with before | rfl
        · exact .inl before
        · exact .inr rfl
  | withdraw removed => exact .inl (mem_remove.mp present).1
  | list criterion =>
      simp only [step] at present
      split at present <;> exact .inl present
  | visit succeeds =>
      simp only [step] at present
      split at present
      · exact .inl present
      · exact .inl present
      · split at present
        · exact .inl (mem_remove.mp present).1
        · exact .inl present

/-- Only a withdrawal or a sweep removes a record, and a sweep removes one
under the key of a record that it listed and condemns. -/
theorem removed_step (present : record ∈ state.records)
    (absent : record ∉ (step key condemns state event).records) :
    event = .withdraw (key record) ∨
      ∃ criterion listed rest,
        state.sweep = some (criterion, listed :: rest) ∧
          condemns criterion listed = true ∧ key record = key listed := by
  cases event with
  | create created =>
      refine absurd ?_ absent
      simp only [step, Creation.create]
      split
      · exact present
      · exact List.mem_append_left _ present
  | withdraw removed =>
      left
      by_contra other
      apply absent
      refine mem_remove.mpr ⟨present, fun same => other ?_⟩
      rw [same]
  | list criterion =>
      refine absurd ?_ absent
      simp only [step]
      split <;> exact present
  | visit succeeds =>
      simp only [step] at absent
      split at absent
      · exact absurd present absent
      · exact absurd present absent
      · next criterion listed rest sweeping =>
          split at absent
          · next condemned =>
              rw [Bool.and_eq_true] at condemned
              refine .inr ⟨criterion, listed, rest, sweeping, condemned.1, ?_⟩
              by_contra other
              exact absent (mem_remove.mpr ⟨present, other⟩)
          · exact absurd present absent

/-! ## What holds of every record -/

/-- All records are genuine, those of the list included. -/
def AllGenuine (genuine : α → Prop) (state : State γ α) : Prop :=
  (∀ record ∈ state.records, genuine record) ∧
    ∀ criterion rest, state.sweep = some (criterion, rest) →
      ∀ record ∈ rest, genuine record

theorem AllGenuine.step {genuine : α → Prop}
    (all : AllGenuine genuine state)
    (created : ∀ record, event = .create record → genuine record) :
    AllGenuine genuine (step key condemns state event) := by
  refine ⟨fun record present => ?_, ?_⟩
  · cases mem_step present with
    | inl before => exact all.1 record before
    | inr creates => exact created record creates
  · intro criterion rest sweeping
    cases event with
    | create record => exact all.2 criterion rest sweeping
    | withdraw removed => exact all.2 criterion rest sweeping
    | list other =>
        simp only [Sweep.step] at sweeping
        split at sweeping
        · exact all.2 criterion rest sweeping
        · cases sweeping
          exact all.1
    | visit succeeds =>
        simp only [Sweep.step] at sweeping
        split at sweeping
        · exact all.2 criterion rest sweeping
        · cases sweeping
        · next listed remaining before =>
            cases sweeping
            intro record member
            exact all.2 _ _ before record (List.mem_cons_of_mem listed member)

theorem AllGenuine.run {genuine : α → Prop} {events : List (Event γ κ α)}
    (all : AllGenuine genuine state)
    (created : ∀ record, .create record ∈ events → genuine record) :
    AllGenuine genuine (events.foldl (Sweep.step key condemns) state) := by
  refine (Run.of_foldl _ _ _).invariant (AllGenuine genuine) ?_ all
  rintro before event after member held rfl
  exact held.step fun record creates => created record (creates ▸ member)

theorem listed_of_run {events : List (Event γ κ α)} {criterion : γ}
    {rest : List α} (idle : state.sweep = none)
    (sweeping : (events.foldl (step key condemns) state).sweep =
      some (criterion, rest)) :
    .list criterion ∈ events := by
  suffices begun : ∀ rest,
      (events.foldl (step key condemns) state).sweep =
        some (criterion, rest) → .list criterion ∈ events from
    begun rest sweeping
  refine (Run.of_foldl _ _ _).invariant
    (fun reached : State γ α => ∀ rest,
      reached.sweep = some (criterion, rest) → .list criterion ∈ events) ?_ ?_
  · rintro before event after member begun rfl rest under
    cases event with
    | create record => exact begun rest under
    | withdraw removed => exact begun rest under
    | list other =>
        simp only [step] at under
        split at under
        · exact begun rest under
        · cases under
          exact member
    | visit succeeds =>
        simp only [step] at under
        split at under
        · exact begun rest under
        · cases under
        · next earlier =>
            cases under
            exact begun _ earlier
  · intro rest under
    rw [idle] at under
    cases under

/-! ## What a whole sweep removes -/

/-- During a sweep under the criterion, the condemned records are in what is
left of the list, or were created since. -/
structure Sweeping (condemns : γ → α → Bool) (criterion : γ)
    (since : List α) (rest : List α) (state : State γ α) : Prop where
  under : state.sweep = some (criterion, rest) ∨
    state.sweep = none ∧ rest = []
  condemned : ∀ record ∈ state.records, condemns criterion record = true →
    record ∈ rest ∨ record ∈ since

theorem sweeping_list {criterion : γ} (idle : state.sweep = none)
    (since : List α) :
    Sweeping condemns criterion since state.records
      (step key condemns state (.list criterion)) := by
  constructor
  · simp [step, idle]
  · intro record present _
    simp only [step, idle] at present
    exact .inl present

theorem Sweeping.step {criterion : γ} {since rest : List α}
    (sweeping : Sweeping condemns criterion since rest state)
    (created : ∀ record, event = .create record → record ∈ since)
    (succeeds : event ≠ .visit false)
    (same : ∀ other, event ≠ .list other) :
    ∃ left, Sweeping condemns criterion since left
      (Sweep.step key condemns state event) := by
  obtain ⟨under, condemned⟩ := sweeping
  cases event with
  | create record =>
      refine ⟨rest, under, fun other present condemns => ?_⟩
      cases mem_step present with
      | inl before => exact condemned other before condemns
      | inr creates => exact .inr (created other creates)
  | withdraw removed =>
      refine ⟨rest, under, fun other present => ?_⟩
      exact condemned other (mem_remove.mp present).1
  | list other => exact absurd rfl (same other)
  | visit done =>
      cases done with
      | false => exact absurd rfl succeeds
      | true =>
      rcases under with sweeping | ⟨idle, rfl⟩
      · cases rest with
        | nil =>
            refine ⟨[], .inr ⟨by simp [Sweep.step, sweeping], rfl⟩, ?_⟩
            simp only [Sweep.step, sweeping]
            exact condemned
        | cons listed rest =>
            refine ⟨rest, .inl (by simp [Sweep.step, sweeping]), ?_⟩
            simp only [Sweep.step, sweeping, Bool.and_true]
            intro record present condemns
            split at present
            · obtain ⟨before, other⟩ := mem_remove.mp present
              cases condemned record before condemns with
              | inl member =>
                  rcases List.mem_cons.mp member with rfl | further
                  · exact absurd rfl other
                  · exact .inl further
              | inr since => exact .inr since
            · next spared =>
                cases condemned record present condemns with
                | inl member =>
                    rcases List.mem_cons.mp member with rfl | further
                    · exact absurd condemns spared
                    · exact .inl further
                | inr since => exact .inr since
      · refine ⟨[], .inr ⟨by simp [Sweep.step, idle], rfl⟩, ?_⟩
        simp only [Sweep.step, idle]
        exact condemned

/-- Run: once a sweep whose deletions all succeed is over, the condemned
records that remain were created since it began. -/
theorem swept {criterion : γ} {events : List (Event γ κ α)}
    (idle : state.sweep = none)
    (succeed : .visit false ∉ events) (one : ∀ other, .list other ∉ events)
    (ended : (events.foldl (step key condemns)
      (step key condemns state (.list criterion))).sweep = none)
    (present : record ∈ (events.foldl (step key condemns)
      (step key condemns state (.list criterion))).records)
    (condemned : condemns criterion record = true) :
    .create record ∈ events := by
  let created := events.filterMap fun
    | .create record => some record
    | _ => none
  obtain ⟨rest, under, remaining⟩ :
      ∃ rest, Sweeping condemns criterion created rest
        (events.foldl (step key condemns)
          (step key condemns state (.list criterion))) := by
    refine (Run.of_foldl _ _ _).invariant
      (fun reached => ∃ rest,
        Sweeping condemns criterion created rest reached) ?_
      ⟨_, sweeping_list idle created⟩
    rintro before event after member ⟨rest, sweeping⟩ rfl
    refine sweeping.step ?_ ?_ ?_
    · rintro record rfl
      exact List.mem_filterMap.mpr ⟨_, member, rfl⟩
    · rintro rfl
      exact succeed member
    · rintro other rfl
      exact one other member
  have finished : rest = [] := by
    rcases under with sweeping | ⟨-, empty⟩
    · rw [ended] at sweeping
      cases sweeping
    · exact empty
  rcases remaining record present condemned with left | since
  · rw [finished] at left
    cases left
  · obtain ⟨event, member, creates⟩ := List.mem_filterMap.mp since
    cases event with
    | create other =>
        cases creates
        exact member
    | _ => cases creates

end Sweep
