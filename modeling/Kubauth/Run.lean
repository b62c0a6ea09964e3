import Mathlib.Data.List.Induction

/-!
# Runs of labelled transition systems

A run lists the labels taken and the state reached.  The rules below restrict
the steps that a run may take, carry an invariant along it, and give the runs
of a system whose next state is a function.
-/

variable {σ : Type u} {α : Type v}

/-- `Run step start labels finish`: taking `labels` in order leads from
`start` to `finish`. -/
inductive Run (step : σ → α → σ → Prop) : σ → List α → σ → Prop where
  | nil (state : σ) : Run step state [] state
  | cons {start middle finish : σ} {label : α} {labels : List α} :
      step start label middle →
      Run step middle labels finish →
      Run step start (label :: labels) finish

/-- Only the steps that `guard` allows in the state they are taken from. -/
def Guarded (guard : σ → α → Prop) (step : σ → α → σ → Prop) :
    σ → α → σ → Prop :=
  fun start label finish => guard start label ∧ step start label finish

namespace Run

variable {step : σ → α → σ → Prop}

/-- A predicate kept by every step whose label occurs in the run is kept by
the whole run. -/
theorem invariant {start finish : σ} {labels : List α}
    (run : Run step start labels finish) (holds : σ → Prop)
    (preserved : ∀ before label after, label ∈ labels → holds before →
      step before label after → holds after)
    (initial : holds start) : holds finish := by
  induction run with
  | nil => exact initial
  | @cons start middle finish label labels taken _ induction =>
      apply induction
      · intro before later after member held step
        exact preserved before later after
          (List.mem_cons_of_mem label member) held step
      · exact preserved start label middle List.mem_cons_self initial taken

theorem mono {other : σ → α → σ → Prop} {start finish : σ} {labels : List α}
    (run : Run step start labels finish)
    (weaker : ∀ before label after, step before label after →
      other before label after) :
    Run other start labels finish := by
  induction run with
  | nil => exact .nil _
  | cons taken _ induction => exact .cons (weaker _ _ _ taken) induction

theorem append {start middle finish : σ} {first second : List α}
    (before : Run step start first middle)
    (after : Run step middle second finish) :
    Run step start (first ++ second) finish := by
  induction before with
  | nil => exact after
  | cons taken _ induction => exact .cons taken (induction after)

theorem split {start finish : σ} {first second : List α}
    (run : Run step start (first ++ second) finish) :
    ∃ middle, Run step start first middle ∧ Run step middle second finish := by
  induction first generalizing start with
  | nil => exact ⟨start, .nil start, run⟩
  | cons label labels induction =>
      cases run with
      | cons taken rest =>
          obtain ⟨middle, before, after⟩ := induction rest
          exact ⟨middle, .cons taken before, after⟩

theorem history {start finish : σ} {labels : List α}
    (run : Run step start labels finish) (holds : List α → σ → Prop)
    (preserved : ∀ past before label after, holds past before →
      step before label after → holds (past ++ [label]) after)
    {past : List α} (initial : holds past start) :
    holds (past ++ labels) finish := by
  induction run generalizing past with
  | nil => exact (List.append_nil past).symm ▸ initial
  | @cons start middle finish label labels taken _ induction =>
      have next := induction (preserved past start label middle initial taken)
      rwa [List.append_assoc] at next

/-- Runs of a system whose next state is a function of state and label. -/
theorem of_foldl (next : σ → α → σ) (start : σ) (labels : List α) :
    Run (fun before label after => after = next before label) start labels
      (labels.foldl next start) := by
  induction labels generalizing start with
  | nil => exact .nil start
  | cons label labels induction => exact .cons rfl (induction _)

/-- A guard that allows each label after those before it allows the whole
run. -/
theorem of_foldl_guarded {next : σ → α → σ} {guard : σ → α → Prop}
    {start : σ} {labels : List α}
    (allowed : ∀ before label, before ++ [label] <+: labels →
      guard (before.foldl next start) label) :
    Run (Guarded guard fun before label after => after = next before label)
      start labels (labels.foldl next start) := by
  induction labels generalizing start with
  | nil => exact .nil start
  | cons label labels induction =>
      have first : guard start label :=
        allowed [] label (List.prefix_append [label] labels)
      refine .cons ⟨first, rfl⟩ (induction ?_)
      intro before later taken
      exact allowed (label :: before) later
        ((List.prefix_cons_inj label).mpr taken)

/-- Where a good state has a good successor exactly under the labels that a
guard allows, all states of a run are good exactly if the guard allows all its
steps. -/
theorem foldl_good_iff {next : σ → α → σ} {start : σ} (holds : σ → Prop)
    {good : σ → Prop} {guard : σ → α → Prop}
    (initial : holds start)
    (kept : ∀ state label, holds state → holds (next state label))
    (starts : good start)
    (step : ∀ state label, holds state → good state →
      (good (next state label) ↔ guard state label))
    (labels : List α) :
    (∀ before, before <+: labels → good (before.foldl next start)) ↔
      ∀ before label, before ++ [label] <+: labels →
        guard (before.foldl next start) label := by
  have held : ∀ before : List α, holds (before.foldl next start) := by
    intro before
    refine (of_foldl next start before).invariant holds ?_ initial
    rintro state label after - held rfl
    exact kept state label held
  constructor
  · intro good before label taken
    have here := good before ((List.prefix_append before [label]).trans taken)
    have there := good (before ++ [label]) taken
    rw [List.foldl_append] at there
    exact (step _ label (held before) here).mp there
  · intro guarded before
    induction before using List.reverseRecOn with
    | nil => exact fun _ => starts
    | append_singleton before label induction =>
        intro taken
        have here :=
          induction ((List.prefix_append before [label]).trans taken)
        rw [List.foldl_append]
        exact (step _ label (held before) here).mpr
          (guarded before label taken)

end Run
