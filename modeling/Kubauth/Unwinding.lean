import Mathlib.Data.List.Basic

/-!
# Unwinding

A system takes labels one after the other, and some of them let an observer see
something.  Taking labels out of a run is not seen if the states of both runs
stay alike, for a relation that the remaining labels keep on both sides and the
removed ones on one side.
-/

variable {σ : Type u} {α : Type v} {ω : Type w}

/-- What is seen along a run. -/
def observations (next : σ → α → σ) (observe : σ → α → Option ω) :
    σ → List α → List ω
  | _, [] => []
  | state, label :: labels =>
      (observe state label).toList ++
        observations next observe (next state label) labels

section

variable (next : σ → α → σ) (observe : σ → α → Option ω)

theorem observations_append (state : σ) (first second : List α) :
    observations next observe state (first ++ second) =
      observations next observe state first ++
        observations next observe (first.foldl next state) second := by
  induction first generalizing state with
  | nil => rfl
  | cons label first induction =>
      rw [List.cons_append, observations, observations, induction,
        List.append_assoc, List.foldl_cons]

theorem observations_eq_nil (state : σ) {labels : List α}
    (hidden : ∀ label ∈ labels, ∀ state, observe state label = none) :
    observations next observe state labels = [] := by
  induction labels generalizing state with
  | nil => rfl
  | cons label labels induction =>
      rw [observations, hidden label List.mem_cons_self,
        induction _ fun later member =>
          hidden later (List.mem_cons_of_mem label member)]
      rfl

/-- What removed labels have to satisfy, and what the others have to. -/
structure Unwinds (alike : σ → σ → Prop) (keep : α → Bool) : Prop where
  kept : ∀ full reduced label, alike full reduced → keep label = true →
    alike (next full label) (next reduced label)
  removed : ∀ full reduced label, alike full reduced → keep label = false →
    alike (next full label) reduced
  seen : ∀ full reduced label, alike full reduced → keep label = true →
    observe reduced label = observe full label
  unseen : ∀ full reduced label, alike full reduced → keep label = false →
    observe full label = none

variable {next observe}

theorem Unwinds.observations_filter {alike : σ → σ → Prop} {keep : α → Bool}
    (unwinds : Unwinds next observe alike keep) {full reduced : σ}
    (related : alike full reduced) (labels : List α) :
    observations next observe reduced (labels.filter keep) =
      observations next observe full labels := by
  induction labels generalizing full reduced with
  | nil => rfl
  | cons label labels induction =>
      rw [List.filter_cons, observations]
      cases decision : keep label with
      | true =>
          have after := unwinds.kept full reduced label related decision
          rw [if_pos rfl, observations, induction after,
            unwinds.seen full reduced label related decision]
      | false =>
          have after := unwinds.removed full reduced label related decision
          rw [if_neg Bool.false_ne_true, induction after,
            unwinds.unseen full reduced label related decision]
          rfl

end
