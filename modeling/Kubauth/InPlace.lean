import Mathlib.Init

/-!
# Programs that work in place and may fail

A handler that is given a pointer reads and writes what it points to, and
returns an error or nothing.  An error keeps what was written before it.
-/

/-- A program over a state `σ` that may fail with an `ε`. -/
abbrev InPlace (ε σ α : Type) := ExceptT ε (StateM σ) α

namespace InPlace

variable {ε σ α β : Type}

/-- The result of a program, with the state that it leaves. -/
def exec (program : InPlace ε σ α) (state : σ) : Except ε α × σ :=
  StateT.run (ExceptT.run program) state

/-- Stop with the failure unless the condition holds. -/
def check (allowed : Bool) (failure : ε) : InPlace ε σ Unit :=
  if allowed then pure () else throw failure

/-- How a computation that returns the new state would work in place: it
writes nothing unless it succeeds. -/
def atomically (outcome : Except ε σ) (state : σ) : Except ε Unit × σ :=
  match outcome with
  | .ok after => (.ok (), after)
  | .error failure => (.error failure, state)

theorem exec_get_bind (next : σ → InPlace ε σ α) (state : σ) :
    exec (get >>= next) state = exec (next state) state :=
  rfl

/-- A program that fails keeps what it wrote. -/
theorem exec_bind (program : InPlace ε σ α) (next : α → InPlace ε σ β)
    (state : σ) :
    exec (program >>= next) state =
      match exec program state with
      | (.ok result, after) => exec (next result) after
      | (.error failure, after) => (.error failure, after) := by
  change (ExceptT.bindCont next (exec program state).1).run
    (exec program state).2 = _
  rcases exec program state with ⟨_ | result, after⟩ <;> rfl

/-- A check does not write, so what follows it may be read as atomic. -/
theorem exec_check_bind {allowed : Bool} {failure : ε}
    {next : Unit → InPlace ε σ Unit} {outcome : Except ε σ} {state : σ}
    (refused : allowed = false → outcome = .error failure)
    (passed : allowed = true →
      exec (next ()) state = atomically outcome state) :
    exec (check allowed failure >>= next) state =
      atomically outcome state := by
  cases allowed with
  | true => exact passed rfl
  | false =>
      rw [refused rfl]
      rfl

theorem exec_forM_check_bind {items : List α} {allowed : α → Bool}
    {failure : α → ε} {next : Unit → InPlace ε σ Unit}
    {outcome : Except ε σ} {state : σ}
    (refused : ∀ item, items.find? (fun item => ¬allowed item) = some item →
      outcome = .error (failure item))
    (passed : items.find? (fun item => ¬allowed item) = none →
      exec (next ()) state = atomically outcome state) :
    exec ((forM items fun item => check (allowed item) (failure item)) >>= next)
        state =
      atomically outcome state := by
  induction items with
  | nil => exact passed rfl
  | cons item items induction =>
      rw [List.forM_cons, bind_assoc]
      apply exec_check_bind
      · intro rejected
        apply refused
        rw [List.find?_cons_of_pos]
        simp [rejected]
      · intro accepted
        have skip : (item :: items).find? (fun item => ¬allowed item) =
            items.find? (fun item => ¬allowed item) := by
          rw [List.find?_cons_of_neg]
          simp [accepted]
        rw [skip] at refused passed
        exact induction refused passed

end InPlace
