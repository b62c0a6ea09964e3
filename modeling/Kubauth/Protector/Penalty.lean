import Kubauth.Protector.Bfa
import Mathlib.Algebra.Order.Ring.Int
import Mathlib.Tactic.Linarith

/-!
# The delay of a failure

The delay is a product that is capped after it has been computed, in `int64`
arithmetic.  As long as the product fits, the delay is the capped product of
the integers, which grows with the number of failures.  The first product that
does not fit is read as a negative number, which no cap replaces.
-/

namespace Kubauth.Protector

/-! ## `int64` arithmetic -/

theorem wrap64_of_fits {value : Int} (low : -2 ^ 63 ≤ value)
    (high : value < 2 ^ 63) : wrap64 value = value := by
  apply Int.bmod_eq_of_le_mul_two
  · push_cast
    omega
  · push_cast
    omega

/-- A value that is too large by less than one turn becomes negative. -/
theorem wrap64_of_overflow {value : Int} (low : 2 ^ 63 ≤ value)
    (high : value < 2 ^ 64) : wrap64 value = value - 2 ^ 64 := by
  have turn : wrap64 value = wrap64 (value - 2 ^ 64) := by
    rw [wrap64, wrap64]
    exact (Int.sub_bmod_right value (2 ^ 64)).symm
  rw [turn]
  apply wrap64_of_fits
  · omega
  · omega

/-- The settings that the options accept: none is negative, and all are 64 bit
numbers. -/
structure Settings.InRange (settings : Settings) : Prop where
  freeFailure : 0 ≤ settings.freeFailure
  penaltyByFailure : 0 ≤ settings.penaltyByFailure
  maxPenalty : 0 ≤ settings.maxPenalty
  freeFailureFits : settings.freeFailure < 2 ^ 63
  penaltyByFailureFits : settings.penaltyByFailure < 2 ^ 63
  maxPenaltyFits : settings.maxPenalty < 2 ^ 63

/-- The delay that is meant: so much for each failure that is not free, and
never more than the maximum. -/
def Settings.penalty (settings : Settings) (count : Int) : Int :=
  min (max 0 (count - settings.freeFailure) * settings.penaltyByFailure)
    settings.maxPenalty

namespace Settings.InRange

variable {settings : Settings}

theorem penalty_nonneg (accepted : settings.InRange) (count : Int) :
    0 ≤ settings.penalty count :=
  le_min (mul_nonneg (le_max_left _ _) accepted.penaltyByFailure)
    accepted.maxPenalty

theorem penalty_mono (accepted : settings.InRange) {less more : Int}
    (ordered : less ≤ more) :
    settings.penalty less ≤ settings.penalty more := by
  have counted : max 0 (less - settings.freeFailure) ≤
      max 0 (more - settings.freeFailure) :=
    max_le_max_left 0 (by omega)
  exact min_le_min_right _
    (mul_le_mul_of_nonneg_right counted accepted.penaltyByFailure)

theorem penalty_eq_zero_iff (accepted : settings.InRange) (count : Int) :
    settings.penalty count = 0 ↔
      count ≤ settings.freeFailure ∨ settings.penaltyByFailure = 0 ∨
        settings.maxPenalty = 0 := by
  have product : 0 ≤
      max 0 (count - settings.freeFailure) * settings.penaltyByFailure :=
    mul_nonneg (le_max_left _ _) accepted.penaltyByFailure
  have free : max 0 (count - settings.freeFailure) = 0 ↔
      count ≤ settings.freeFailure := by
    rw [max_eq_left_iff]
    omega
  have maximum := accepted.maxPenalty
  rw [← free, ← or_assoc, ← mul_eq_zero, Settings.penalty]
  omega

end Settings.InRange

/-! ## Delays that are computed without overflow -/

namespace BfaProtector

variable {protector : BfaProtector} {count : Int}

theorem delayFromFailureCount_of_free
    (free : count ≤ protector.settings.freeFailure) :
    protector.delayFromFailureCount count = 0 := by
  rw [delayFromFailureCount, if_pos free]

theorem delayFromFailureCount_of_penalised
    (accepted : protector.settings.InRange) (counter : count < 2 ^ 63)
    (penalised : protector.settings.freeFailure < count) :
    protector.delayFromFailureCount count =
      min (wrap64 ((count - protector.settings.freeFailure) *
        protector.settings.penaltyByFailure))
        protector.settings.maxPenalty := by
  have free := accepted.freeFailure
  have difference : wrap64 (count - protector.settings.freeFailure) =
      count - protector.settings.freeFailure :=
    wrap64_of_fits (by omega) (by omega)
  rw [delayFromFailureCount, if_neg (by omega), difference,
    min_def]
  dsimp only
  split
  · rw [if_neg (by omega)]
  · rw [if_pos (by omega)]

theorem delayFromFailureCount_of_fits
    (accepted : protector.settings.InRange) (counter : count < 2 ^ 63)
    (fits : (count - protector.settings.freeFailure) *
      protector.settings.penaltyByFailure < 2 ^ 63) :
    protector.delayFromFailureCount count =
      protector.settings.penalty count := by
  by_cases free : count ≤ protector.settings.freeFailure
  · rw [delayFromFailureCount_of_free free,
      (accepted.penalty_eq_zero_iff count).mpr (.inl free)]
  · have product : 0 ≤ (count - protector.settings.freeFailure) *
        protector.settings.penaltyByFailure :=
      mul_nonneg (by omega) accepted.penaltyByFailure
    rw [delayFromFailureCount_of_penalised accepted counter (by omega),
      Settings.penalty, max_eq_right (by omega),
      wrap64_of_fits (by omega) fits]

theorem delayFromFailureCount_of_overflow
    (accepted : protector.settings.InRange) (counter : count < 2 ^ 63)
    (penalised : protector.settings.freeFailure < count)
    (low : 2 ^ 63 ≤ (count - protector.settings.freeFailure) *
      protector.settings.penaltyByFailure)
    (high : (count - protector.settings.freeFailure) *
      protector.settings.penaltyByFailure < 2 ^ 64) :
    protector.delayFromFailureCount count < 0 := by
  rw [delayFromFailureCount_of_penalised accepted counter penalised,
    wrap64_of_overflow low high]
  exact min_lt_of_left_lt (by omega)

/-- The first product that does not fit is less than one turn too large. -/
theorem exists_first_overflow {step products : Int} (nonneg : 0 ≤ step)
    (fits : step < 2 ^ 63) (overflow : 2 ^ 63 ≤ products * step) :
    ∃ first, 0 < first ∧ first ≤ products ∧ 2 ^ 63 ≤ first * step ∧
      first * step < 2 ^ 64 := by
  have positive : 0 < step := by
    obtain positive | zero := nonneg.lt_or_eq
    · exact positive
    · rw [← zero, mul_zero] at overflow
      omega
  let last : Int := (2 ^ 63 - 1) / step
  have below : last * step ≤ 2 ^ 63 - 1 := Int.ediv_mul_le _ positive.ne'
  have above : 2 ^ 63 - 1 < (last + 1) * step :=
    Int.lt_ediv_add_one_mul_self _ positive
  have next : (last + 1) * step = last * step + step :=
    add_one_mul last step
  refine ⟨last + 1, ?_, ?_, by omega, by omega⟩
  · exact Int.lt_add_one_of_le (Int.ediv_nonneg (by omega) nonneg)
  · by_contra small
    have bounded : products * step ≤ last * step :=
      mul_le_mul_of_nonneg_right (by omega) nonneg
    omega

/-! ## Counted failures -/

/-- The failures that are counted on a login. -/
def failureCount (protector : BfaProtector) (login : String) : Int :=
  ((protector.state? login).getD .zero).nbrOfFailure

/-- The protector after failures of one login at the given times. -/
def failures (protector : BfaProtector) (login : String)
    (times : List Int) : BfaProtector :=
  times.foldl (fun current now => (current.countFailure now login).1)
    protector

theorem allocated_new (settings : Settings) : (new settings).Allocated := by
  intro login address found
  cases found

/-- Step: the number that a failure is given is the number that is stored. -/
theorem failureCount_countFailure (allocated : protector.Allocated)
    (now : Int) (login : String) :
    (protector.countFailure now login).2.2 =
        wrap64 (protector.failureCount login + 1) ∧
      (protector.countFailure now login).1.failureCount login =
        wrap64 (protector.failureCount login + 1) := by
  obtain ⟨old, stored, number, rfl⟩ := countFailure_here allocated now login
  have counts := protector.countFailure_counts now login
  refine ⟨number, ?_⟩
  rw [failureCount, state?, counts.mapped, Option.bind_some, stored]
  rfl

/-- Run: failures are counted one by one, as far as an `int64` goes. -/
theorem failureCount_failures (settings : Settings) (login : String)
    (times : List Int) (counter : (times.length : Int) < 2 ^ 63) :
    ((new settings).failures login times).Allocated ∧
      ((new settings).failures login times).failureCount login =
        times.length := by
  induction times using List.reverseRecOn with
  | nil => exact ⟨allocated_new settings, rfl⟩
  | append_singleton earlier now induction =>
      rw [List.length_append, List.length_singleton] at counter
      push_cast at counter
      obtain ⟨allocated, count⟩ := induction (by omega)
      rw [failures, List.foldl_append]
      change (((new settings).failures login earlier).countFailure now
        login).1.Allocated ∧ _
      refine ⟨(countFailure_counts _ now login).allocated allocated, ?_⟩
      have step := (failureCount_countFailure allocated now login).2
      rw [count, wrap64_of_fits (by omega) counter] at step
      rw [List.length_append, List.length_singleton]
      push_cast
      exact step

/-! ## The law of the delays -/

/-- What is expected of the delays of `less` and of `more` failures. -/
structure PenaltyLaw (protector : BfaProtector) (less more : Int) :
    Prop where
  nonneg : 0 ≤ protector.delayFromFailureCount less
  mono : protector.delayFromFailureCount less ≤
    protector.delayFromFailureCount more
  bounded : protector.delayFromFailureCount more ≤
    protector.settings.maxPenalty
  zero : ∀ count, count = less ∨ count = more →
    (protector.delayFromFailureCount count = 0 ↔
      count ≤ protector.settings.freeFailure ∨
        protector.settings.penaltyByFailure = 0 ∨
        protector.settings.maxPenalty = 0)

/-- The law holds for the counts up to a limit if and only if the product that
is computed at the limit fits. -/
theorem penaltyLaw_iff_fits (protector : BfaProtector)
    (accepted : protector.settings.InRange) (limit : Int)
    (counter : limit < 2 ^ 63) :
    (∀ less more, 0 ≤ less → less ≤ more → more ≤ limit →
        protector.PenaltyLaw less more) ↔
      (limit - protector.settings.freeFailure) *
        protector.settings.penaltyByFailure < 2 ^ 63 := by
  constructor
  · intro law
    by_contra overflow
    obtain ⟨first, positive, reached, low, high⟩ :=
      exists_first_overflow accepted.penaltyByFailure
        accepted.penaltyByFailureFits (not_lt.mp overflow)
    have free := accepted.freeFailure
    -- the count at which the product stops fitting for the first time
    have same : first + protector.settings.freeFailure -
        protector.settings.freeFailure = first := by omega
    have negative : protector.delayFromFailureCount
        (first + protector.settings.freeFailure) < 0 :=
      delayFromFailureCount_of_overflow accepted (by omega) (by omega)
        (same.symm ▸ low) (same.symm ▸ high)
    have nonneg := (law (first + protector.settings.freeFailure) _
      (by omega) le_rfl (by omega)).nonneg
    omega
  · intro fits less more low ordered high
    have meant : ∀ count, count ≤ limit →
        protector.delayFromFailureCount count =
          protector.settings.penalty count := by
      intro count below
      have smaller : (count - protector.settings.freeFailure) *
          protector.settings.penaltyByFailure ≤
          (limit - protector.settings.freeFailure) *
            protector.settings.penaltyByFailure :=
        mul_le_mul_of_nonneg_right (by omega) accepted.penaltyByFailure
      exact delayFromFailureCount_of_fits accepted (by omega) (by omega)
    refine ⟨?_, ?_, ?_, ?_⟩
    · rw [meant less (by omega)]
      exact accepted.penalty_nonneg less
    · rw [meant less (by omega), meant more high]
      exact accepted.penalty_mono ordered
    · rw [meant more high]
      exact min_le_right _ _
    · intro count either
      rw [meant count (by omega)]
      exact accepted.penalty_eq_zero_iff count

theorem defaultSettings_inRange : defaultSettings.InRange := by
  constructor <;> decide

/-- With the default settings the law holds for the free failures and for nine
billion more. -/
theorem penaltyLaw_defaultSettings :
    (new defaultSettings).PenaltyLaw 4 9223372040 :=
  (penaltyLaw_iff_fits (new defaultSettings) defaultSettings_inRange
    9223372040 (by decide)).mpr (by decide) 4 9223372040 (by decide)
    (by decide) (by decide)

/-- The failure after them is counted, and its delay is negative. -/
theorem defaultSettings_negative_delay :
    (((new defaultSettings).failures "alice"
        (List.replicate 9223372040 0)).countFailure 0 "alice").2.2 =
      9223372041 ∧
    (new defaultSettings).delayFromFailureCount 9223372040 = 15 * second ∧
    (new defaultSettings).delayFromFailureCount 9223372041 =
      -9223372036709551616 := by
  have length : ((List.replicate 9223372040 (0 : Int)).length : Int) =
      9223372040 := by
    rw [List.length_replicate]
    rfl
  obtain ⟨allocated, count⟩ := failureCount_failures defaultSettings "alice"
    (List.replicate 9223372040 0) (by omega)
  refine ⟨?_, by decide, by decide⟩
  rw [(failureCount_countFailure allocated 0 "alice").1, count, length]
  decide

end BfaProtector

end Kubauth.Protector
