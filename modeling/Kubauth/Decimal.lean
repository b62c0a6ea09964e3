import Mathlib.Data.List.Basic

/-!
# Decimals padded with zeros

A number is written with at least a given number of digits.  Leading zeros do
not change the number that is read back, so that two numbers padded to the
same width are written alike only if they are equal.
-/

namespace Decimal

/-- The digits of a number, after as many zeros as the width asks for. -/
def padded (width value : Nat) : String :=
  String.ofList (List.leftpad width '0' (Nat.toDigits 10 value))

theorem toList_padded (width value : Nat) :
    (padded width value).toList =
      List.replicate (width - (Nat.toDigits 10 value).length) '0' ++
        Nat.toDigits 10 value :=
  String.toList_ofList

theorem ofDigitChars_replicate_zero (count : Nat) :
    Nat.ofDigitChars 10 (List.replicate count '0') 0 = 0 := by
  induction count with
  | zero => rfl
  | succ count induction =>
      rw [List.replicate_succ, Nat.ofDigitChars_cons]
      exact induction

theorem ofDigitChars_padded (width value : Nat) :
    Nat.ofDigitChars 10 (padded width value).toList 0 = value := by
  rw [toList_padded, Nat.ofDigitChars_append, ofDigitChars_replicate_zero]
  exact Nat.ofDigitChars_toDigits (by decide) (by decide)

theorem padded_inj {width value other : Nat} :
    padded width value = padded width other ↔ value = other := by
  constructor
  · intro same
    rw [← ofDigitChars_padded width value, same, ofDigitChars_padded]
  · exact congrArg (padded width)

theorem not_mem_padded {symbol : Char} (width value : Nat)
    (other : symbol.isDigit = false) :
    symbol ∉ (padded width value).toList := by
  rw [toList_padded, List.mem_append]
  rintro (zero | digit)
  · rw [List.eq_of_mem_replicate zero] at other
    cases other
  · rw [Nat.isDigit_of_mem_toDigits (by decide) (by decide) digit] at other
    cases other

end Decimal
