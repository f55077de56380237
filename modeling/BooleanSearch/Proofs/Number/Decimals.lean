import BooleanSearch.Number.Integer
import Mathlib.Data.Nat.Digits.Defs

/-! Decimal texts of natural numbers: digits and nothing else, and not the same for two of them. -/

namespace BooleanSearch.Number

/-- The text of a natural number consists of its digits. -/
theorem toList_intText (number : Nat) :
    (intText number).toList = Nat.toDigits 10 number := by
  have unsigned : ¬ (number : Int) < 0 := by omega
  simp [intText, unsigned]

theorem notMem_intText {c : Char} (noDigit : c.isDigit = false) (number : Nat) :
    c ∉ (intText number).toList := by
  intro member
  rw [toList_intText] at member
  have digit : c.isDigit := Nat.isDigit_of_mem_toDigits (by decide) (by decide) member
  rw [noDigit] at digit
  contradiction

/-- Numbers are told apart by their texts. -/
theorem intText_injective : Function.Injective fun number : Nat => intText number := by
  intro number other same
  have digits : Nat.toDigits 10 number = Nat.toDigits 10 other := by
    have texts : (intText number).toList = (intText other).toList := congrArg String.toList same
    rwa [toList_intText, toList_intText] at texts
  -- The digits of a number spell it.
  rw [← Nat.ofDigitChars_toDigits (n := number) (b := 10) (by decide) (by decide), digits,
    Nat.ofDigitChars_toDigits (by decide) (by decide)]

end BooleanSearch.Number
