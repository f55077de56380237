import BooleanSearch.Number.Binary64

/-! Powers of two are binary64 numbers exactly, up to the power at which the finite ones end. -/

namespace BooleanSearch.Number

theorem twoTo_add (exponent other : Nat) :
    twoTo (exponent + other) = twoTo exponent * twoTo other :=
  Nat.pow_add 2 exponent other

theorem twoTo_pos (exponent : Nat) : 0 < twoTo exponent := Nat.two_pow_pos exponent

theorem twoTo_lt_twoTo {exponent other : Nat} :
    twoTo exponent < twoTo other ↔ exponent < other := by
  apply Nat.pow_lt_pow_iff_right
  decide

theorem twoTo_le_twoTo {exponent other : Nat} :
    twoTo exponent ≤ twoTo other ↔ exponent ≤ other := by
  apply Nat.pow_le_pow_iff_right
  decide

/-- A quotient without a remainder is not rounded. -/
theorem roundQuotient_mul (whole : Nat) {denominator : Nat} (positive : 0 < denominator) :
    roundQuotient (whole * denominator) denominator = whole := by
  have quotient : whole * denominator / denominator = whole := Nat.mul_div_cancel whole positive
  have remainder : whole * denominator % denominator = 0 := Nat.mul_mod_left whole denominator
  -- Nothing remains, and nothing is less than half of the denominator.
  simp [roundQuotient, quotient, remainder, positive]

namespace Binary64

/-- Beside a power of two that is not among the smallest ones the grid is fifty-two powers finer. -/
theorem step_twoTo {exponent : Nat} (large : 52 ≤ exponent) :
    step (twoTo exponent) = twoTo (exponent - 52) := by
  have digits : (twoTo exponent).log2 = exponent := Nat.log2_two_pow
  have places : exponent + 1 - 53 = exponent - 52 := by omega
  rw [step, digits, places]

/-- A power of two is its own nearest magnitude, unless it lies beyond the finite ones. -/
theorem nearest?_twoTo {exponent : Nat} (large : 52 ≤ exponent) :
    nearest? (twoTo exponent) 1 = if exponent < 2098 then some (twoTo exponent) else none := by
  -- The power is a whole number of steps of its grid, so that rounding changes nothing.
  have steps : twoTo exponent = twoTo 52 * twoTo (exponent - 52) := by
    rw [← twoTo_add]
    congr 1
    omega
  have rounded : roundQuotient (twoTo exponent) (twoTo (exponent - 52)) = twoTo 52 := by
    rw [steps]
    exact roundQuotient_mul (twoTo 52) (twoTo_pos _)
  simp only [nearest?, Nat.div_one, Nat.one_mul, step_twoTo large, rounded, ← steps, bound,
    twoTo_lt_twoTo]

/-- The power of two to an exponent is a binary64 number exactly for exponents below 1024. -/
theorem ofInt?_twoTo (exponent : Nat) :
    ofInt? (twoTo exponent) =
      if exponent < 1024 then some (.finite false (twoTo (exponent + 1074))) else none := by
  have quanta : (twoTo exponent : Int).natAbs * unit = twoTo (exponent + 1074) := by
    rw [Int.natAbs_natCast, unit, twoTo_add]
  have positive : ¬ (twoTo exponent : Int) < 0 := by omega
  -- Counted in quanta, the finite numbers end at the power 2098.
  have below : exponent + 1074 < 2098 ↔ exponent < 1024 := by omega
  rw [ofInt?, quanta, nearest?_twoTo (by omega)]
  simp only [below, positive, decide_false]
  split <;> rfl

end Binary64

end BooleanSearch.Number
