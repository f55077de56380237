import BooleanSearch.Proofs.Number.Powers

/-! Rounding leaves the finite numbers half a step beyond the largest one of them. -/

namespace BooleanSearch.Number

/-- Rounding moves a quotient up by less than one. -/
theorem roundQuotient_le (numerator denominator : Nat) :
    roundQuotient numerator denominator ≤ numerator / denominator + 1 := by
  unfold roundQuotient
  dsimp only
  split <;> omega

theorem le_roundQuotient (numerator denominator : Nat) :
    numerator / denominator ≤ roundQuotient numerator denominator := by
  unfold roundQuotient
  dsimp only
  split <;> omega

/-- A quotient is rounded to more than a number if it lies beyond the middle behind that number, or
in the middle if the number is odd. -/
theorem lt_roundQuotient_iff {numerator denominator : Nat} (positive : 0 < denominator)
    (number : Nat) : number < roundQuotient numerator denominator ↔
      (2 * number + 1) * denominator < 2 * numerator ∨
        (2 * number + 1) * denominator = 2 * numerator ∧ number % 2 = 1 := by
  have parts := Nat.div_add_mod numerator denominator
  have small := Nat.mod_lt numerator positive
  have middle : (2 * number + 1) * denominator = 2 * (denominator * number) + denominator := by
    rw [Nat.add_mul, Nat.one_mul, Nat.mul_assoc, Nat.mul_comm number]
  rw [middle]
  unfold roundQuotient
  dsimp only
  -- The quotient counts by its whole part and its rest alone, which are numbers like any others.
  generalize numerator / denominator = whole, numerator % denominator = rest at *
  rcases Nat.lt_trichotomy number whole with below | rfl | above
  · -- The whole part lies beyond that middle already.
    have next : denominator * number + denominator ≤ denominator * whole :=
      Nat.mul_le_mul_left denominator below
    split <;> omega
  · -- The rest alone decides.
    simp only [Bool.or_eq_true, decide_eq_true_eq, Bool.and_eq_true, beq_iff_eq]
    split <;> omega
  · -- The quotient stays below the number, so that rounding reaches the number at most.
    have next : denominator * whole + denominator ≤ denominator * number :=
      Nat.mul_le_mul_left denominator above
    split <;> omega

namespace Binary64

/-- The integers from the middle between the largest finite number and the next power of two on. -/
def IsBeyond (number : Int) : Prop := twoTo 1024 ≤ number.natAbs + twoTo 970

/-- No finite magnitude is nearest to what lies half a step beyond the largest one. -/
theorem nearest?_eq_none_iff (quanta : Nat) :
    nearest? quanta 1 = none ↔ bound ≤ quanta + twoTo 2044 := by
  have rounded : nearest? quanta 1 = none ↔
      bound ≤ roundQuotient quanta (step quanta) * step quanta := by
    simp [nearest?]
  have two : 2 = twoTo 1 := rfl
  rw [rounded, bound]
  -- The bound is the power of two behind the last grid, so that the exponents in front of the last
  -- one, the last one itself and those behind it are three cases of their own.
  rcases Nat.lt_trichotomy quanta.log2 2097 with small | last | large
  · -- Below half of the bound neither the quanta nor one step more come near to it.
    have grown : quanta < twoTo (quanta.log2 + 1) := Nat.lt_log2_self
    have within : twoTo (quanta.log2 + 1) ≤ twoTo 2097 := twoTo_le_twoTo.2 small
    have fine : step quanta ≤ twoTo 2044 := twoTo_le_twoTo.2 (by omega)
    -- Rounding moves to the next point of the grid at most.
    have moved : roundQuotient quanta (step quanta) * step quanta ≤ quanta + step quanta := by
      calc roundQuotient quanta (step quanta) * step quanta
        _ ≤ (quanta / step quanta + 1) * step quanta :=
          Nat.mul_le_mul_right _ (roundQuotient_le _ _)
        _ = quanta / step quanta * step quanta + step quanta := Nat.succ_mul _ _
        _ ≤ quanta + step quanta := Nat.add_le_add_right (Nat.div_mul_le_self _ _) _
    have double : twoTo 2097 * 2 = twoTo 2098 := by rw [two, ← twoTo_add]
    have far : twoTo 2044 < twoTo 2097 := twoTo_lt_twoTo.2 (by decide)
    constructor <;> omega
  · -- On the last grid the odd number of steps in front of the bound is left from its middle on.
    have grid : step quanta = twoTo 2045 := by rw [step, last]
    have half : twoTo 2044 * 2 = twoTo 2045 := by rw [two, ← twoTo_add]
    have places : 9007199254740992 * twoTo 2045 = twoTo 2098 := by
      rw [show 9007199254740992 = twoTo 53 from rfl, ← twoTo_add]
    rw [grid, ← places, Nat.mul_le_mul_right_iff (twoTo_pos 2045), Nat.succ_le_iff,
      lt_roundQuotient_iff (twoTo_pos 2045)]
    omega
  · -- The bound itself is passed, and rounding does not go back behind a power of two.
    have nonzero : quanta ≠ 0 := by
      rintro rfl
      rw [Nat.log2_zero] at large
      omega
    have reached : twoTo quanta.log2 ≤ quanta := Nat.log2_self_le nonzero
    have passed : twoTo 2098 ≤ twoTo quanta.log2 := twoTo_le_twoTo.2 large
    have steps : twoTo 52 * step quanta = twoTo quanta.log2 := by
      rw [step, ← twoTo_add]
      congr 1
      omega
    have whole : twoTo 52 ≤ quanta / step quanta := by
      have positive : 0 < step quanta := twoTo_pos _
      rw [Nat.le_div_iff_mul_le positive, steps]
      exact reached
    have kept : twoTo quanta.log2 ≤ roundQuotient quanta (step quanta) * step quanta := by
      rw [← steps]
      exact Nat.mul_le_mul_right _ (Nat.le_trans whole (le_roundQuotient _ _))
    constructor <;> omega

/-- An integer has no finite number near to it from half a step beyond the largest one on. -/
theorem ofInt?_eq_none_iff (number : Int) : ofInt? number = none ↔ IsBeyond number := by
  have scaled : twoTo 1024 * unit = twoTo 2098 := by rw [unit, ← twoTo_add]
  have half : twoTo 970 * unit = twoTo 2044 := by rw [unit, ← twoTo_add]
  -- The quanta of an integer are its multiple by the unit, on both sides of the bound.
  rw [ofInt?, Option.map_eq_none_iff, nearest?_eq_none_iff, IsBeyond, bound, ← scaled, ← half,
    ← Nat.add_mul]
  exact Nat.mul_le_mul_right_iff (twoTo_pos 1074)

end Binary64

end BooleanSearch.Number
