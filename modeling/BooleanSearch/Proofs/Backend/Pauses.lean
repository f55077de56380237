import BooleanSearch.Backend.Client
import BooleanSearch.Proofs.Number.Powers

/-! Pauses between attempts: which of them can be reckoned, and how long they are. -/

namespace BooleanSearch.Backend

open Number

/-- The random part of a pause: from nothing up to three tenths of a second. -/
structure IsRandomPart (drawn : Binary64) : Prop where
  number : drawn ≠ .nan
  least : drawn.less .zero = false
  most : (Binary64.ofHundredths 30).less drawn = false

/-- A pause that can be made: from nothing up to eight seconds. -/
def IsPause (pause : Binary64) : Prop :=
  ∃ quanta, pause = .finite false quanta ∧ quanta ≤ 8 * Binary64.unit

/-- A number of at least zero, which may be infinite. -/
def IsAmount (number : Binary64) : Prop :=
  (∃ quanta, number = .finite false quanta) ∨ number = .infinite false

/-- The pause behind an attempt can be reckoned for the first 1024 attempts, and for no other. -/
theorem pauseBehind_isSome_iff (attempt : Nat) (drawn : Binary64) :
    (pauseBehind attempt drawn).isSome ↔ attempt ≤ 1024 := by
  -- The factor that doubles is the only part that need not be a number.
  have places : attempt - 1 < 1024 ↔ attempt ≤ 1024 := by omega
  rw [pauseBehind, Option.isSome_map, Binary64.ofInt?_twoTo, ← places]
  by_cases small : attempt - 1 < 1024 <;> simp [small]

/-- A quotient of natural numbers is rounded to an amount. -/
theorem isAmount_ofQuotient (numerator denominator : Nat) :
    IsAmount (.ofQuotient false numerator denominator) := by
  unfold Binary64.ofQuotient
  cases Binary64.nearest? numerator denominator with
  | none => exact .inr rfl
  | some quanta => exact .inl ⟨quanta, rfl⟩

/-- A random part is finite, and does not lie below zero. -/
theorem IsRandomPart.finite {drawn : Binary64} (random : IsRandomPart drawn) :
    ∃ negative quanta, drawn = .finite negative quanta ∧ 0 ≤ Binary64.signed negative quanta := by
  have least := random.least
  have most := random.most
  cases drawn with
  | nan => exact absurd rfl random.number
  | infinite negative =>
    have limit : Binary64.ofHundredths 30 = .finite false (5404319552844595 * twoTo 1020) := by
      decide +kernel
    rw [limit] at most
    -- One of the infinite numbers lies below zero, and the other one beyond three tenths.
    cases negative with
    | true => exact absurd least (by decide)
    | false => simp only [Binary64.less, Bool.not_false, Bool.true_eq_false] at most
  | finite negative quanta =>
    refine ⟨negative, quanta, rfl, ?_⟩
    simpa [Binary64.less, Binary64.zero, Binary64.signed] using least

/-- An amount with a random part added to it is an amount. -/
theorem IsAmount.add {number drawn : Binary64} (amount : IsAmount number)
    (random : IsRandomPart drawn) : IsAmount (number.add drawn) := by
  obtain ⟨negative, part, rfl, positive⟩ := random.finite
  obtain ⟨quanta, rfl⟩ | rfl := amount
  · have total : 0 ≤ Binary64.signed false quanta + Binary64.signed negative part := by
      have unsigned : Binary64.signed false quanta = quanta := rfl
      omega
    rw [Binary64.add]
    generalize Binary64.signed false quanta + Binary64.signed negative part = sum at total
    -- A sum of nothing has no sign, since one of its parts has none.
    by_cases nothing : sum = 0
    · exact .inl ⟨0, by simp [nothing]⟩
    · have unsigned : ¬ sum < 0 := by omega
      simpa [nothing, unsigned] using isAmount_ofQuotient sum.natAbs 1
  · exact .inr rfl

/-- An amount is cut down to a pause that can be made. -/
theorem IsAmount.isPause_atMost {number : Binary64} (amount : IsAmount number) :
    IsPause (number.atMost longestPause) := by
  have limit : longestPause = .finite false (8 * Binary64.unit) := by decide +kernel
  rw [limit, IsPause]
  generalize 8 * Binary64.unit = most
  obtain ⟨quanta, rfl⟩ | rfl := amount
  · -- The smaller one of the two is taken.
    by_cases beyond : most < quanta
    · exact ⟨most, by simp [Binary64.atMost, Binary64.less, Binary64.signed, beyond],
        Nat.le_refl most⟩
    · exact ⟨quanta, by simp [Binary64.atMost, Binary64.less, Binary64.signed, beyond],
        Nat.le_of_not_lt beyond⟩
  · exact ⟨most, rfl, Nat.le_refl most⟩

/-- A pause that can be reckoned can be made. -/
theorem isPause_of_pauseBehind {attempt : Nat} {drawn pause : Binary64}
    (random : IsRandomPart drawn) (reckoned : pauseBehind attempt drawn = some pause) :
    IsPause pause := by
  rw [pauseBehind, Binary64.ofInt?_twoTo] at reckoned
  obtain ⟨factor, found, rfl⟩ := Option.map_eq_some_iff.1 reckoned
  have finite : ∃ quanta, factor = .finite false quanta := by
    by_cases small : attempt - 1 < 1024
    · exact ⟨_, by simpa [small] using found.symm⟩
    · simp [small] at found
  obtain ⟨quanta, rfl⟩ := finite
  -- The product, the sum and the limit all keep it an amount.
  have base : basePause = .finite false (twoTo 1073) := by decide +kernel
  have product : IsAmount (basePause.mul (.finite false quanta)) := by
    rw [base, Binary64.mul, bne_self_eq_false]
    exact isAmount_ofQuotient (twoTo 1073 * quanta) Binary64.unit
  exact (product.add random).isPause_atMost

end BooleanSearch.Backend
