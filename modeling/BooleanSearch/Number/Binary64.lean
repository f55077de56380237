/-! Binary64 numbers, held exactly as whole multiples of the smallest positive one. -/

namespace BooleanSearch.Number

/-- A binary64 number: a signed whole number of quanta of 2^-1074, an infinity, or no number. -/
inductive Binary64
  | finite (negative : Bool) (quanta : Nat)
  | infinite (negative : Bool)
  | nan
deriving Repr, DecidableEq

/-- Two to some power. -/
def twoTo (exponent : Nat) : Nat := Nat.pow 2 exponent

/-- Ten to some power. -/
def tenTo (exponent : Nat) : Nat := Nat.pow 10 exponent

/-- A quotient rounded to the nearest whole number; a tie goes to the even neighbour. -/
def roundQuotient (numerator denominator : Nat) : Nat :=
  let whole := numerator / denominator
  let twice := 2 * (numerator % denominator)
  if twice < denominator || (twice == denominator && whole % 2 == 0) then whole else whole + 1

namespace Binary64

/-- The number of quanta in the number one. -/
def unit : Nat := twoTo 1074

/-- The number of quanta at which the finite numbers end. -/
def bound : Nat := twoTo 2098

/-- The distance from a magnitude to the next larger one, in quanta. -/
def step (quanta : Nat) : Nat :=
  -- Fifty-three binary digits are kept; a smaller magnitude keeps all of its digits.
  twoTo (quanta.log2 + 1 - 53)

/-- The magnitude nearest to a quotient of quanta, unless it lies beyond the finite numbers. -/
def nearest? (numerator denominator : Nat) : Option Nat :=
  -- The digits before the point fix the grid, and the whole quotient is rounded on it once.
  let grid := step (numerator / denominator)
  let quanta := roundQuotient numerator (denominator * grid) * grid
  if quanta < bound then some quanta else none

/-- The number nearest to a signed quotient of quanta; what lies too far out is infinite. -/
def ofQuotient (negative : Bool) (numerator denominator : Nat) : Binary64 :=
  match nearest? numerator denominator with
  | some quanta => .finite negative quanta
  | none => .infinite negative

/-- The number nearest to an integer, unless the integer lies beyond the finite numbers. -/
def ofInt? (n : Int) : Option Binary64 :=
  (nearest? (n.natAbs * unit) 1).map (.finite (n < 0) ·)

/-- The number nearest to a signed whole number times a power of ten. -/
def ofDecimal (negative : Bool) (digits : Nat) (exponent : Int) : Binary64 :=
  let magnitude := (Nat.toDigits 10 digits).length + exponent
  -- Far outside the format the answer is known without forming the power.
  if digits == 0 || magnitude < -400 then .finite negative 0
  else if magnitude > 400 then .infinite negative
  else if 0 ≤ exponent then ofQuotient negative (digits * tenTo exponent.toNat * unit) 1
  else ofQuotient negative (digits * unit) (tenTo (-exponent).toNat)

/-- A finite number as a signed number of quanta. -/
def signed (negative : Bool) (quanta : Nat) : Int :=
  if negative then -quanta else quanta

/-- The sum, rounded once. -/
def add : Binary64 → Binary64 → Binary64
  | .nan, _ | _, .nan => .nan
  | .infinite a, .infinite b => if a == b then .infinite a else .nan
  | .infinite a, .finite .. => .infinite a
  | .finite .., .infinite b => .infinite b
  | .finite a m, .finite b n =>
    let sum := signed a m + signed b n
    -- A sum of nothing is negative only when both parts are.
    if sum == 0 then .finite (a && b) 0 else ofQuotient (sum < 0) sum.natAbs 1

/-- The product, rounded once. -/
def mul : Binary64 → Binary64 → Binary64
  | .nan, _ | _, .nan => .nan
  | .infinite a, .infinite b => .infinite (a != b)
  | .infinite a, .finite b n | .finite b n, .infinite a =>
    if n == 0 then .nan else .infinite (a != b)
  | .finite a m, .finite b n => ofQuotient (a != b) (m * n) unit

/-- The number with the other sign. -/
def neg : Binary64 → Binary64
  | .finite negative quanta => .finite (!negative) quanta
  | .infinite negative => .infinite (!negative)
  | .nan => .nan

/-- Whether the first number lies below the second; nothing is comparable with no number. -/
def less : Binary64 → Binary64 → Bool
  | .nan, _ | _, .nan => false
  | .infinite a, .infinite b => a && !b
  | .infinite a, .finite .. => a
  | .finite .., .infinite b => !b
  | .finite a m, .finite b n => signed a m < signed b n

/-- Whether two numbers have the same value; the two zeros do, and no number has none. -/
def same : Binary64 → Binary64 → Bool
  | .finite a m, .finite b n => signed a m == signed b n
  | .infinite a, .infinite b => a == b
  | _, _ => false

/-- The first number, or the second if that one lies below it. -/
def atMost (x limit : Binary64) : Binary64 :=
  if less limit x then limit else x

/-- The number zero. -/
def zero : Binary64 := .finite false 0

/-- A whole number of hundredths. -/
def ofHundredths (n : Nat) : Binary64 :=
  ofQuotient false (n * unit) 100

end Binary64

end BooleanSearch.Number
