import BooleanSearch.Number.Binary64

/-! Decimal texts of binary64 numbers: the fewest digits that read back, and fixed places. -/

namespace BooleanSearch.Number

namespace Binary64

/-- The power of ten of the first digit of a positive magnitude below one. -/
def leadingBelowOne : (fuel : Nat) → (quanta : Nat) → Int
  | 0, _ => 0
  | fuel + 1, quanta =>
    -- Each multiplication by ten moves the first digit one place up.
    if unit ≤ quanta * 10 then -1 else leadingBelowOne fuel (quanta * 10) - 1

/-- The power of ten of the first digit of a positive magnitude. -/
def leadingPower (quanta : Nat) : Int :=
  if unit ≤ quanta then (Nat.toDigits 10 (quanta / unit)).length - 1
  -- The smallest magnitude starts at the power -324.
  else leadingBelowOne 400 quanta

/-- Whether a whole number of tens to a power reads back as a magnitude. -/
def readsBack (quanta digits : Nat) (power : Int) : Bool :=
  let gap := step quanta
  -- Below the first magnitude of a binade the grid is twice as fine.
  let below := if gap == 1 || quanta != twoTo 52 * gap then 2 * gap else gap
  let decimal := 4 * digits * tenTo power.toNat * unit
  let scale := tenTo (-power).toNat
  let low := (4 * quanta - below) * scale
  let high := (4 * quanta + 2 * gap) * scale
  -- A tie rounds to the magnitude whose last binary digit is zero.
  if quanta / gap % 2 == 0 then low ≤ decimal && decimal ≤ high
  else low < decimal && decimal < high

/-- The neighbour of a magnitude on a decimal grid that reads back, the nearer one of two. -/
def neighbour? (quanta : Nat) (power : Int) : Option Nat :=
  let numerator := quanta * tenTo (-power).toNat
  let denominator := unit * tenTo power.toNat
  let lower := numerator / denominator
  let nearer := roundQuotient numerator denominator
  match readsBack quanta lower power, readsBack quanta (lower + 1) power with
  | true, true => some nearer
  | true, false => some lower
  | false, true => some (lower + 1)
  | false, false => none

/-- The first decimal grid, from coarse to fine, on which a magnitude has a neighbour. -/
def shortestFrom (quanta : Nat) (leading : Int) : (left places : Nat) → Nat × Int
  | 0, _ => (0, 0)
  | left + 1, places =>
    let power := leading - places
    match neighbour? quanta power with
    | some digits => (digits, power)
    | none => shortestFrom quanta leading left (places + 1)

/-- The shortest decimal that reads back as a positive magnitude: digits and a power of ten. -/
def shortest (quanta : Nat) : Nat × Int :=
  -- Seventeen digits always suffice.
  shortestFrom quanta (leadingPower quanta) 18 0

/-- Digits without the zeros at their end, a lone digit excepted. -/
def withoutEndZeros (digits : List Char) : List Char :=
  match (digits.reverse.dropWhile (· == '0')).reverse with
  | [] => ['0']
  | kept => kept

/-- The decimal text of a positive magnitude: digits around a point, or one digit and a power. -/
def magnitudeText (quanta : Nat) : List Char :=
  let (number, power) := shortest quanta
  let written := Nat.toDigits 10 number
  let leading : Int := power + written.length - 1
  let digits := withoutEndZeros written
  -- Sixteen digits before the point and three zeros behind it are the most that are spelled out.
  if 0 ≤ leading && leading < 16 then
    let before := leading.toNat + 1
    let front := (digits ++ List.replicate (before - digits.length) '0').take before
    let back := digits.drop before
    front ++ '.' :: (if back.isEmpty then ['0'] else back)
  else if -4 ≤ leading && leading < 0 then
    '0' :: '.' :: List.replicate ((-leading).toNat - 1) '0' ++ digits
  else
    let power := Nat.toDigits 10 leading.natAbs
    let marked := if leading < 0 then 'e' :: '-' :: [] else 'e' :: '+' :: []
    let padded := if power.length < 2 then '0' :: power else power
    match digits with
    | [] => []
    | [digit] => digit :: marked ++ padded
    | digit :: rest => digit :: '.' :: rest ++ marked ++ padded

/-- The text of a number: the fewest digits that read back, always marked as not an integer. -/
def text : Binary64 → String
  | .nan => "nan"
  | .infinite negative => if negative then "-inf" else "inf"
  | .finite negative quanta =>
    let magnitude := if quanta == 0 then ['0', '.', '0'] else magnitudeText quanta
    String.ofList (if negative then '-' :: magnitude else magnitude)

/-- The text of a number with two digits behind the point. -/
def centsText : Binary64 → String
  | .nan => "nan"
  | .infinite negative => if negative then "-inf" else "inf"
  | .finite negative quanta =>
    let cents := roundQuotient (quanta * 100) unit
    let back := Nat.toDigits 10 (cents % 100)
    let padded := if back.length < 2 then '0' :: back else back
    let magnitude := Nat.toDigits 10 (cents / 100) ++ '.' :: padded
    String.ofList (if negative then '-' :: magnitude else magnitude)

end Binary64

end BooleanSearch.Number
