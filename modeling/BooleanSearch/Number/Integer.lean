import BooleanSearch.Text.Blank
import BooleanSearch.Text.Digit

/-! Integers as decimal texts, written in ASCII and read in the digits of every script. -/

namespace BooleanSearch.Number

open Text

/-- The decimal text of an integer. It may have any number of digits, as where the limit on the
digits of a number is switched off; only what is read is held to that limit. -/
def intText (n : Int) : String :=
  let digits := Nat.toDigits 10 n.natAbs
  String.ofList (if n < 0 then '-' :: digits else digits)

/-- Blanks that may stand around a number: white space without the information separators. -/
def isNumberBlank (c : Char) : Bool :=
  isBlank c && !(0x1C ≤ c.toNat && c.toNat ≤ 0x1F)

/-- The digits of a run in which single underscores may stand between two digits. -/
def digitRun? : List Char → Option (List Nat)
  | [] => none
  | [c] => (decimalValue? c).map ([·])
  | c :: '_' :: rest => do return (← decimalValue? c) :: (← digitRun? rest)
  | c :: rest => do return (← decimalValue? c) :: (← digitRun? rest)

/-- The most digits that are read as one number, unless this limit is switched off. -/
def digitLimit : Nat := 4300

/-- The natural number that a run of digits spells. -/
def naturalOfRun? (cs : List Char) : Option Nat := do
  let digits ← digitRun? cs
  if digits.length ≤ digitLimit then some (spelledNumber 10 digits) else none

/-- The integer that a text spells: blanks around an optional sign and a run of digits. -/
def integerOfText? (text : String) : Option Int :=
  let inner := dropEndWhile isNumberBlank (text.toList.dropWhile isNumberBlank)
  match inner with
  | '-' :: digits => (naturalOfRun? digits).map (-Int.ofNat ·)
  | '+' :: digits => (naturalOfRun? digits).map Int.ofNat
  | digits => (naturalOfRun? digits).map Int.ofNat

end BooleanSearch.Number
