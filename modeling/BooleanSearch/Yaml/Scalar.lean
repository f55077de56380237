import BooleanSearch.Number.Integer
import BooleanSearch.Text.Pieces
import BooleanSearch.Value.Basic

/-! Scalars of YAML texts: which words and numbers a plain scalar stands for. -/

namespace BooleanSearch.Yaml

open Number

/-- Why a text has no value. -/
inductive Error
  /-- The text does not follow the grammar, or it is outside what is read here. -/
  | malformed
  /-- A number has a base mark and no digit behind it. -/
  | noDigits (base : Nat)
  /-- A decimal number has more digits than are read as one number. -/
  | tooManyDigits (count : Nat)
  /-- A number between colons has a place whose weight is too large for a binary64 number. -/
  | tooManyPlaces
  /-- An escape names a code point behind the last one. -/
  | noCharacter
  /-- An escape names a number that does not even fit a machine word. -/
  | noWord
  /-- Another reader tells in its own words what is wrong. -/
  | told (message : String)
deriving Repr, DecidableEq

/-- The wording of an error; a malformed text has none. -/
def Error.message? : Error → Option String
  | .malformed => none
  | .noDigits base =>
    some ("invalid literal for int() with base " ++ intText base ++ ": ''")
  | .tooManyDigits count =>
    some ("Exceeds the limit (" ++ intText digitLimit ++
      " digits) for integer string conversion: value has " ++ intText count ++
      " digits; use sys.set_int_max_str_digits() to increase the limit")
  | .tooManyPlaces => some "int too large to convert to float"
  | .noCharacter => some "chr() arg not in range(0x110000)"
  | .noWord => some "Python int too large to convert to C int"
  | .told message => some message

/-- The words for the absent value. -/
def nullWords : List String := ["", "~", "null", "Null", "NULL"]

/-- The words for truth. -/
def trueWords : List String :=
  ["yes", "Yes", "YES", "true", "True", "TRUE", "on", "On", "ON"]

/-- The words for falsehood. -/
def falseWords : List String :=
  ["no", "No", "NO", "false", "False", "FALSE", "off", "Off", "OFF"]

/-- The words for infinity. -/
def infinityWords : List String := [".inf", ".Inf", ".INF"]

/-- The words for no number. -/
def nanWords : List String := [".nan", ".NaN", ".NAN"]

/-- The sign of a number, and what follows it. -/
def splitSign : List Char → Bool × List Char
  | '-' :: rest => (true, rest)
  | '+' :: rest => (false, rest)
  | cs => (false, cs)

/-- Whether a character is a digit of some base or an underscore, which only sets digits apart. -/
def isDigitOf (base : Nat) (c : Char) : Bool :=
  c == '_' || (Text.asciiValue? c).any (· < base)

/-- The number that digits of some base spell, underscores left out. -/
def digitsValue (base : Nat) (cs : List Char) : Nat :=
  Text.spelledNumber base (cs.filterMap Text.asciiValue?)

/-- A run of digits that starts with one that is no zero. -/
def isDecimalRun : List Char → Bool
  | [] => false
  | c :: rest => '1' ≤ c && c ≤ '9' && rest.all (isDigitOf 10)

/-- One of the later places of a number in base sixty. -/
def isSixtieth : List Char → Bool
  | [a] => a.isDigit
  | [a, b] => '0' ≤ a && a ≤ '5' && b.isDigit
  | _ => false

/-- The number that a decimal run spells, if it is not too long. -/
def decimalRun (cs : List Char) : Except Error Nat :=
  let digits := cs.filterMap Text.asciiValue?
  if digits.length ≤ digitLimit then .ok (Text.spelledNumber 10 digits)
  else .error (.tooManyDigits digits.length)

/-- The digits behind a base mark, as a magnitude. -/
def markedMagnitude? (base : Nat) (digits : List Char) : Option (Except Error Nat) :=
  if digits.isEmpty || !digits.all (isDigitOf base) then none
  else if digits.all (· == '_') then some (.error (.noDigits base))
  else some (.ok (digitsValue base digits))

/-- The magnitude of an integer, if the text behind its sign is one. -/
def magnitude? (cs : List Char) : Option (Except Error Nat) :=
  match cs with
  | ['0'] => some (.ok 0)
  | '0' :: 'b' :: digits => markedMagnitude? 2 digits
  | '0' :: 'x' :: digits => markedMagnitude? 16 digits
  -- A leading zero marks base eight.
  | '0' :: digits => if digits.all (isDigitOf 8) then some (.ok (digitsValue 8 digits)) else none
  | cs =>
    match Text.pieces ':' cs with
    | [] => none
    | first :: places =>
      -- Places behind colons count sixtieths of the place in front of them.
      if isDecimalRun first && places.all isSixtieth then
        some ((decimalRun first).map fun whole =>
          Text.spelledNumber 60 (whole :: places.map (digitsValue 10)))
      else none

/-- The power behind an exponent mark; the sign of a power is not left out. -/
def power? : List Char → Option Int
  | [] => some 0
  | mark :: sign :: digits =>
    if (mark == 'e' || mark == 'E') && !digits.isEmpty && digits.all Char.isDigit then
      match sign with
      | '+' => some (digitsValue 10 digits)
      | '-' => some (-(digitsValue 10 digits))
      | _ => none
    else none
  | _ => none

/-- The binary64 number of a sign, digits around a point and an exponent. -/
def pointed? (negative : Bool) (cs : List Char) : Option Binary64 :=
  let isPlace := isDigitOf 10
  match cs.dropWhile isPlace with
  | '.' :: rest =>
    let whole := cs.takeWhile isPlace
    let fraction := rest.takeWhile isPlace
    let places := fraction.filter (· != '_')
    (power? (rest.dropWhile isPlace)).map fun power =>
      .ofDecimal negative (digitsValue 10 (whole ++ fraction)) (power - places.length)
  | _ => none

/-- The sum of places, the last one first, each of which weighs sixty times the one before it. -/
def sumOfSixtieths : (weight : Nat) → List Binary64 → Binary64 → Except Error Binary64
  | _, [], sum => .ok sum
  | weight, place :: rest, sum =>
    match Binary64.ofInt? weight with
    | none => .error .tooManyPlaces
    | some factor => sumOfSixtieths (weight * 60) rest (sum.add (place.mul factor))

/-- The binary64 number of a sign and places between colons, of which the last one has a point. -/
def sexagesimal? (negative : Bool) (cs : List Char) : Option (Except Error Binary64) := do
  let pieces := Text.pieces ':' (cs.takeWhile (· != '.'))
  let fraction := cs.dropWhile (· != '.')
  let first ← pieces.head?
  let last ← pieces.tail.getLast?
  let isRun := first.head?.any Char.isDigit && first.all (isDigitOf 10)
  if isRun && pieces.tail.all isSixtieth && fraction.tail.all (isDigitOf 10) then
    let point ← pointed? false (last ++ fraction)
    let wholes := pieces.dropLast.map fun place =>
      Binary64.ofDecimal false (digitsValue 10 place) 0
    return (sumOfSixtieths 1 (point :: wholes.reverse) .zero).map fun sum =>
      if negative then sum.neg else sum
  else none

/-- The binary64 number of a plain scalar, if it is one. -/
def float? (cs : List Char) : Option (Except Error Binary64) :=
  let (negative, body) := splitSign cs
  let word := String.ofList body
  if infinityWords.contains word then some (.ok (.infinite negative))
  else if nanWords.contains (String.ofList cs) then some (.ok .nan)
  else
    match body with
    -- A point comes first only without a sign and with a digit behind it.
    | '.' :: c :: _ =>
      if c.isDigit && cs.head? == some '.' then (pointed? negative body).map .ok else none
    | c :: _ =>
      if !c.isDigit then none
      else if body.contains ':' then sexagesimal? negative body
      else (pointed? negative body).map .ok
    | [] => none

/-- The word that asks for the entries of another mapping, which are not taken over here. -/
def mergeWord : String := "<<"

/-- The word that is a text as a key, and nothing as a value. -/
def defaultWord : String := "="

/-- What a plain scalar stands for as a value: a word, a number, or else its own text. -/
def plainScalar (cs : List Char) : Except Error Scalar :=
  let word := String.ofList cs
  if nullWords.contains word then .ok .null
  else if trueWords.contains word then .ok (.bool true)
  else if falseWords.contains word then .ok (.bool false)
  else if word == mergeWord || word == defaultWord then .error .malformed
  else
    match float? cs with
    | some number => number.map .float
    | none =>
      let (negative, body) := splitSign cs
      match magnitude? body with
      | some (.ok number) => .ok (.int (if negative then -number else number))
      | some (.error error) => .error error
      | none => .ok (.text word)

/-- What a plain scalar stands for as a key. -/
def plainKey (cs : List Char) : Except Error Scalar :=
  if String.ofList cs == defaultWord then .ok (.text defaultWord) else plainScalar cs

end BooleanSearch.Yaml
