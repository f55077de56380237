import BooleanSearch.Number.Integer
import BooleanSearch.Value.Basic

/-! Values of JSON texts; the last of several values under one key counts. -/

namespace BooleanSearch.Json

open Number

/-- The four characters that may stand between the parts of a JSON text. -/
def isSpace (c : Char) : Bool :=
  c == ' ' || c == '\t' || c == '\n' || c == '\r'

/-- What follows the space at the start of a text. -/
def skipSpace (cs : List Char) : List Char :=
  cs.dropWhile isSpace

/-- The value of one digit in base sixteen. -/
def hexValue? (c : Char) : Option Nat :=
  (Text.asciiValue? c).filter (· < 16)

/-- The unit that four digits in base sixteen name. -/
def unit? (a b c d : Char) : Option Nat := do
  return Text.spelledNumber 16 [← hexValue? a, ← hexValue? b, ← hexValue? c, ← hexValue? d]

/-- The character of a unit; a half of a pair on its own stands for no character. -/
def unitChar (unit : Nat) : Char :=
  if unit.isValidChar then Char.ofNat unit else '\uFFFD'

/-- The character of a pair of units, if they are the two halves of one. -/
def pairChar? (high low : Nat) : Option Char :=
  if 0xD800 ≤ high && high < 0xDC00 && 0xDC00 ≤ low && low < 0xE000 then
    some (Char.ofNat (0x10000 + (high - 0xD800) * 0x400 + (low - 0xDC00)))
  else none

/-- The character that a letter behind a backslash stands for. -/
def shortEscape? : Char → Option Char
  | '"' => some '"'
  | '\\' => some '\\'
  | '/' => some '/'
  | 'b' => some '\x08'
  | 'f' => some '\x0c'
  | 'n' => some '\n'
  | 'r' => some '\r'
  | 't' => some '\t'
  | _ => none

/-- The units up to the closing quote of a string, and what follows the quote. -/
def readUnits : List Char → Option (List Nat × List Char)
  | [] => none
  | '"' :: rest => some ([], rest)
  | '\\' :: 'u' :: a :: b :: c :: d :: rest =>
    match unit? a b c d with
    | some unit => (readUnits rest).map fun (units, rest) => (unit :: units, rest)
    | none => none
  | '\\' :: c :: rest =>
    match shortEscape? c with
    | some c => (readUnits rest).map fun (units, rest) => (c.toNat :: units, rest)
    | none => none
  | c :: rest =>
    -- A control has to be escaped.
    if c == '\\' || c.toNat < 0x20 then none
    else (readUnits rest).map fun (units, rest) => (c.toNat :: units, rest)

/-- The characters of units, two halves in a row being one character. -/
def charsOfUnits : List Nat → List Char
  | [] => []
  | [unit] => [unitChar unit]
  | high :: low :: rest =>
    match pairChar? high low with
    | some c => c :: charsOfUnits rest
    | none => unitChar high :: charsOfUnits (low :: rest)

/-- The text up to the closing quote of a string, and what follows the quote. -/
def readString (cs : List Char) : Option (String × List Char) :=
  (readUnits cs).map fun (units, rest) => (String.ofList (charsOfUnits units), rest)

/-- The digits in front of the point: a lone zero, or a run that does not start with one. -/
def readWhole : List Char → List Char × List Char
  | '0' :: rest => (['0'], rest)
  | cs => (cs.takeWhile Char.isDigit, cs.dropWhile Char.isDigit)

/-- The digits behind a point, if a point with a digit behind it comes next. -/
def readFraction? : List Char → Option (List Char × List Char)
  | '.' :: rest =>
    match rest.takeWhile Char.isDigit with
    | [] => none
    | digits => some (digits, rest.dropWhile Char.isDigit)
  | _ => none

/-- The number that a run of ASCII digits spells. -/
def naturalOf (digits : List Char) : Nat :=
  Nat.ofDigitChars 10 digits 0

/-- The power behind an exponent mark, if a mark with a digit behind it comes next. -/
def readExponent? : List Char → Option (Int × List Char)
  | mark :: rest =>
    if mark == 'e' || mark == 'E' then
      let (negative, body) := match rest with
        | '-' :: body => (true, body)
        | '+' :: body => (false, body)
        | body => (false, body)
      match body.takeWhile Char.isDigit with
      | [] => none
      | digits =>
        let power : Int := naturalOf digits
        some (if negative then -power else power, body.dropWhile Char.isDigit)
    else none
  | [] => none

/-- Whether a run of digits is longer than a reader admits; a reader need not have a limit. -/
def isTooLong (limit : Option Nat) (digits : List Char) : Bool :=
  limit.any (· < digits.length)

/-- The number at the start of a text: an integer unless a fraction or an exponent follows. -/
def readNumber (limit : Option Nat) (negative : Bool) (cs : List Char) :
    Option (Scalar × List Char) :=
  let (whole, rest) := readWhole cs
  if whole.isEmpty then none
  else
    let fraction := readFraction? rest
    let behind := (fraction.map Prod.snd).getD rest
    let exponent := readExponent? behind
    let digits := (fraction.map Prod.fst).getD []
    match fraction, exponent with
    | none, none =>
      let value : Int := naturalOf whole
      -- The limit is one for integers alone.
      if isTooLong limit whole then none
      else some (.int (if negative then -value else value), rest)
    | _, _ =>
      let power := (exponent.map Prod.fst).getD 0 - digits.length
      some (.float (.ofDecimal negative (naturalOf (whole ++ digits)) power),
        (exponent.map Prod.snd).getD behind)

/-- The word or number at the start of a text. -/
def readBare (limit : Option Nat) : List Char → Option (Scalar × List Char)
  | 'n' :: 'u' :: 'l' :: 'l' :: rest => some (.null, rest)
  | 't' :: 'r' :: 'u' :: 'e' :: rest => some (.bool true, rest)
  | 'f' :: 'a' :: 'l' :: 's' :: 'e' :: rest => some (.bool false, rest)
  | 'N' :: 'a' :: 'N' :: rest => some (.float .nan, rest)
  | 'I' :: 'n' :: 'f' :: 'i' :: 'n' :: 'i' :: 't' :: 'y' :: rest =>
    some (.float (.infinite false), rest)
  | '-' :: 'I' :: 'n' :: 'f' :: 'i' :: 'n' :: 'i' :: 't' :: 'y' :: rest =>
    some (.float (.infinite true), rest)
  | '-' :: rest => readNumber limit true rest
  | cs => readNumber limit false cs

mutual

/-- The value at the start of a text, and what follows it. -/
def readValue (limit : Option Nat) : (fuel : Nat) → List Char → Option (Value × List Char)
  | 0, _ => none
  | fuel + 1, cs =>
    match skipSpace cs with
    | '"' :: rest => (readString rest).map fun (text, rest) => (.text text, rest)
    | '[' :: rest =>
      match skipSpace rest with
      | ']' :: rest => some (.list [], rest)
      | rest => (readItems limit fuel rest).map fun (items, rest) => (.list items, rest)
    | '\x7b' :: rest =>
      match skipSpace rest with
      | '\x7d' :: rest => some (.mapping [], rest)
      | rest =>
        (readEntries limit fuel rest).map fun (pairs, rest) =>
          (.mapping (Entries.ofPairs pairs), rest)
    | rest => (readBare limit rest).map fun (content, rest) => (.scalar content, rest)

/-- The members of a list up to its closing bracket, and what follows. -/
def readItems (limit : Option Nat) : (fuel : Nat) → List Char → Option (List Value × List Char)
  | 0, _ => none
  | fuel + 1, cs =>
    match readValue limit fuel cs with
    | none => none
    | some (item, rest) =>
      match skipSpace rest with
      | ']' :: rest => some ([item], rest)
      | ',' :: rest => (readItems limit fuel rest).map fun (items, rest) => (item :: items, rest)
      | _ => none

/-- The entries of a mapping up to its closing brace, and what follows. -/
def readEntries (limit : Option Nat) : (fuel : Nat) → List Char →
    Option (List (Scalar × Value) × List Char)
  | 0, _ => none
  | fuel + 1, cs =>
    match skipSpace cs with
    | '"' :: rest =>
      match readString rest with
      | none => none
      | some (key, rest) =>
        match skipSpace rest with
        | ':' :: rest =>
          match readValue limit fuel rest with
          | none => none
          | some (value, rest) =>
            let entry := (Scalar.text key, value)
            match skipSpace rest with
            | '\x7d' :: rest => some ([entry], rest)
            | ',' :: rest =>
              (readEntries limit fuel rest).map fun (pairs, rest) => (entry :: pairs, rest)
            | _ => none
        | _ => none
    | _ => none

end

/-- The value of a JSON text for a reader with a limit; nothing but space may stand around it. -/
def readWithin? (limit : Option Nat) (text : String) : Option Value :=
  let cs := text.toList
  -- Two steps are spent on each opening bracket and one on each comma.
  match readValue limit (2 * cs.length + 2) cs with
  | some (value, rest) => if (skipSpace rest).isEmpty then some value else none
  | none => none

/-- The value of a JSON text; its integers may be as long as those of other texts. -/
def read? (text : String) : Option Value :=
  readWithin? (some digitLimit) text

end BooleanSearch.Json
