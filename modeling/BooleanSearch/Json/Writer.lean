import BooleanSearch.Number.Decimal
import BooleanSearch.Number.Integer
import BooleanSearch.Text.Digit
import BooleanSearch.Value.Basic

/-! JSON texts of values, on one line or indented. -/

namespace BooleanSearch.Json

open Number

/-- How the parts of a JSON text are set apart. -/
inductive Layout
  | compact
  | indented
deriving Repr, DecidableEq

/-- What stands in front of a member at some depth. -/
def Layout.lineStart : Layout → Nat → List Char
  | .compact, _ => []
  -- Each level is indented by two more spaces.
  | .indented, depth => '\n' :: List.replicate (2 * depth) ' '

/-- What stands between a key and its value. -/
def Layout.colon : Layout → List Char
  | .compact => [':']
  | .indented => [':', ' ']

/-- One character inside a JSON string. -/
def escaped (c : Char) : List Char :=
  if c == '"' then ['\\', '"']
  else if c == '\\' then ['\\', '\\']
  else if c == '\n' then ['\\', 'n']
  else if c == '\r' then ['\\', 'r']
  else if c == '\t' then ['\\', 't']
  else if c == '\x08' then ['\\', 'b']
  else if c == '\x0c' then ['\\', 'f']
  -- Only the controls have no place in a string as they are.
  else if c.toNat < 0x20 then '\\' :: 'u' :: Text.hexText 4 c.toNat
  else [c]

/-- A JSON string. -/
def stringText (text : String) : List Char :=
  '"' :: text.toList.flatMap escaped ++ ['"']

/-- The number of a float; those beyond the finite ones have names. -/
def floatText : Binary64 → List Char
  | .nan => "NaN".toList
  | .infinite negative => if negative then "-Infinity".toList else "Infinity".toList
  | number => number.text.toList

/-- A scalar that is no text, as it stands in a JSON text and between quotes as a key; an integer is
written with all its digits, however many of them are read. -/
def bareText : Scalar → List Char
  | .null => "null".toList
  | .bool truth => if truth then "true".toList else "false".toList
  | .int number => (intText number).toList
  | .float number => floatText number
  | .text content => content.toList
  | .foreign value => value.shown.toList

/-- A scalar; what has no notation in JSON becomes a string. -/
def scalarText : Scalar → List Char
  | .text content => stringText content
  | .foreign value => stringText value.shown
  | other => bareText other

mutual

/-- The JSON text of a value at some depth. -/
def write (layout : Layout) (depth : Nat) : Value → List Char
  | .scalar content => scalarText content
  | .list [] => ['[', ']']
  | .list (item :: rest) =>
    '[' :: writeItems layout (depth + 1) (item :: rest) ++ layout.lineStart depth ++ [']']
  | .mapping [] => ['\x7b', '\x7d']
  | .mapping (entry :: rest) =>
    '\x7b' :: writeEntries layout (depth + 1) (entry :: rest) ++ layout.lineStart depth ++ ['\x7d']

/-- The members of a list, with commas between them. -/
def writeItems (layout : Layout) (depth : Nat) : List Value → List Char
  | [] => []
  | item :: rest =>
    layout.lineStart depth ++ write layout depth item ++
      (if rest.isEmpty then [] else ',' :: writeItems layout depth rest)

/-- The entries of a mapping, with commas between them; every key becomes a string. -/
def writeEntries (layout : Layout) (depth : Nat) : List (Scalar × Value) → List Char
  | [] => []
  | (key, value) :: rest =>
    layout.lineStart depth ++ stringText (String.ofList (bareText key)) ++ layout.colon ++
      write layout depth value ++
      (if rest.isEmpty then [] else ',' :: writeEntries layout depth rest)

end

/-- The JSON text of a value. -/
def render (layout : Layout) (value : Value) : String :=
  String.ofList (write layout 0 value)

end BooleanSearch.Json
