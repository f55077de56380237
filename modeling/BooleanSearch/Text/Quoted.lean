import BooleanSearch.Text.Digit
import BooleanSearch.Text.Printable

/-! Texts in quotes, with everything escaped that would not be seen or would end the quotation. -/

namespace BooleanSearch.Text

/-- The quote that encloses a text: double only if the text has single quotes and no double ones. -/
def quoteFor (cs : List Char) : Char :=
  if cs.contains '\'' && !cs.contains '"' then '"' else '\''

/-- One character as it stands between quotes. -/
def quotedForm (quote : Char) (c : Char) : List Char :=
  -- The quote in use and the backslash would change what follows them.
  if c == quote || c == '\\' then ['\\', c]
  else if c == '\n' then ['\\', 'n']
  else if c == '\r' then ['\\', 'r']
  else if c == '\t' then ['\\', 't']
  -- What is not seen is written by its code point, in the narrowest of three widths.
  else if isPrintable c then [c]
  else if c.toNat < 0x100 then '\\' :: 'x' :: hexText 2 c.toNat
  else if c.toNat < 0x10000 then '\\' :: 'u' :: hexText 4 c.toNat
  else '\\' :: 'U' :: hexText 8 c.toNat

/-- A text between quotes. -/
def quoted (text : String) : String :=
  let cs := text.toList
  let quote := quoteFor cs
  String.ofList (quote :: cs.flatMap (quotedForm quote) ++ [quote])

/-- Texts in quotes between square brackets. -/
def quotedList (texts : List String) : String :=
  "[" ++ ", ".intercalate (texts.map quoted) ++ "]"

/-- Texts in quotes between round brackets; a single one is followed by a comma. -/
def quotedTuple (texts : List String) : String :=
  match texts with
  | [text] => "(" ++ quoted text ++ ",)"
  | _ => "(" ++ ", ".intercalate (texts.map quoted) ++ ")"

end BooleanSearch.Text
