/-! Lines and columns of offsets in a text. -/

namespace BooleanSearch.Text

/-- A place in a text, both numbers counted from one. -/
structure Place where
  /-- The number of the line. -/
  line : Nat
  /-- The number of the column. -/
  column : Nat
deriving Repr, DecidableEq

/-- The place of the first character of every text. -/
def Place.start : Place := ⟨1, 1⟩

/-- The place behind a character; only a line feed starts a new line. -/
def Place.after (place : Place) (c : Char) : Place :=
  if c == '\n' then ⟨place.line + 1, 1⟩ else ⟨place.line, place.column + 1⟩

/-- The place that is reached behind a run of characters. -/
def Place.afterAll (place : Place) (cs : List Char) : Place :=
  cs.foldl Place.after place

/-- The place of an offset, the end of the text included. -/
def placeOf (text : String) (offset : Nat) : Place :=
  Place.start.afterAll (text.toList.take offset)

end BooleanSearch.Text
