/-! Pieces of texts between offsets; a negative offset counts from the end of the text. -/

namespace BooleanSearch.Text

/-- The number of characters in front of an offset. -/
def reach (text : String) (offset : Int) : Nat :=
  -- Offsets outside the text stand for its nearer end.
  if offset < 0 then (offset + text.length).toNat else min offset.toNat text.length

/-- The characters in front of an offset. -/
def before (text : String) (offset : Int) : List Char :=
  text.toList.take (reach text offset)

/-- The characters from one offset up to another. -/
def between (text : String) (start stop : Int) : List Char :=
  (before text stop).drop (reach text start)

end BooleanSearch.Text
