import BooleanSearch.Text.PrintableTable

/-! Which characters are shown as themselves. -/

namespace BooleanSearch.Text

/-- Whether some range of an ordered list holds a code point. -/
def inRanges : List (Nat × Nat) → Nat → Bool
  | [], _ => false
  | (first, last) :: rest, code =>
    -- The ranges are in order, so the first one that ends behind the code point decides.
    if code ≤ last then first ≤ code else inRanges rest code

/-- Characters that are shown as themselves; the plain space is the only separator among them. -/
def isPrintable (c : Char) : Bool :=
  !inRanges unprintableRanges c.toNat

end BooleanSearch.Text
