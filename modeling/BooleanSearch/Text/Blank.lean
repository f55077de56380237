/-! White space of every script, and texts with the blanks at their ends taken off. -/

namespace BooleanSearch.Text

/-- White space of every script: the layout controls, the spaces and the two separators. -/
def isBlank (c : Char) : Bool :=
  -- Zero-width characters are not blank: they are neither spaces nor separators.
  let code := c.toNat
  (0x09 ≤ code && code ≤ 0x0D) || (0x1C ≤ code && code ≤ 0x20) || code == 0x85 || code == 0xA0 ||
    code == 0x1680 || (0x2000 ≤ code && code ≤ 0x200A) || code == 0x2028 || code == 0x2029 ||
    code == 0x202F || code == 0x205F || code == 0x3000

/-- A list without the members at its end that pass a test. -/
def dropEndWhile (test : α → Bool) (items : List α) : List α :=
  -- The end of a list is the front of its reversal.
  (items.reverse.dropWhile test).reverse

/-- A text without the blanks at its two ends. -/
def trim (text : String) : String :=
  String.ofList (dropEndWhile isBlank (text.toList.dropWhile isBlank))

/-- A text without the blanks at its end. -/
def trimEnd (text : String) : String :=
  String.ofList (dropEndWhile isBlank text.toList)

/-- Taking off the front a second time changes nothing. -/
theorem dropWhile_dropWhile (test : α → Bool) (items : List α) :
    (items.dropWhile test).dropWhile test = items.dropWhile test := by
  -- What is left is empty or starts with a member that fails the test.
  induction items with
  | nil => rfl
  | cons x rest ih => by_cases h : test x <;> simp [h, ih]

/-- Taking off the end a second time changes nothing. -/
theorem dropEndWhile_dropEndWhile (test : α → Bool) (items : List α) :
    dropEndWhile test (dropEndWhile test items) = dropEndWhile test items := by
  simp [dropEndWhile, dropWhile_dropWhile]

end BooleanSearch.Text
