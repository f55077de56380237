import Mathlib.Algebra.GroupWithZero.Nat
import Mathlib.Data.List.Induction
import Mathlib.Order.Monotone.Basic

/-! Lines of a text: where they start, and what the front of a text has of them. -/

namespace BooleanSearch.Text

/-- The offset at which a line starts: the lines before it come first, each with its line feed. -/
def offsetOfLine (lines : List (List Char)) (index : Nat) : Nat :=
  ((lines.take index).map List.length).sum + index

/-- Among the lines of a text, a line and a column, both counted from one, lead to an offset. -/
structure Locates (lines : List (List Char)) (line : Nat) (column offset : Int) : Prop where
  line_pos : 1 ≤ line
  line_le : line ≤ lines.length
  column_pos : 1 ≤ column
  /-- The last column is the one behind the last character of the line. -/
  column_le : ∀ content, lines[line - 1]? = some content → column ≤ content.length + 1
  offset_eq : offsetOfLine lines (line - 1) + (column - 1) = offset

/-- The front of a text ends some lines and begins another one, whatever stands behind it. -/
structure Begins (front : List Char) (ended : List (List Char)) (begun : List Char) : Prop where
  split : ∀ {behind first : List Char} {rest : List (List Char)},
    behind.splitOn '\n' = first :: rest →
      (front ++ behind).splitOn '\n' = ended ++ (begun ++ first) :: rest
  count : ended.length = front.count '\n'
  length : (ended.map List.length).sum + ended.length + begun.length = front.length
  run : front.reverse.takeWhile (· != '\n') = begun.reverse

variable {front begun : List Char} {ended lines : List (List Char)}

/-! ### Fronts of texts -/

/-- A line feed ends the line that was begun. -/
theorem Begins.feed (begins : Begins front ended begun) :
    Begins (front ++ ['\n']) (ended ++ [begun]) [] := by
  refine ⟨fun {behind first rest} same => ?_, by simp [begins.count], ?_, by simp⟩
  · -- The line feed is the first one behind the front, so that nothing is added to the line.
    have next : ('\n' :: behind).splitOn '\n' = [] :: first :: rest := by
      simp [List.splitOn_cons_eq_if_modifyHead, same]
    simpa using begins.split next
  · have length := begins.length
    simp
    omega

/-- Any other character goes on with the line that was begun. -/
theorem Begins.plain {c : Char} (begins : Begins front ended begun) (plain : c ≠ '\n') :
    Begins (front ++ [c]) ended (begun ++ [c]) := by
  refine ⟨fun {behind first rest} same => ?_, by simp [begins.count, plain], ?_,
    by simp [begins.run, plain]⟩
  · have next : (c :: behind).splitOn '\n' = (c :: first) :: rest := by
      simp [List.splitOn_cons_eq_if_modifyHead, same, plain]
    simpa using begins.split next
  · have length := begins.length
    simp
    omega

/-- Every run of characters ends some lines and begins another one. -/
theorem exists_begins (front : List Char) : ∃ ended begun, Begins front ended begun := by
  -- The last character decides whether a line is ended.
  induction front using List.reverseRecOn with
  | nil => exact ⟨[], [], fun same => by simpa using same, rfl, rfl, rfl⟩
  | append_singleton front c ih =>
    obtain ⟨ended, begun, begins⟩ := ih
    by_cases feed : c = '\n'
    · subst feed
      exact ⟨ended ++ [begun], [], begins.feed⟩
    · exact ⟨ended, begun ++ [c], begins.plain feed⟩

/-- The line that is begun and the column behind what it has lead to the end of the front. -/
theorem Begins.locates (begins : Begins front ended begun) (behind : List Char) :
    Locates ((front ++ behind).splitOn '\n') (ended.length + 1) (begun.length + 1)
      front.length := by
  -- What stands behind the front goes on with the line up to its own first line feed.
  obtain ⟨first, rest, same⟩ := List.exists_cons_of_ne_nil (List.splitOn_ne_nil '\n' behind)
  rw [begins.split same]
  refine ⟨by omega, by simp, by omega, fun content found => ?_, ?_⟩
  · -- What stands behind the front can only make the line longer.
    obtain rfl : begun ++ first = content := by simpa using found
    rw [List.length_append]
    omega
  · have length := begins.length
    rw [offsetOfLine, Nat.add_sub_cancel, List.take_left]
    omega

/-! ### Order -/

/-- A line ends with its line feed, and the next one starts behind that. -/
theorem offsetOfLine_succ {index : Nat} {content : List Char}
    (found : lines[index]? = some content) :
    offsetOfLine lines (index + 1) = offsetOfLine lines index + content.length + 1 := by
  rw [offsetOfLine, offsetOfLine, List.take_add_one, found]
  simp
  omega

theorem offsetOfLine_mono : Monotone (offsetOfLine lines) := by
  refine monotone_nat_of_le_succ fun index => ?_
  rw [offsetOfLine, offsetOfLine, List.take_add_one, List.map_append, List.sum_append]
  omega

variable {line later : Nat} {column other offset behind : Int}

/-- An offset on a later line is greater. -/
theorem Locates.lt_of_line_lt (located : Locates lines line column offset)
    (locatedLater : Locates lines later other behind) (below : line < later) : offset < behind := by
  obtain ⟨first, last, -, within, rfl⟩ := located
  obtain ⟨-, -, column_pos, -, rfl⟩ := locatedLater
  have found := List.getElem?_eq_getElem (by omega : line - 1 < lines.length)
  have ends := offsetOfLine_succ found
  -- The later line does not start before the one that comes next.
  have starts : offsetOfLine lines (line - 1 + 1) ≤ offsetOfLine lines (later - 1) :=
    offsetOfLine_mono (by omega)
  have column_le := within _ found
  omega

/-- Offsets are in the order of their lines, and on one line in the order of their columns. -/
theorem Locates.lt_iff (located : Locates lines line column offset)
    (locatedLater : Locates lines later other behind) :
    offset < behind ↔ line < later ∨ line = later ∧ column < other := by
  -- Columns count for nothing unless the lines are the same.
  rcases Nat.lt_trichotomy line later with below | rfl | above
  · simp [below, located.lt_of_line_lt locatedLater below]
  · rw [← located.offset_eq, ← locatedLater.offset_eq]
    simp
  · have greater := locatedLater.lt_of_line_lt located above
    omega

/-- No two lines and columns lead to one offset. -/
theorem Locates.unique (located : Locates lines line column offset)
    (locatedOther : Locates lines later other offset) : line = later ∧ column = other := by
  -- Neither offset is before the other one, so that neither line and column are.
  have before := located.lt_iff locatedOther
  have after := locatedOther.lt_iff located
  omega

end BooleanSearch.Text
