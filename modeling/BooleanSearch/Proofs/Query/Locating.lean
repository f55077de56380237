import BooleanSearch.Proofs.Text.Lines
import BooleanSearch.Proofs.Text.Places
import BooleanSearch.Query.SyntaxError

/-! Reports tell their position by line and column, and nothing else leads to it. -/

namespace BooleanSearch.Query

open Text (Locates)

/-- The line and the column of a report lead to its position. -/
theorem locates_report (text : String) (expected : List String) {position : Int}
    (front : 0 ≤ position) (within : position ≤ text.length) :
    Locates (text.toList.splitOn '\n') (SyntaxError.report text position expected).line
      (SyntaxError.report text position expected).column position := by
  obtain ⟨offset, rfl⟩ := Int.eq_ofNat_of_zero_le front
  have length : (text.toList.take offset).length = offset :=
    List.length_take_of_le (by rw [String.length_toList]; omega)
  obtain ⟨ended, begun, begins⟩ := Text.exists_begins (text.toList.take offset)
  have located := begins.locates (text.toList.drop offset)
  rw [List.take_append_drop, length] at located
  -- The line counts the line feeds in front, and the column what stands behind the last of them.
  have line : (SyntaxError.report text offset expected).line = ended.length + 1 := by
    rw [SyntaxError.line, SyntaxError.report, Text.before_natCast, begins.count]
  have column : (SyntaxError.report text offset expected).column = begun.length + 1 := by
    have shorter := begins.length
    simp only [SyntaxError.column, SyntaxError.lineStart, SyntaxError.report, Text.before_natCast,
      begins.run, List.length_reverse, length]
    omega
  rw [line, column]
  exact located

/--
The line and the column of a report are the only ones that lead to its position in the text.

Positions are in the order of their lines, and on one line in the order of their columns.
-/
theorem line_column_iff (text : String) (expected : List String) {position : Int}
    (front : 0 ≤ position) (within : position ≤ text.length) :
    let error := SyntaxError.report text position expected
    (∀ line column, error.line = line ∧ error.column = column ↔
        Locates (text.toList.splitOn '\n') line column position) ∧
      ∀ (others : List String) (later : Int), 0 ≤ later → later ≤ text.length →
        let other := SyntaxError.report text later others
        (position = later ↔ error.line = other.line ∧ error.column = other.column) ∧
        (position < later ↔
          error.line < other.line ∨ error.line = other.line ∧ error.column < other.column) := by
  intro error
  have located := locates_report text expected front within
  refine ⟨fun line column => ⟨?_, located.unique⟩, fun others later lower upper => ?_⟩
  · rintro ⟨rfl, rfl⟩
    exact located
  · intro other
    have locatedOther := locates_report text others lower upper
    refine ⟨⟨?_, ?_⟩, located.lt_iff locatedOther⟩
    · rintro rfl
      exact located.unique locatedOther
    · rintro ⟨line, column⟩
      -- The same line and column lead to one offset.
      rw [← located.offset_eq, ← locatedOther.offset_eq]
      simp only [error, other] at line column
      rw [line, column]

/-- Between two line feeds there is a line, and the end of the text is on the one behind it. -/
theorem line_column_iff_feeds :
    let text := "a\n\nb"
    let error := SyntaxError.report text 2 ["term"]
    let other := SyntaxError.report text 4 []
    (0 : Int) ≤ 2 ∧ (2 : Int) ≤ text.length ∧ (0 : Int) ≤ 4 ∧ (4 : Int) ≤ text.length ∧
      (error.line = 2 ∧ error.column = 1) ∧ (other.line = 3 ∧ other.column = 2) ∧
        (error.line < other.line ∨ error.line = other.line ∧ error.column < other.column) := by
  intro text error other
  have front : (0 : Int) ≤ 2 ∧ (2 : Int) ≤ text.length := by decide
  have behind : (0 : Int) ≤ 4 ∧ (4 : Int) ≤ text.length := by decide
  obtain ⟨place, order⟩ := line_column_iff text ["term"] front.1 front.2
  obtain ⟨otherPlace, -⟩ := line_column_iff text [] behind.1 behind.2
  have lines : text.toList.splitOn '\n' = [['a'], [], ['b']] := by decide
  refine ⟨front.1, front.2, behind.1, behind.2, (place 2 1).2 ?_, (otherPlace 3 2).2 ?_,
    (order [] 4 behind.1 behind.2).2.1 (by decide)⟩
  · rw [lines]
    exact ⟨by decide, by decide, by decide, by simp, by decide⟩
  · rw [lines]
    exact ⟨by decide, by decide, by decide, by simp, by decide⟩

end BooleanSearch.Query
