import Mathlib.Data.List.TakeWhile

/-! Runs at the front of a list: they end at the first member of which a test does not hold. -/

namespace BooleanSearch.Text

/-- The front of a list that a test holds of, up to a member of which it does not. -/
theorem takeWhile_append_stop {test : α → Bool} {front behind : List α}
    (holds : ∀ x ∈ front, test x) (stops : ∀ x ∈ behind.head?, test x = false) :
    (front ++ behind).takeWhile test = front := by
  -- The front is taken as a whole, and the first member behind it ends the run.
  rw [List.takeWhile_append_of_pos holds]
  cases behind with
  | nil => simp
  | cons x rest => simp [stops x (by simp)]

/-- What is left behind the front of a list that a test holds of. -/
theorem dropWhile_append_stop {test : α → Bool} {front behind : List α}
    (holds : ∀ x ∈ front, test x) (stops : ∀ x ∈ behind.head?, test x = false) :
    (front ++ behind).dropWhile test = behind := by
  -- The front is dropped as a whole, and the first member behind it stays.
  rw [List.dropWhile_append_of_pos holds]
  cases behind with
  | nil => simp
  | cons x rest => simp [stops x (by simp)]

/-- The rest of a list starts with a member that fails the test. -/
theorem dropWhile_head? (test : α → Bool) (items : List α) :
    ∀ x ∈ (items.dropWhile test).head?, test x = false := by
  intro x first
  -- Had the test held of that member, it would have been dropped too.
  have kept := List.head?_dropWhile_not test items
  simp only [Option.mem_def] at first
  simpa [first] using kept

end BooleanSearch.Text
