import BooleanSearch.Proofs.Text.Runs
import BooleanSearch.Text.Cut
import BooleanSearch.Text.Place
import Mathlib.Data.List.Induction

/-! Offsets into texts: what stands in front of them, and the places that they have. -/

namespace BooleanSearch.Text

/-! ### Cuts -/

/-- An offset that is not negative counts from the front, up to the end of the text. -/
theorem reach_natCast (text : String) (offset : Nat) :
    reach text offset = min offset text.length := by
  rw [reach, if_neg (by omega), Int.toNat_natCast]

/-- In front of an offset stand as many characters as it counts, or all of them. -/
theorem before_natCast (text : String) (offset : Nat) :
    before text offset = text.toList.take offset := by
  rw [before, reach_natCast, ← String.length_toList, ← List.take_eq_take_min]

/-- Between two offsets stand the characters in front of the second one but not of the first. -/
theorem between_natCast (text : String) (start stop : Nat) :
    between text start stop = (text.toList.take stop).drop start := by
  rw [between, before_natCast, reach_natCast]
  by_cases within : start ≤ text.length
  · rw [Nat.min_eq_left within]
  · -- Behind the end of the text nothing is left.
    have outside : (text.toList.take stop).length ≤ text.length := by
      rw [List.length_take, String.length_toList]
      exact Nat.min_le_right _ _
    rw [List.drop_eq_nil_of_le (by omega), List.drop_eq_nil_of_le (by omega)]

/-! ### Places -/

/-- The line of an offset starts at `start`: behind the last line feed in front of the offset. -/
structure StartsLine (cs : List Char) (offset start : Nat) : Prop where
  /-- A line starts in front of all its offsets, or at the offset itself. -/
  le : start ≤ offset
  /-- The first line starts with the text, and every other line behind a line feed. -/
  opens : start = 0 ∨ ∃ before, start = before + 1 ∧ cs[before]? = some '\n'
  /-- No other line starts in between. -/
  within : ∀ i, start ≤ i → i < offset → cs[i]? ≠ some '\n'

/-- Behind two runs of characters is the place behind the second one, seen from the first. -/
theorem Place.afterAll_append (place : Place) (front behind : List Char) :
    place.afterAll (front ++ behind) = (place.afterAll front).afterAll behind := by
  rw [afterAll, List.foldl_append]
  rfl

/-- Every line feed starts a line. -/
theorem Place.line_afterAll (cs : List Char) :
    ∀ place : Place, (place.afterAll cs).line = place.line + cs.count '\n' := by
  -- The place moves along with the characters.
  induction cs with
  | nil => intro place; rfl
  | cons c rest ih =>
    intro place
    have moved : place.afterAll (c :: rest) = (place.after c).afterAll rest := rfl
    rw [moved, ih]
    by_cases feed : c = '\n'
    · simp only [after, feed, beq_self_eq_true, if_true, List.count_cons_self]
      omega
    · simp [after, feed]

/-- The column counts the characters behind the last line feed. -/
theorem Place.column_afterAll (cs : List Char) :
    (Place.start.afterAll cs).column = (cs.reverse.takeWhile (· != '\n')).length + 1 := by
  -- The last character decides whether the column goes on or starts again.
  induction cs using List.reverseRecOn with
  | nil => rfl
  | append_singleton front c ih =>
    have moved : Place.start.afterAll (front ++ [c]) = (Place.start.afterAll front).after c := by
      rw [afterAll_append]
      rfl
    rw [moved, List.reverse_concat]
    by_cases feed : c = '\n'
    · simp [after, feed]
    · simp [after, feed, ih]

/-- A line starts where a text is split with a line feed in front and none in the part behind. -/
theorem startsLine_append {head tail behind : List Char} (opens : ∀ c ∈ head.getLast?, c = '\n')
    (plain : ∀ c ∈ tail, c ≠ '\n') :
    StartsLine (head ++ tail ++ behind) (head ++ tail).length head.length := by
  refine ⟨by simp, ?_, ?_⟩
  · cases head using List.reverseRecOn with
    | nil => exact .inl rfl
    | append_singleton before c =>
      obtain rfl : c = '\n' := opens c (by simp)
      exact .inr ⟨before.length, by simp, by simp⟩
  · intro i lower upper feed
    -- What is found there belongs to the part without line feeds.
    rw [List.getElem?_append_left upper, List.getElem?_append_right lower] at feed
    exact plain _ (List.mem_of_getElem? feed) rfl

/-- The line of an offset starts where its last run without line feeds does. -/
theorem startsLine_take {cs : List Char} {offset : Nat} (within : offset ≤ cs.length) :
    StartsLine cs offset
      (offset - ((cs.take offset).reverse.takeWhile (· != '\n')).length) := by
  -- The characters in front of the offset are split at the last line feed.
  have parts := List.takeWhile_append_dropWhile (p := (· != '\n')) (l := (cs.take offset).reverse)
  have stops := dropWhile_head? (· != '\n') (cs.take offset).reverse
  have plain : ∀ c ∈ ((cs.take offset).reverse.takeWhile (· != '\n')).reverse, c ≠ '\n' := by
    intro c member
    simpa using List.mem_takeWhile_imp (List.mem_reverse.1 member)
  generalize (cs.take offset).reverse.takeWhile (· != '\n') = tail at parts plain ⊢
  generalize (cs.take offset).reverse.dropWhile (· != '\n') = head at parts stops
  have split : head.reverse ++ tail.reverse ++ cs.drop offset = cs := by
    rw [← List.reverse_append, parts, List.reverse_reverse, List.take_append_drop]
  have length : head.length + tail.length = offset := by
    have lengths := congrArg List.length parts
    simp only [List.length_append, List.length_reverse, List.length_take] at lengths
    omega
  have starts : StartsLine (head.reverse ++ tail.reverse ++ cs.drop offset) _ _ :=
    startsLine_append (by simpa using stops) plain
  rw [split, List.length_append, List.length_reverse, List.length_reverse, length] at starts
  rwa [Nat.sub_eq_of_eq_add length.symm]

end BooleanSearch.Text
