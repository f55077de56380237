import BooleanSearch.Proofs.Text.Runs
import BooleanSearch.Text.Blank

/-! Blanks at the ends of texts: they are taken off once and for all, and a blank text is nothing
but blanks. -/

namespace BooleanSearch.Text

variable {test : α → Bool} {items : List α}

/-- Taking off both ends leaves nothing exactly if the test holds of all members. -/
theorem dropEndWhile_dropWhile_eq_nil_iff :
    dropEndWhile test (items.dropWhile test) = [] ↔ ∀ x ∈ items, test x := by
  rw [dropEndWhile, List.reverse_eq_nil_iff, List.dropWhile_eq_nil_iff]
  constructor
  · intro holds x member
    -- Every member was taken off the front, or it is among those that are left behind it.
    rw [← List.takeWhile_append_dropWhile (p := test) (l := items)] at member
    obtain front | behind := List.mem_append.1 member
    · exact List.mem_takeWhile_imp front
    · exact holds x (List.mem_reverse.2 behind)
  · intro holds x member
    exact holds x ((List.dropWhile_sublist test).subset (List.mem_reverse.1 member))

/-- With its end taken off, a list starts as it did. -/
theorem dropWhile_dropEndWhile (stops : ∀ x ∈ items.head?, test x = false) :
    (dropEndWhile test items).dropWhile test = dropEndWhile test items := by
  have front : dropEndWhile test items <+: items := by
    rw [dropEndWhile, ← List.reverse_suffix, List.reverse_reverse]
    exact List.dropWhile_suffix test
  obtain ⟨behind, parts⟩ := front
  generalize dropEndWhile test items = kept at parts ⊢
  -- Where something is left, it starts with the first member, which fails the test.
  cases kept with
  | nil => rfl
  | cons x rest =>
    have first : test x = false := stops x (by simp [← parts])
    simp [first]

/-- Both ends of a text are bare once they have been taken off. -/
theorem trim_trim (text : String) : trim (trim text) = trim text := by
  have bare := dropWhile_dropEndWhile (dropWhile_head? isBlank text.toList)
  unfold trim
  rw [String.toList_ofList, bare, dropEndWhile_dropEndWhile]

/-- A text is blank, with nothing left of it, exactly if all of its characters are. -/
theorem trim_eq_empty_iff {text : String} : trim text = "" ↔ ∀ c ∈ text.toList, isBlank c := by
  rw [← dropEndWhile_dropWhile_eq_nil_iff, trim, ← String.toList_inj, String.toList_ofList]
  rfl

end BooleanSearch.Text
