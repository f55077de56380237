/-! Texts within texts: what is joined stands in the whole as it is. -/

namespace BooleanSearch.Text

/-- A text holds another one, as it stands, somewhere within it. -/
def Holds (text part : String) : Prop := part.toList <:+: text.toList

variable {text part : String} {parts : List String}

/-- What stands within a part of a text stands within that text. -/
theorem Holds.trans {inner : String} (outer : Holds text part) (within : Holds part inner) :
    Holds text inner :=
  List.IsInfix.trans within outer

/-- A text that goes on holds what it starts with. -/
theorem holds_append_left (front back : String) : Holds (front ++ back) front := by
  rw [Holds, String.toList_append]
  exact (List.prefix_append _ _).isInfix

/-- A text holds what it ends with. -/
theorem holds_append_right (front back : String) : Holds (front ++ back) back := by
  rw [Holds, String.toList_append]
  exact (List.suffix_append _ _).isInfix

/-- Joined texts hold each of them. -/
theorem holds_join (member : part ∈ parts) : Holds (String.join parts) part := by
  -- The characters of the whole are those of the parts, one list behind another.
  rw [Holds, String.toList_join, List.flatMap_def]
  exact List.infix_of_mem_flatten (List.mem_map_of_mem member)

/-- Texts with a separator between each two hold each of them. -/
theorem holds_intercalate (separator : String) (member : part ∈ parts) :
    Holds (separator.intercalate parts) part := by
  -- The part is the first one, or it stands behind the first one and its separator.
  induction parts with
  | nil => contradiction
  | cons first rest ih =>
    cases rest with
    | nil =>
      obtain rfl := List.mem_singleton.1 member
      rw [String.intercalate_singleton]
      exact List.infix_rfl
    | cons next rest =>
      rw [String.intercalate_cons_cons]
      obtain rfl | behind := List.mem_cons.1 member
      · exact (holds_append_left _ _).trans (holds_append_left _ _)
      · exact (holds_append_right _ _).trans (ih behind)

end BooleanSearch.Text
