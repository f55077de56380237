import BooleanSearch.Number.Decimal
import BooleanSearch.Number.Integer
import BooleanSearch.Text.Quoted
import BooleanSearch.Value.Basic

/-! Values as they are shown to a reader, in messages and in lists of hits. -/

namespace BooleanSearch

/-- A scalar as part of a larger value; texts stand in quotes. -/
def Scalar.inspected : Scalar → String
  | .null => "None"
  | .bool truth => if truth then "True" else "False"
  | .int number => Number.intText number
  | .float number => number.text
  | .text content => Text.quoted content
  | .foreign value => value.inspected

/-- A scalar on its own; a text is shown as it is. -/
def Scalar.shown : Scalar → String
  | .text content => content
  | .foreign value => value.shown
  | other => other.inspected

mutual

/-- A value with its parts in order, texts in quotes. -/
def Value.inspected : Value → String
  | .scalar content => content.inspected
  | .list items => "[" ++ ", ".intercalate (inspectedItems items) ++ "]"
  | .mapping entries => "\x7b" ++ ", ".intercalate (inspectedEntries entries) ++ "\x7d"

/-- The members of a list. -/
def inspectedItems : List Value → List String
  | [] => []
  | item :: rest => item.inspected :: inspectedItems rest

/-- The entries of a mapping, each a key and its value. -/
def inspectedEntries : List (Scalar × Value) → List String
  | [] => []
  | (key, value) :: rest => (key.inspected ++ ": " ++ value.inspected) :: inspectedEntries rest

end

/-- A value on its own; a text is shown as it is. -/
def Value.shown : Value → String
  | .scalar content => content.shown
  | other => other.inspected

end BooleanSearch
