/-! Texts cut at every place where a character stands. -/

namespace BooleanSearch.Text

/-- The pieces of a text between the places where a character stands; there is always one. -/
def pieces (separator : Char) : List Char → List (List Char)
  | [] => [[]]
  | c :: rest =>
    if c == separator then [] :: pieces separator rest
    else
      match pieces separator rest with
      | [] => [[c]]
      | piece :: others => (c :: piece) :: others

end BooleanSearch.Text
