/-! Texts in the order of their code points. -/

namespace BooleanSearch.Text

/-- An ordered list of texts with one more text, which is added only if it is not there yet. -/
def insertText (text : String) : List String → List String
  | [] => [text]
  | first :: rest =>
    if text == first then first :: rest
    else if text < first then text :: first :: rest
    else first :: insertText text rest

/-- The distinct members of a list of texts, in the order of their code points. -/
def sortedTexts (texts : List String) : List String :=
  texts.foldr insertText []

end BooleanSearch.Text
