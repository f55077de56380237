import BooleanSearch.Number.Integer
import BooleanSearch.Query.Reading
import BooleanSearch.Text.Cut
import BooleanSearch.Text.Order
import BooleanSearch.Text.Quoted

/-! Reports on texts that are no queries: where the reading stopped and what could have followed. -/

namespace BooleanSearch.Query

/-- What can follow at some offset of a query. -/
inductive Alternative
  | phrase
  | decade
  | term
  | operator
  | space
  | endOfInput
  | closingQuote
deriving Repr, DecidableEq

/-- The name of an alternative in a report. -/
def Alternative.name : Alternative → String
  | .phrase => "phrase"
  | .decade => "decade"
  | .term => "term"
  | .operator => "operator"
  | .space => "whitespace"
  | .endOfInput => "end of input"
  | .closingQuote => "closing quote"

/-- What can stand where a body is read, by what stands in front of it. -/
def Front.alternatives : Front → List Alternative
  | .signed => [.phrase, .decade, .term]
  | .fresh => [.phrase, .decade, .term, .operator, .endOfInput]
  -- White space can follow a clause only once.
  | .glued => [.phrase, .decade, .term, .operator, .endOfInput, .space]

/-- A report on a text that is no query. -/
structure SyntaxError where
  /-- The text itself. -/
  text : String
  /-- The offset of the furthest point reached. -/
  position : Int
  /-- The names of what could have followed there, distinct and in order. -/
  expected : List String
deriving Repr, DecidableEq

namespace SyntaxError

/-- The report on an offset of a text, the names in any order. -/
def report (text : String) (position : Int) (expected : List String) : SyntaxError :=
  ⟨text, position, Text.sortedTexts expected⟩

/-- The number of the line of the position, counted from one. -/
def line (error : SyntaxError) : Nat :=
  (Text.before error.text error.position).count '\n' + 1

/-- The offset at which the line of the position starts. -/
def lineStart (error : SyntaxError) : Nat :=
  let before := Text.before error.text error.position
  before.length - (before.reverse.takeWhile (· != '\n')).length

/-- The number of the column of the position, counted from one. -/
def column (error : SyntaxError) : Int :=
  error.position - error.lineStart + 1

/-- What stands at the position. -/
def found (error : SyntaxError) : String :=
  match Text.between error.text error.position (error.position + 1) with
  | [] => "end of input"
  | cs => Text.quoted (String.ofList cs)

/-- The report as one sentence. -/
def message (error : SyntaxError) : String :=
  let place := "Invalid query at position " ++ Number.intText error.position ++
    " (line " ++ Number.intText error.line ++ ", column " ++ Number.intText error.column ++
    "): found " ++ error.found
  if error.expected.isEmpty then place
  else place ++ ", expected one of: " ++ ", ".intercalate error.expected

end SyntaxError

namespace Stop

/-- The offset that is reported: the furthest point up to which the text could be a query. -/
def position : Stop → Nat
  | .blank offset => offset
  | .strayOperator offset _ => offset + 1
  -- A phrase stays open up to the end of the text.
  | .unclosed _ _ length => length
  | .blankPhrase _ offset => offset + 1

/-- What could have followed at the reported offset. -/
def expected : Stop → List Alternative
  | .blank _ => Front.fresh.alternatives
  | .strayOperator .. => Front.signed.alternatives
  | .unclosed .. => [.closingQuote]
  | .blankPhrase .. => [.term, .closingQuote]

/-- The report on a text whose reading stopped. -/
def report (text : String) (stop : Stop) : SyntaxError :=
  .report text stop.position (stop.expected.map Alternative.name)

/-- The offset of the piece of text that the reading did not accept. -/
def refused : Stop → Nat
  | .blank offset => offset
  -- At the end of the text nothing is left to refuse but the operator.
  | .strayOperator offset atEnd => if atEnd then offset else offset + 1
  | .unclosed _ offset _ => offset
  | .blankPhrase _ offset => offset

/-- Whether a quote was refused, and not white space or the end of the text. -/
def atQuote : Stop → Bool
  | .blank _ | .strayOperator .. => false
  | .unclosed .. | .blankPhrase .. => true

/-- What the reading would have accepted in the place of the refused piece. -/
def alternatives : Stop → List Alternative
  | .blank _ => Front.fresh.alternatives
  | .strayOperator .. => Front.signed.alternatives
  | .unclosed front .. | .blankPhrase front _ => front.alternatives

end Stop

end BooleanSearch.Query
