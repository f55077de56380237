import BooleanSearch.Query.Buckets

/-! Explanations: queries as lines for a reader. -/

namespace BooleanSearch.Query

/-- A clause in a few words. -/
def Clause.label (clause : Clause) : String :=
  match clause.content with
  | .term text => "term " ++ text
  | .phrase text => "phrase \"" ++ text ++ "\""
  | .years decade =>
    "years " ++ Number.intText decade.first ++ "-" ++ Number.intText decade.last

/-- The lines of a bucket: its name, then its clauses or a dash. -/
def Buckets.sectionLines (query : Buckets) (operator : Operator) : List String :=
  let labels := match query.bucket operator with
    | [] => ["-"]
    | clauses => clauses.map Clause.label
  (operator.section ++ ":") :: labels.map ("   " ++ ·)

/-- The explanation of a query, every line ended. -/
def Buckets.explanation (query : Buckets) : String :=
  "\n".intercalate (Operator.all.flatMap query.sectionLines) ++ "\n"

end BooleanSearch.Query
