import BooleanSearch.Query.Buckets

/-! Candidates: what is offered where texts or clauses are expected, and may be none. -/

namespace BooleanSearch.Query

/-- A value that is no text. -/
structure NoText where
  /-- The kind of the value. -/
  kind : String
deriving Repr, DecidableEq

/-- The wording where a query was expected. -/
def NoText.message (error : NoText) : String :=
  "Query must be a string, got " ++ error.kind

/-- The text that a value is. -/
def textOf : Value → Except NoText String
  | .text content => .ok content
  | other => .error ⟨other.kindName⟩

/-- A clause, or a value that is offered in the place of one. -/
inductive Candidate
  | known (clause : Clause)
  | other (value : Value)

/-- A value that is no clause. -/
structure NoClause where
  /-- The kind of the value. -/
  kind : String
deriving Repr, DecidableEq

/-- The wording where the operator of the value was needed. -/
def NoClause.operatorMessage (error : NoClause) : String :=
  "'" ++ error.kind ++ "' object has no attribute 'operator'"

/-- The wording where the content of the value was needed. -/
def NoClause.contentMessage (error : NoClause) : String :=
  "Unknown clause type: " ++ error.kind

/-- The clause that a candidate is. -/
def Candidate.toClause : Candidate → Except NoClause Clause
  | .known clause => .ok clause
  | .other value => .error ⟨value.kindName⟩

/-- The clauses that candidates are, or the first candidate that is none. -/
def clausesOf : List Candidate → Except NoClause (List Clause)
  | [] => .ok []
  | candidate :: rest =>
    match candidate.toClause with
    | .error error => .error error
    | .ok clause =>
      match clausesOf rest with
      | .error error => .error error
      | .ok clauses => .ok (clause :: clauses)

end BooleanSearch.Query
