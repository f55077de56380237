import BooleanSearch.Query.Clause

/-! Queries: clauses parted into one bucket for each operator. -/

namespace BooleanSearch.Query

/-- A query; each bucket holds its clauses in order. -/
structure Buckets where
  /-- Clauses that raise the relevance of a hit. -/
  should : List Clause
  /-- Clauses that every hit satisfies. -/
  must : List Clause
  /-- Clauses that no hit satisfies. -/
  mustNot : List Clause
deriving Repr, DecidableEq

namespace Buckets

/-- The query without clauses. -/
def empty : Buckets := ⟨[], [], []⟩

/-- The clauses in the bucket of an operator. -/
def bucket (query : Buckets) : Operator → List Clause
  | .should => query.should
  | .must => query.must
  | .mustNot => query.mustNot

/-- The query with one more clause at the end of the bucket of its operator. -/
def add (query : Buckets) (clause : Clause) : Buckets :=
  match clause.operator with
  | .should => { query with should := query.should ++ [clause] }
  | .must => { query with must := query.must ++ [clause] }
  | .mustNot => { query with mustNot := query.mustNot ++ [clause] }

/-- The query of a list of clauses. -/
def ofClauses (clauses : List Clause) : Buckets :=
  clauses.foldl add empty

/-- All clauses, bucket by bucket. -/
def clauses (query : Buckets) : List Clause :=
  Operator.all.flatMap query.bucket

/-- Whether the query has no clauses. -/
def isEmpty (query : Buckets) : Bool :=
  query.should.isEmpty && query.must.isEmpty && query.mustNot.isEmpty

end Buckets

/-- Why a text has no query. -/
inductive QueryError
  | syntaxError (error : SyntaxError)
  | classifyError (error : ClassifyError)
deriving Repr, DecidableEq

/-- The wording of an error about a text. -/
def QueryError.message : QueryError → String
  | .syntaxError error => error.message
  | .classifyError error => error.message

/-- The query of a text. -/
def Buckets.ofText (text : String) : Except QueryError Buckets :=
  match parse text with
  | .error error => .error (.syntaxError error)
  | .ok raws =>
    match classifyAll raws with
    | .error error => .error (.classifyError error)
    | .ok clauses => .ok (.ofClauses clauses)

end BooleanSearch.Query
