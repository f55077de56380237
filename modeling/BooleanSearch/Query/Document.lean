import BooleanSearch.Query.Buckets

/-! Request documents: queries as the search backend takes them. -/

namespace BooleanSearch.Query

/-- The fields of the index that a document refers to. -/
structure FieldNames where
  /-- The field that terms and phrases are looked for in. -/
  text : String
  /-- The field that holds the year of publication. -/
  year : String
deriving Repr, DecidableEq

/-- The fields of an index of books. -/
def FieldNames.standard : FieldNames := ⟨"title", "publication_year"⟩

/-- A document that matches a text against a field in some way. -/
def matching (way field text : String) : Value :=
  .object [(way, .object [(field, .object [("query", .text text)])])]

/-- The part of the document that one clause becomes. -/
def Clause.fragment (fields : FieldNames) (clause : Clause) : Value :=
  match clause.content with
  | .term text => matching "match" fields.text text
  | .phrase text => matching "match_phrase" fields.text text
  | .years decade =>
    .object [("range", .object [(fields.year,
      .object [("gte", .int decade.first), ("lte", .int decade.last)])])]

/-- The section of an operator, unless its bucket is empty. -/
def Buckets.section? (fields : FieldNames) (query : Buckets) (operator : Operator) :
    Option (String × Value) :=
  match query.bucket operator with
  | [] => none
  | clauses => some (operator.section, .list (clauses.map (Clause.fragment fields)))

/-- The document of a query: a boolean node with a section for each bucket that has clauses. -/
def Buckets.document (fields : FieldNames) (query : Buckets) : Value :=
  .object [("query", .object [("bool",
    .object (Operator.all.filterMap (query.section? fields)))])]

/-- The document of a text. -/
def documentOfText (fields : FieldNames) (text : String) : Except QueryError Value :=
  match Buckets.ofText text with
  | .error error => .error error
  | .ok query => .ok (query.document fields)

end BooleanSearch.Query
