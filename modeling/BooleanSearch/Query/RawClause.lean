import BooleanSearch.Query.SyntaxError

/-! Raw clauses: what a query says clause by clause, before it is given a meaning. -/

namespace BooleanSearch.Query

/-- The kinds of raw clauses; a kind under any other name has no meaning. -/
inductive Kind
  | phrase
  | decade
  | term
  | unknown (name : String)
deriving Repr, DecidableEq

/-- A raw clause. -/
structure RawClause where
  /-- The sign in front of the clause, as it is written. -/
  operator : Option String
  /-- What the value is. -/
  kind : Kind
  /-- The term, the terms of the phrase with single spaces between them, or the decade's digits. -/
  value : String
deriving Repr, DecidableEq

/-- The terms of the body of a phrase. -/
def phraseTerms (body : String) : List String :=
  (terms body.toList).map String.ofList

/-- What a spelled clause says. -/
def RawClause.ofSpelling (spelling : Spelling) : RawClause :=
  let operator := spelling.sign.map fun sign => String.ofList [sign.symbol]
  match spelling.body with
  | .phrase inner => ⟨operator, .phrase, " ".intercalate (phraseTerms (String.ofList inner))⟩
  -- The suffix of a decade says nothing.
  | .decade digits _ => ⟨operator, .decade, String.ofList digits⟩
  | .term run => ⟨operator, .term, String.ofList run⟩

/-- The raw clauses of a text, in order, or the report on why it is no query. -/
def parse (text : String) : Except SyntaxError (List RawClause) :=
  match read text with
  | .ok spelled => .ok (spelled.map RawClause.ofSpelling)
  | .error stop => .error (stop.report text)

end BooleanSearch.Query
