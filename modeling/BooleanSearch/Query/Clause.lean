import BooleanSearch.Query.RawClause
import BooleanSearch.Value.Basic

/-! Clauses: raw clauses with their operator and their content understood. -/

namespace BooleanSearch.Query

/-- How a clause takes part in a query. -/
inductive Operator
  | should
  | must
  | mustNot
deriving Repr, DecidableEq

/-- The operators, in the order in which the sections of a query stand. -/
def Operator.all : List Operator := [.should, .must, .mustNot]

/-- The name of the section that holds the clauses of an operator. -/
def Operator.section : Operator → String
  | .should => "should"
  | .must => "must"
  | .mustNot => "must_not"

/-- Ten years in a row, the first of which is a multiple of ten. -/
structure Decade where
  /-- The first of the ten years. -/
  first : Int
  /-- The decade starts on a multiple of ten. -/
  aligned : first % 10 = 0
deriving Repr, DecidableEq

/-- The last of the ten years. -/
def Decade.last (decade : Decade) : Int := decade.first + 9

/-- What a clause looks for. -/
inductive Content
  | term (text : String)
  | phrase (text : String)
  | years (decade : Decade)
deriving Repr, DecidableEq

/-- A clause. -/
structure Clause where
  /-- How the clause takes part in the query. -/
  operator : Operator
  /-- What the clause looks for. -/
  content : Content
deriving Repr, DecidableEq

/-- Why years are no decade. -/
inductive DecadeError
  | unaligned (first : Int)
  | wrongSpan (first last : Int)
deriving Repr, DecidableEq

/-- The wording of an error about years. -/
def DecadeError.message : DecadeError → String
  | .unaligned first => "Decade start year must be a multiple of 10: " ++ Number.intText first
  | .wrongSpan first last =>
    "Decade must span ten years: " ++ Number.intText first ++ "-" ++ Number.intText last

/-- The decade that starts in a year. -/
def Decade.starting (first : Int) : Except DecadeError Decade :=
  if aligned : first % 10 = 0 then .ok ⟨first, aligned⟩ else .error (.unaligned first)

/-- The decade of a first and a last year. -/
def Decade.spanning (first last : Int) : Except DecadeError Decade :=
  match Decade.starting first with
  | .error error => .error error
  | .ok decade => if last = decade.last then .ok decade else .error (.wrongSpan first last)

/-- Why a raw clause has no meaning. -/
inductive ClassifyError
  | unknownOperator (symbol : String)
  | malformedDecade (value : String)
  | badYears (error : DecadeError)
  | unknownKind (name : String)
deriving Repr, DecidableEq

/-- The wording of an error about a raw clause. -/
def ClassifyError.message : ClassifyError → String
  | .unknownOperator symbol => "Unknown operator: " ++ Text.quoted symbol
  | .malformedDecade value => "Malformed decade: " ++ Text.quoted value
  | .badYears error => error.message
  | .unknownKind name => "Unexpected clause type: " ++ Text.quoted name

/-- The operator that a sign stands for; clauses without a sign are optional. -/
def Operator.ofSymbol : Option String → Except ClassifyError Operator
  | none => .ok .should
  | some symbol =>
    if symbol = "+" then .ok .must
    else if symbol = "-" then .ok .mustNot
    else .error (.unknownOperator symbol)

/-- What the value of a raw clause looks for. -/
def Content.ofRaw (kind : Kind) (value : String) : Except ClassifyError Content :=
  match kind with
  | .term => .ok (.term value)
  | .phrase => .ok (.phrase value)
  | .unknown name => .error (.unknownKind name)
  | .decade =>
    match Number.integerOfText? value with
    | none => .error (.malformedDecade value)
    | some first =>
      match Decade.starting first with
      | .ok decade => .ok (.years decade)
      | .error error => .error (.badYears error)

/-- The clause that a raw clause stands for; its operator is looked at first. -/
def classify (raw : RawClause) : Except ClassifyError Clause :=
  match Operator.ofSymbol raw.operator with
  | .error error => .error error
  | .ok operator =>
    match Content.ofRaw raw.kind raw.value with
    | .error error => .error error
    | .ok content => .ok ⟨operator, content⟩

/-- The clauses that raw clauses stand for, in order, or the first error. -/
def classifyAll : List RawClause → Except ClassifyError (List Clause)
  | [] => .ok []
  | raw :: rest =>
    match classify raw with
    | .error error => .error error
    | .ok clause =>
      match classifyAll rest with
      | .error error => .error error
      | .ok clauses => .ok (clause :: clauses)

end BooleanSearch.Query
