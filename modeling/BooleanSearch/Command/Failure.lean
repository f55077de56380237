import BooleanSearch.Backend.Corpus
import BooleanSearch.Log.Record
import BooleanSearch.Query.Buckets
import BooleanSearch.Text.Case

/-! Failures of commands, and how they are told. -/

namespace BooleanSearch.Command

/-- What a command is for. -/
inductive Action
  | document
  | explain
  | search
  | index
deriving Repr, DecidableEq

/-- The name of an action. -/
def Action.name : Action → String
  | .document => "translate"
  | .explain => "explain"
  | .search => "search"
  | .index => "index"

/-- The action of a name. -/
def Action.ofName? : String → Option Action
  | "translate" => some .document
  | "explain" => some .explain
  | "search" => some .search
  | "index" => some .index
  | _ => none

/-- Why a command fails. -/
inductive Failure
  | query (error : Query.QueryError)
  | corpus (error : Backend.CorpusError)
  | backend (failure : Backend.Failure)
deriving Repr

/-- The wording of a failure, unless it lies in the notation of a text. -/
def Failure.message? : Failure → Option String
  | .query error => some error.message
  | .corpus error => error.message?
  | .backend failure => some failure.message

/-- What is logged about a failure. -/
def Failure.record (action : Action) : Failure → Log.Record
  -- A query that cannot be read is the fault of its writer, not of the program.
  | .query (.syntaxError error) =>
    .debug ("Syntax error detail: expected=" ++ Text.quotedTuple error.expected ++ " position=" ++
      Number.intText error.position)
  | failure =>
    .error (Text.capitalize action.name ++ " failed: " ++
      failure.message?.getD "the notation of the documents cannot be read")

/-- What the user is told about a failure at the end. -/
def Failure.closing : Failure → String
  | .query (.syntaxError error) => "Error: " ++ error.message ++ "\n"
  | _ => "Aborted!\n"

end BooleanSearch.Command
