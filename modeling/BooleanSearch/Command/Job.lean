import BooleanSearch.Backend.Corpus
import BooleanSearch.Backend.Hits
import BooleanSearch.Command.Failure
import BooleanSearch.Json.Writer
import BooleanSearch.Query.Document
import BooleanSearch.Query.Explanation

/-! Jobs: the steps that commands take with their settings. -/

namespace BooleanSearch.Command

open Backend Query

/-- The query of a text. -/
def queryOf (text : String) : Exchange Failure Buckets := do
  let raws ← Exchange.ofExcept ((parse text).mapError fun error => .query (.syntaxError error))
  Exchange.debug
    ("Parsed " ++ Number.intText raws.length ++ " clauses from " ++ Text.quoted text)
  let clauses ← Exchange.ofExcept
    ((classifyAll raws).mapError fun error => .query (.classifyError error))
  let query := Buckets.ofClauses clauses
  Exchange.debug
    ("Built query: should=" ++ Number.intText query.should.length ++ " must=" ++
      Number.intText query.must.length ++ " must_not=" ++ Number.intText query.mustNot.length)
  return query

/-- Writes the document of a text. -/
def document (fields : FieldNames) (layout : Json.Layout) (text : String) :
    Exchange Failure String := do
  let query ← queryOf text
  Exchange.debug ("Translated " ++ Text.quoted text)
  return Json.render layout (query.document fields)

/-- Explains the query of a text. -/
def explanation (text : String) : Exchange Failure String := do
  let query ← queryOf text
  Exchange.debug ("Explained " ++ Text.quoted text)
  return query.explanation

/-- Lists what the backend finds for a text. -/
def search (fields : FieldNames) (client : Client) (text : String) : Exchange Failure String := do
  let query ← queryOf text
  let requested := query.document fields
  Exchange.debug ("Request body: " ++ Json.render .compact requested)
  let hits ← (client.search requested).mapError .backend
  Exchange.info
    ("Fetched " ++ Number.intText hits.length ++ " hits from " ++ client.index)
  Exchange.ofExcept ((listing hits).mapError .backend)

/-- Makes the index anew from a corpus, and waits until all of it is visible. -/
def indexing (client : Client) (corpus : Except CorpusError (List Value)) (polls : Int)
    (delay : Number.Binary64) : Exchange Failure Int := do
  let documents ← Exchange.ofExcept (corpus.mapError .corpus)
  (client.recreateIndex booksIndex).mapError .backend
  let sent ← (client.load documents).mapError .backend
  client.refresh.mapError .backend
  let visible ← (client.waitFor sent polls delay).mapError .backend
  Exchange.info
    ("Index " ++ client.index ++ " ready with " ++ Number.intText visible ++ " documents")
  return visible

/-- What a command is told to do. -/
inductive Job
  /-- The document of a text is to be written. -/
  | document (layout : Json.Layout) (text : String)
  /-- The query of a text is to be explained. -/
  | explain (text : String)
  /-- A text is to be searched for. -/
  | search (text : String)
  /-- The documents of a file are to be the content of the index. -/
  | index (path content : String)
deriving Repr, DecidableEq

/-- What a job is for. -/
def Job.action : Job → Action
  | .document .. => .document
  | .explain _ => .explain
  | .search _ => .search
  | .index .. => .index

/-- The steps of a job; what it writes comes back. -/
def Job.steps (settings : Settings) (client : Client) (reader : Yaml.Reader) :
    Job → Exchange Failure String
  | .document layout text => do return (← Command.document settings.fields layout text) ++ "\n"
  | .explain text => explanation text
  | .search text => Command.search settings.fields client text
  | .index path content => do
    let _ ← indexing client (readDocuments path content reader) standardPolls standardDelay
    return ""

end BooleanSearch.Command
