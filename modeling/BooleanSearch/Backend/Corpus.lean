import BooleanSearch.Backend.Client
import BooleanSearch.Yaml.Reader

/-! Corpora: documents of a file, and how they come to be the content of the index. -/

namespace BooleanSearch.Backend

open Number

/-- Why a text is no corpus. -/
inductive CorpusError
  | yaml (error : Yaml.Error)
  | noList (path : String)
  | noObject (path : String) (position : Nat)
deriving Repr, DecidableEq

/-- The wording of an error, unless it lies in the notation of the text. -/
def CorpusError.message? : CorpusError → Option String
  | .yaml error => error.message?
  | .noList path => some (path ++ " must contain a list of documents")
  | .noObject path position => some (path ++ "[" ++ intText position ++ "] must be an object")

/-- Checks that values are objects; the path and the position say where one stands. -/
def requireObjects (path : String) (position : Nat) : List Value → Except CorpusError Unit
  | [] => .ok ()
  | .mapping _ :: rest => requireObjects path (position + 1) rest
  | _ :: _ => .error (.noObject path position)

/-- The documents of a value. -/
def documentsOf (path : String) : Value → Except CorpusError (List Value)
  | .list items => (requireObjects path 0 items).map fun _ => items
  | other => if other.isNothing then .ok [] else .error (.noList path)

/-- The documents of a text, which any reader may read; the path tells messages where the text
comes from. -/
def readDocuments (path text : String) (reader : Yaml.Reader := Yaml.read) :
    Except CorpusError (List Value) :=
  match reader text with
  | .error error => .error (.yaml error)
  | .ok value => documentsOf path value

/-- An analysed text field of an index. -/
def textField : Value :=
  .object [("type", .text "text"), ("analyzer", .text "standard")]

/-- An index of books, as the backend is told to make it. -/
def booksIndex : Value :=
  .object [("mappings", .object [
    ("dynamic", .bool false),
    ("properties", .object [
      ("title", textField),
      ("author", textField),
      ("publication_year", .object [("type", .text "integer")])])])]

namespace Client

/-- Makes the index, in the place of any that was there. -/
def recreateIndex (client : Client) (body : Value) : Exchange Failure Unit := do
  if ← client.indexExists then client.deleteIndex
  client.createIndex body

/-- Puts documents under the numbers from some one on. -/
def putDocuments (client : Client) (position : Nat) : List Value → Exchange Failure Unit
  | [] => pure ()
  | document :: rest => do
    client.putDocument (intText position) document
    client.putDocuments (position + 1) rest

/-- Puts documents into the index, under the numbers from zero on; their count comes back. -/
def load (client : Client) (documents : List Value) : Exchange Failure Nat := do
  client.putDocuments 0 documents
  Exchange.info
    ("Indexed " ++ intText documents.length ++ " documents into " ++ client.index)
  return documents.length

/-- Polls the count of visible documents; so many polls are left, and `seen` was seen last. -/
def poll (client : Client) (expected : Int) (delay : Binary64) (number : Nat) (seen : Int) :
    (left : Nat) → Exchange Failure Int
  | 0 => Exchange.fail (.refused (.notVisible client.index expected seen))
  | left + 1 => do
    let visible ← client.count
    if visible == expected then
      Exchange.debug ("Documents visible after " ++ intText number ++ " poll(s): " ++
        intText visible)
      return visible
    -- Nothing is waited for behind the last poll.
    if left != 0 then
      Exchange.debug ("Waiting for documents: visible=" ++ intText visible ++ " expected=" ++
        intText expected)
      Exchange.wait delay
    client.poll expected delay (number + 1) visible left

/-- Waits until exactly so many documents are visible. -/
def waitFor (client : Client) (expected attempts : Int) (delay : Binary64) :
    Exchange Failure Int :=
  client.poll expected delay 1 (-1) attempts.toNat

end Client

/-- The polls that are made where nothing else is said. -/
def standardPolls : Int := 6

/-- The pause between two polls where nothing else is said. -/
def standardDelay : Binary64 := .ofHundredths 50

end BooleanSearch.Backend
