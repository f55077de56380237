import BooleanSearch.Backend.Exchange
import BooleanSearch.Backend.Failure
import BooleanSearch.Json.Reader
import BooleanSearch.Settings.Basic

/-! Clients: requests about one index of the backend, repeated while the backend is not ready. -/

namespace BooleanSearch.Backend

open Number

/-- What is known about the backend and the index. -/
structure Client where
  /-- The address of the backend, without a slash at its end. -/
  baseUrl : String
  /-- The index that all requests are about. -/
  index : String
  /-- The time that a reply may take. -/
  timeout : Seconds
  /-- The attempts that may follow the first one. -/
  spareAttempts : Nat
  /-- In whose name requests are sent. -/
  credentials : Option Credentials
deriving Repr, DecidableEq

namespace Client

/-- A client; slashes at the end of the address are dropped, and one attempt is always made. -/
def make (url index : String) (timeout : Seconds) (maxAttempts : Int)
    (credentials : Option Credentials) : Client :=
  ⟨String.ofList (Text.dropEndWhile (· == '/') url.toList), index, timeout,
    (maxAttempts - 1).toNat, credentials⟩

/-- The time that a reply may take where nothing else is said. -/
def standardTimeout : Seconds := .binary (.ofHundredths 1000)

/-- The attempts that are made where nothing else is said. -/
def standardAttempts : Int := 4

/-- The client of settings. -/
def ofSettings (settings : BackendSettings) (environment : Environment) : Client :=
  make settings.url settings.index (.binary settings.timeout) settings.maxAttempts
    (settings.credentials? environment)

/-- The attempts that are made for one request. -/
def maxAttempts (client : Client) : Nat := client.spareAttempts + 1

/-- The address of the index, or of something in it. -/
def url (client : Client) (path : String) : String :=
  let base := client.baseUrl ++ "/" ++ client.index
  if path == "" then base else base ++ "/" ++ path

/-- A request about the index, or about something in it. -/
def request (client : Client) (method : Method) (path : String) (body : Option Value) : Request :=
  ⟨method, client.url path, body, client.timeout, client.credentials⟩

end Client

/-- The statuses of a backend that is not ready. -/
def passingStatuses : List Int := [429, 500, 502, 503, 504]

/-- What a reply means for the request. -/
inductive Verdict
  | final (response : Response)
  | passing (cause : Cause)
  | hopeless (fault : Fault) (message : String)
deriving Repr, DecidableEq

/-- What a reply means for the request. -/
def Reply.verdict : Reply → Verdict
  | .answered response =>
    if passingStatuses.contains response.status then .passing (.status response.status)
    else .final response
  | .failed fault message =>
    if fault.isPassing then .passing (.fault message) else .hopeless fault message

/-- The pause behind the first attempt, apart from its random part. -/
def basePause : Binary64 := .ofHundredths 50

/-- The longest pause. -/
def longestPause : Binary64 := .ofHundredths 800

/-- The pause behind an attempt: it doubles from one to the next, up to a limit. -/
def pauseBehind (attempt : Nat) (random : Binary64) : Option Binary64 :=
  (Binary64.ofInt? (twoTo (attempt - 1))).map fun factor =>
    ((basePause.mul factor).add random).atMost longestPause

/-- An attempt in a few words. -/
def attemptText (attempt total : Nat) : String :=
  intText attempt ++ "/" ++ intText total

/-- One attempt: it comes to a response, or to a cause for making another one. -/
def attempt (request : Request) (total number : Nat) :
    Exchange Failure (Except Cause Response) := do
  Exchange.debug ("Backend request attempt " ++ attemptText number total ++ ": " ++ request.label)
  match (← Exchange.ask request).verdict with
  | .final response => return .ok response
  | .passing cause => return .error cause
  | .hopeless fault message => Exchange.fail (.unsendable fault message)

/-- The pause behind an attempt that failed, before the next one is made. -/
def pauseBefore (total number : Nat) (cause : Cause) : Exchange Failure Unit := do
  match pauseBehind number (← Exchange.random) with
  | none => Exchange.fail .endlessPause
  | some delay =>
    Exchange.debug ("Backend retry attempt=" ++ attemptText number total ++ " delay=" ++
      delay.centsText ++ "s error=" ++ cause.message)
    Exchange.wait delay

/-- The attempts from some number on; so many others may follow it. -/
def attemptsFrom (request : Request) (total number : Nat) :
    (spare : Nat) → Exchange Failure Response
  | 0 => do
    match ← attempt request total number with
    | .ok response => return response
    | .error cause => Exchange.fail (.refused (.exhausted request total cause))
  | spare + 1 => do
    match ← attempt request total number with
    | .ok response => return response
    | .error cause =>
      pauseBefore total number cause
      attemptsFrom request total (number + 1) spare

/-- Fails if the status of a response says that the request failed. -/
def requireSuccess (request : Request) (response : Response) : Exchange Failure Unit :=
  if response.status < 400 then pure () else Exchange.fail (.refused (.rejected request response))

namespace Client

/-- The response to a request, whatever it says. -/
def respond (client : Client) (request : Request) : Exchange Failure Response :=
  attemptsFrom request client.maxAttempts 1 client.spareAttempts

/-- The value in the body of a successful response. -/
def answer (client : Client) (request : Request) : Exchange Failure Value := do
  let response ← client.respond request
  requireSuccess request response
  match Json.read? response.body with
  | some payload => return payload
  | none => Exchange.fail (.refused (.unreadable request))

/-- The value under a key of an object. -/
def member? (key : String) : Value → Option Value
  | .mapping entries => Entries.getText? key entries
  | _ => none

/-- The number of documents that searches see. -/
def count (client : Client) : Exchange Failure Int := do
  let payload ← client.answer (client.request .get "_count" none)
  match member? "count" payload with
  | some (.int number) => return number
  | _ => Exchange.fail (.refused (.noCount payload))

/-- Whether the index is there. -/
def indexExists (client : Client) : Exchange Failure Bool := do
  let request := client.request .head "" none
  let response ← client.respond request
  if response.status == 404 then return false
  requireSuccess request response
  return true

/-- Makes the index. -/
def createIndex (client : Client) (body : Value) : Exchange Failure Unit := do
  let _ ← client.answer (client.request .put "" (some body))
  Exchange.info ("Index created: " ++ client.index)

/-- Drops the index. -/
def deleteIndex (client : Client) : Exchange Failure Unit := do
  let _ ← client.answer (client.request .delete "" none)
  Exchange.info ("Index deleted: " ++ client.index)

/-- Puts a document under an identifier, in the place of any that was there. -/
def putDocument (client : Client) (identifier : String) (document : Value) :
    Exchange Failure Unit := do
  let _ ← client.answer (client.request .put ("_doc/" ++ identifier) (some document))
  return ()

/-- Makes what was written visible to searches. -/
def refresh (client : Client) : Exchange Failure Unit := do
  let _ ← client.answer (client.request .post "_refresh" none)
  return ()

end Client

end BooleanSearch.Backend
