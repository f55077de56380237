import BooleanSearch.Backend.Request
import BooleanSearch.Json.Reader
import BooleanSearch.Json.Writer

/-! Requests and replies as lines of JSON, for whoever carries them to the backend and back. -/

namespace BooleanSearch.Backend

/-- Credentials as a value. -/
def credentialsValue : Option Credentials → Value
  | some credentials => .list [.text credentials.username, .text credentials.password]
  | none => .null

/-- A request as one line. -/
def Request.line (request : Request) : String :=
  Json.render .compact (.object [
    ("method", .text request.method.name),
    ("url", .text request.url),
    ("body", request.body.getD .null),
    ("timeout", .text request.timeout.text),
    ("auth", credentialsValue request.credentials)])

/-- The fault of a name. -/
def Fault.ofName : String → Fault
  | "timeout" => .timeout
  | "read_timeout" => .readTimeout
  | "connect_timeout" => .connectTimeout
  | "connection" => .connection
  | "ssl" => .secureConnection
  | "invalid_url" => .invalidUrl
  | "redirects" => .tooManyRedirects
  | name => .other name

/-- The text under a key, or none at all. -/
def textUnder (key : String) (entries : Entries) : String :=
  match Entries.getText? key entries with
  | some (.text content) => content
  | _ => ""

/-- The reply that a value tells: a status and a body, or a fault and what is said about it. -/
def Reply.ofValue (value : Value) : Reply :=
  match value with
  | .mapping entries =>
    match Entries.getText? "status" entries, Entries.getText? "raise" entries with
    | some (.int status), _ => .answered ⟨status, textUnder "body" entries⟩
    | _, some (.text name) => .failed (.ofName name) (textUnder "message" entries)
    | _, _ => .silence
  | _ => .silence

/-- The reply that a line tells; a line that tells none is silence. -/
def Reply.ofLine (line : String) : Reply :=
  ((Json.read? line).map Reply.ofValue).getD .silence

end BooleanSearch.Backend
