import BooleanSearch.Number.Decimal
import BooleanSearch.Number.Integer
import BooleanSearch.Settings.Credentials
import BooleanSearch.Value.Basic

/-! Requests to the search backend, and the replies that they get. -/

namespace BooleanSearch.Backend

open Number

/-- What a request does to the thing that its address names. -/
inductive Method
  | head
  | get
  | put
  | post
  | delete
deriving Repr, DecidableEq

/-- The name of a method, as it is sent. -/
def Method.name : Method → String
  | .head => "HEAD"
  | .get => "GET"
  | .put => "PUT"
  | .post => "POST"
  | .delete => "DELETE"

/-- A time in seconds, given as a whole number or as a binary one. -/
inductive Seconds
  | whole (count : Int)
  | binary (count : Binary64)
deriving Repr, DecidableEq

/-- The text of a time. -/
def Seconds.text : Seconds → String
  | .whole count => intText count
  | .binary count => count.text

/-- A request. -/
structure Request where
  /-- What is done. -/
  method : Method
  /-- The address of the thing that it is done to. -/
  url : String
  /-- What is sent along. -/
  body : Option Value
  /-- The time that the reply may take. -/
  timeout : Seconds
  /-- In whose name the request is sent. -/
  credentials : Option Credentials
deriving Repr

/-- A request in a few words. -/
def Request.label (request : Request) : String :=
  request.method.name ++ " " ++ request.url

/-- Why no response came. Whatever else keeps a request from getting one goes by its own name. -/
inductive Fault
  | timeout
  | readTimeout
  | connectTimeout
  | connection
  | secureConnection
  | invalidUrl
  | tooManyRedirects
  | other (name : String)
deriving Repr, DecidableEq

/-- Whether the same request may well get a response later. -/
def Fault.isPassing : Fault → Bool
  | .timeout | .readTimeout | .connectTimeout | .connection | .secureConnection => true
  | .invalidUrl | .tooManyRedirects | .other _ => false

/-- A response. -/
structure Response where
  /-- The number that says how the request went. -/
  status : Int
  /-- The text that came along. -/
  body : String
deriving Repr, DecidableEq

/-- What comes of a request. -/
inductive Reply
  | answered (response : Response)
  | failed (fault : Fault) (message : String)
deriving Repr, DecidableEq

/-- The reply of a backend that says nothing. -/
def Reply.silence : Reply := .failed .connection "no response"

end BooleanSearch.Backend
