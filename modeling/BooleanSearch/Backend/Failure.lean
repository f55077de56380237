import BooleanSearch.Backend.Request
import BooleanSearch.Text.Blank
import BooleanSearch.Value.Display

/-! Failures of exchanges with the backend. -/

namespace BooleanSearch.Backend

/-- Why an attempt failed that may be made again. -/
inductive Cause
  | status (code : Int)
  | fault (message : String)
deriving Repr, DecidableEq

/-- The wording of a cause. -/
def Cause.message : Cause → String
  | .status code => "HTTP " ++ Number.intText code
  | .fault message => message

/-- The status of a cause that is a response. -/
def Cause.status? : Cause → Option Int
  | .status code => some code
  | .fault _ => none

/-- What a backend that cannot be reached, or that refuses, makes of a request. -/
inductive Refusal
  /-- All attempts failed; the cause is that of the last one. -/
  | exhausted (request : Request) (attempts : Nat) (cause : Cause)
  /-- The status of the response says that the request failed. -/
  | rejected (request : Request) (response : Response)
  /-- The body of the response is no JSON text. -/
  | unreadable (request : Request)
  /-- The body of the response holds no count of documents. -/
  | noCount (payload : Value)
  /-- The documents did not become visible in time. -/
  | notVisible (index : String) (expected found : Int)
deriving Repr

/-- The part of a body that a message shows. -/
def excerpt (body : String) : String :=
  String.ofList (body.toList.take 200)

/-- The wording of a refusal. -/
def Refusal.message : Refusal → String
  | .exhausted request attempts cause =>
    request.label ++ " failed after " ++ Number.intText attempts ++ " attempts: " ++ cause.message
  | .rejected request response =>
    -- A body that ends in blanks, or that is blank, leaves none at the end of the message.
    Text.trimEnd (request.label ++ " failed: HTTP " ++ Number.intText response.status ++ " " ++
      excerpt response.body)
  | .unreadable request => request.label ++ " returned invalid JSON"
  | .noCount payload => "Unexpected _count response: " ++ payload.inspected
  | .notVisible index expected found =>
    "Expected " ++ Number.intText expected ++ " documents in " ++ index ++ ", found " ++
      Number.intText found

/-- The status that a refusal comes with. -/
def Refusal.status? : Refusal → Option Int
  | .exhausted _ _ cause => cause.status?
  | .rejected _ response => some response.status
  | _ => none

/-- How an exchange fails. -/
inductive Failure
  /-- The backend refuses, or it cannot be reached. -/
  | refused (refusal : Refusal)
  /-- A request cannot be sent at all. -/
  | unsendable (fault : Fault) (message : String)
  /-- A pause would be longer than can be reckoned. -/
  | endlessPause
  /-- There is a value of another kind where an object has to be. -/
  | noObject (kind : String)
deriving Repr

/-- The wording of a failure. -/
def Failure.message : Failure → String
  | .refused refusal => refusal.message
  | .unsendable _ message => message
  | .endlessPause => "int too large to convert to float"
  | .noObject kind => "'" ++ kind ++ "' object has no attribute 'get'"

end BooleanSearch.Backend
