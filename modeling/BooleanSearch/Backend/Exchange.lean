import BooleanSearch.Backend.Request
import BooleanSearch.Log.Record

/-! Exchanges with the backend, step by step, and what becomes of them under given replies. -/

namespace BooleanSearch.Backend

open Number

/-- An exchange that ends in a value or in a failure. -/
inductive Exchange (ε α : Type)
  /-- The exchange is over. -/
  | done (result : Except ε α)
  /-- Something is logged. -/
  | log (record : Log.Record) (next : Exchange ε α)
  /-- Nothing is done for a while. -/
  | pause (seconds : Binary64) (next : Exchange ε α)
  /-- A random number is drawn. -/
  | draw (next : Binary64 → Exchange ε α)
  /-- A request is sent, and its reply is awaited. -/
  | send (request : Request) (next : Reply → Exchange ε α)

namespace Exchange

/-- The exchange that goes on with another one where it ends in a value. -/
def bind : Exchange ε α → (α → Exchange ε β) → Exchange ε β
  | .done (.ok value), continuation => continuation value
  | .done (.error error), _ => .done (.error error)
  | .log record next, continuation => .log record (next.bind continuation)
  | .pause seconds next, continuation => .pause seconds (next.bind continuation)
  | .draw next, continuation => .draw fun number => (next number).bind continuation
  | .send request next, continuation => .send request fun reply => (next reply).bind continuation

instance : Monad (Exchange ε) where
  pure value := .done (.ok value)
  bind := bind

/-- The exchange that fails at once. -/
def fail (error : ε) : Exchange ε α := .done (.error error)

/-- The exchange that is over at once. -/
def ofExcept (result : Except ε α) : Exchange ε α := .done result

/-- Logs something for those who look for a fault. -/
def debug (message : String) : Exchange ε Unit :=
  .log (.debug message) (pure ())

/-- Logs something that was done. -/
def info (message : String) : Exchange ε Unit :=
  .log (.info message) (pure ())

/-- Does nothing for a while. -/
def wait (seconds : Binary64) : Exchange ε Unit :=
  .pause seconds (pure ())

/-- A random number. -/
def random : Exchange ε Binary64 := .draw pure

/-- The reply to a request. -/
def ask (request : Request) : Exchange ε Reply := .send request pure

/-- The exchange with its failures told in another way. -/
def mapError (f : ε → δ) : Exchange ε α → Exchange δ α
  | .done result => .done (result.mapError f)
  | .log record next => .log record (next.mapError f)
  | .pause seconds next => .pause seconds (next.mapError f)
  | .draw next => .draw fun number => (next number).mapError f
  | .send request next => .send request fun reply => (next reply).mapError f

end Exchange

/-- What a backend will say, and the numbers that will be drawn. -/
structure Script where
  /-- The replies that are left; behind the last one there is silence. -/
  replies : List Reply
  /-- The random numbers that are left. -/
  draws : Nat → Binary64

/-- The next reply, and what is left behind it. -/
def Script.reply (script : Script) : Reply × Script :=
  match script.replies with
  | [] => (.silence, script)
  | reply :: rest => (reply, { script with replies := rest })

/-- The next random number, and what is left behind it. -/
def Script.draw (script : Script) : Binary64 × Script :=
  (script.draws 0, { script with draws := fun index => script.draws (index + 1) })

/-- What happens during an exchange. -/
inductive Event
  | sent (request : Request) (reply : Reply)
  | paused (seconds : Binary64)
  | logged (record : Log.Record)
deriving Repr

/-- What became of an exchange. -/
structure Outcome (ε α : Type) where
  /-- How it ended. -/
  result : Except ε α
  /-- What happened, in order. -/
  events : List Event
  /-- What is left of the script. -/
  rest : Script

/-- An outcome with one more event at its start. -/
def Outcome.after (event : Event) (outcome : Outcome ε α) : Outcome ε α :=
  { outcome with events := event :: outcome.events }

/-- What becomes of an exchange under a script. -/
def Exchange.replay : Exchange ε α → Script → Outcome ε α
  | .done result, script => ⟨result, [], script⟩
  | .log record next, script => (next.replay script).after (.logged record)
  | .pause seconds next, script => (next.replay script).after (.paused seconds)
  | .draw next, script => (next script.draw.1).replay script.draw.2
  | .send request next, script =>
    ((next script.reply.1).replay script.reply.2).after (.sent request script.reply.1)

namespace Outcome

/-- The outcome of going on where another one ended in a value. -/
def andThen (outcome : Outcome ε α) (next : α → Script → Outcome ε β) : Outcome ε β :=
  match outcome.result with
  | .ok value =>
    let following := next value outcome.rest
    { following with events := outcome.events ++ following.events }
  | .error error => ⟨.error error, outcome.events, outcome.rest⟩

/-- An event at the start stays there when the outcome is gone on from. -/
theorem andThen_after (event : Event) (outcome : Outcome ε α)
    (next : α → Script → Outcome ε β) :
    (outcome.after event).andThen next = (outcome.andThen next).after event := by
  -- The new event is in front of all others in both cases.
  obtain ⟨result, events, rest⟩ := outcome
  cases result <;> rfl

/-- The requests that were sent, in order. -/
def requests (outcome : Outcome ε α) : List Request :=
  outcome.events.filterMap fun
    | .sent request _ => some request
    | _ => none

/-- The pauses that were made, in order. -/
def pauses (outcome : Outcome ε α) : List Binary64 :=
  outcome.events.filterMap fun
    | .paused seconds => some seconds
    | _ => none

/-- The records that were logged, in order. -/
def records (outcome : Outcome ε α) : List Log.Record :=
  outcome.events.filterMap fun
    | .logged record => some record
    | _ => none

end Outcome

/-- What becomes of two exchanges in a row is told by what becomes of each. -/
theorem Exchange.replay_bind (exchange : Exchange ε α) (continuation : α → Exchange ε β)
    (script : Script) :
    (exchange.bind continuation).replay script =
      (exchange.replay script).andThen fun value rest => (continuation value).replay rest := by
  induction exchange generalizing script with
  | done result =>
    cases result with
    | ok value => rfl
    | error error => rfl
  | log record next ih =>
    rw [bind, replay, replay, ih, Outcome.andThen_after]
  | pause seconds next ih =>
    rw [bind, replay, replay, ih, Outcome.andThen_after]
  | draw next ih =>
    exact ih script.draw.1 script.draw.2
  | send request next ih =>
    rw [bind, replay, replay, Outcome.andThen_after]
    exact congrArg _ (ih script.reply.1 script.reply.2)

end BooleanSearch.Backend
