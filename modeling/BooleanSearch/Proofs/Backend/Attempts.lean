import BooleanSearch.Backend.Client

/-! Every operation of a client is a run of attempts at one request, and its last reply decides. -/

namespace BooleanSearch.Backend

/-- The requests that were sent, each with the reply that it got. -/
def Outcome.exchanged (outcome : Outcome ε α) : List (Request × Reply) :=
  outcome.events.filterMap fun
    | .sent request reply => some (request, reply)
    | _ => none

/-- A reply behind which the same request may be sent again. -/
def Reply.IsPassing (reply : Reply) : Prop :=
  ∃ cause, reply.verdict = .passing cause

/-- The response in a reply behind which the request is not sent again. -/
def Reply.final? (reply : Reply) : Option Response :=
  match reply.verdict with
  | .final response => some response
  | .passing _ | .hopeless .. => none

/-- The value in the body of a response whose status says that the request went well. -/
def Reply.payload? : Reply → Option Value
  | .answered response => if response.status < 400 then Json.read? response.body else none
  | .failed .. => none

/-- What a response says about the index: that it is there, or that it is not. -/
def Reply.found? : Reply → Option Bool
  | .answered response =>
    if response.status = 404 then some false
    else if response.status < 400 then some true
    else none
  | .failed .. => none

/-- The count of documents that a response tells. -/
def Reply.count? (reply : Reply) : Option Int :=
  match reply.payload?.bind (Client.member? "count") with
  | some (.int number) => some number
  | _ => none

/-- Attempts were made at one request, and the last reply tells what value came of it, if any. -/
def Outcome.Asked (outcome : Outcome ε α) (request : Request) (most : Nat)
    (value? : Reply → Option α) : Prop :=
  -- All replies but the last one are such that another attempt may follow.
  ∃ earlier last, outcome.exchanged = (earlier ++ [last]).map (request, ·) ∧
    (∀ reply ∈ earlier, reply.IsPassing) ∧ earlier.length < most ∧
      ∀ value, outcome.result = .ok value ↔ value? last = some value

/-- An exchange is a run of attempts at one request, whatever replies it gets. -/
def Exchange.Asks (exchange : Exchange ε α) (request : Request) (most : Nat)
    (value? : Reply → Option α) : Prop :=
  ∀ script, (exchange.replay script).Asked request most value?

/-- An exchange that sends nothing. -/
inductive Exchange.Silent : Exchange ε α → Prop
  | done (result : Except ε α) : Silent (.done result)
  | log {next : Exchange ε α} (record : Log.Record) (behind : Silent next) :
      Silent (.log record next)
  | pause {next : Exchange ε α} (seconds : Number.Binary64) (behind : Silent next) :
      Silent (.pause seconds next)
  | draw {next : Number.Binary64 → Exchange ε α} (behind : ∀ number, Silent (next number)) :
      Silent (.draw next)

/-! ### Exchanges in a row -/

/-- An exchange behind one that ended in a value goes on where that one stopped. -/
theorem Exchange.bind_ok {exchange : Exchange ε α} {script : Script} {value : α}
    (ended : (exchange.replay script).result = .ok value)
    (continuation : α → Exchange ε β) :
    ((exchange >>= continuation).replay script).exchanged = (exchange.replay script).exchanged ++
        ((continuation value).replay (exchange.replay script).rest).exchanged ∧
      ((exchange >>= continuation).replay script).result =
        ((continuation value).replay (exchange.replay script).rest).result := by
  have split : (exchange >>= continuation).replay script = _ :=
    Exchange.replay_bind exchange continuation script
  rw [split, Outcome.andThen, ended]
  exact ⟨by simp [Outcome.exchanged], rfl⟩

/-- Nothing follows an exchange that failed. -/
theorem Exchange.bind_error {exchange : Exchange ε α} {script : Script} {error : ε}
    (ended : (exchange.replay script).result = .error error)
    (continuation : α → Exchange ε β) :
    ((exchange >>= continuation).replay script).exchanged = (exchange.replay script).exchanged ∧
      ((exchange >>= continuation).replay script).result = .error error := by
  have split : (exchange >>= continuation).replay script = _ :=
    Exchange.replay_bind exchange continuation script
  rw [split, Outcome.andThen, ended]
  exact ⟨rfl, rfl⟩

/-- Exchanges in a row may be grouped in any way. -/
theorem Exchange.bind_assoc (exchange : Exchange ε α) (continuation : α → Exchange ε β)
    (last : β → Exchange ε γ) :
    exchange >>= continuation >>= last = exchange >>= fun value => continuation value >>= last := by
  induction exchange with
  | done result => cases result <;> rfl
  | log record next ih => exact congrArg (Exchange.log record) ih
  | pause seconds next ih => exact congrArg (Exchange.pause seconds) ih
  | draw next ih => exact congrArg Exchange.draw (funext ih)
  | send request next ih => exact congrArg (Exchange.send request) (funext ih)

/-- Failures of exchanges in a row are told in another way where those of each are. -/
theorem Exchange.mapError_bind (f : ε → δ) (exchange : Exchange ε α)
    (continuation : α → Exchange ε β) :
    (exchange >>= continuation).mapError f =
      exchange.mapError f >>= fun value => (continuation value).mapError f := by
  induction exchange with
  | done result => cases result <;> rfl
  | log record next ih => exact congrArg (Exchange.log record) ih
  | pause seconds next ih => exact congrArg (Exchange.pause seconds) ih
  | draw next ih => exact congrArg Exchange.draw (funext ih)
  | send request next ih => exact congrArg (Exchange.send request) (funext ih)

/-- A value is the same however failures are told. -/
@[simp] theorem mapError_ok (f : ε → δ) (value : α) :
    (Except.ok value : Except ε α).mapError f = .ok value := rfl

/-- A failure is told in the other way. -/
@[simp] theorem mapError_error (f : ε → δ) (error : ε) :
    (Except.error error : Except ε α).mapError f = .error (f error) := rfl

/-- How failures are told does not change what is sent. -/
theorem Exchange.replay_mapError (f : ε → δ) (exchange : Exchange ε α) (script : Script) :
    (exchange.mapError f).replay script =
      ⟨(exchange.replay script).result.mapError f, (exchange.replay script).events,
        (exchange.replay script).rest⟩ := by
  induction exchange generalizing script with
  | done result => rfl
  | log record next ih => rw [mapError, replay, ih]; rfl
  | pause seconds next ih => rw [mapError, replay, ih]; rfl
  | draw next ih => rw [mapError, replay, ih]; rfl
  | send request next ih => rw [mapError, replay, ih]; rfl

/-- Two silent exchanges in a row are silent. -/
theorem Exchange.Silent.bind {exchange : Exchange ε α} {continuation : α → Exchange ε β}
    (silent : exchange.Silent) (behind : ∀ value, (continuation value).Silent) :
    (exchange >>= continuation).Silent := by
  induction silent with
  | done result =>
    cases result with
    | ok value => exact behind value
    | error error => exact .done (.error error)
  | log record _ ih => exact .log record ih
  | pause seconds _ ih => exact .pause seconds ih
  | draw _ ih => exact .draw ih

/-- An exchange that is over exchanges nothing more. -/
@[simp] theorem Exchange.exchanged_done (result : Except ε α) (script : Script) :
    ((Exchange.done result).replay script).exchanged = [] := rfl

/-- An exchange that is over has its result. -/
@[simp] theorem Exchange.result_done (result : Except ε α) (script : Script) :
    ((Exchange.done result).replay script).result = result := rfl

/-- A silent exchange exchanges nothing. -/
theorem Exchange.Silent.exchanged {exchange : Exchange ε α} (silent : exchange.Silent) :
    ∀ script, (exchange.replay script).exchanged = [] := by
  induction silent with
  | done result => intro script; rfl
  | log record _ ih => exact ih
  | pause seconds _ ih => exact ih
  | draw _ ih => exact fun script => ih script.draw.1 script.draw.2

/-! ### Attempts -/

/-- One attempt sends its request once, and ends as the verdict on the reply says. -/
theorem replay_attempt (request : Request) (total number : Nat) (script : Script) :
    ((attempt request total number).replay script).exchanged = [(request, script.reply.1)] ∧
      ((attempt request total number).replay script).result =
        match script.reply.1.verdict with
        | .final response => .ok (.ok response)
        | .passing cause => .ok (.error cause)
        | .hopeless fault message => .error (.unsendable fault message) := by
  simp only [attempt, Exchange.debug, Exchange.ask, bind, Exchange.bind, pure, Exchange.replay]
  cases script.reply.1.verdict <;> exact ⟨rfl, rfl⟩

/-- Nothing is sent during a pause. -/
theorem silent_pauseBefore (total number : Nat) (cause : Cause) :
    (pauseBefore total number cause).Silent := by
  unfold pauseBefore
  refine .bind (.draw fun drawn => .done (.ok drawn)) fun drawn => ?_
  -- Either the pause cannot be reckoned, or it is logged and made.
  cases pauseBehind number drawn with
  | none => exact .done _
  | some delay => exact .bind (.log _ (.done _)) fun _ => .pause _ (.done _)

/-- A single attempt is one of as many as may be made. -/
theorem Outcome.asked_once {outcome : Outcome ε α} {request : Request} {reply : Reply} {spare : Nat}
    {value? : Reply → Option α} (sent : outcome.exchanged = [(request, reply)])
    (told : ∀ value, outcome.result = .ok value ↔ value? reply = some value) :
    outcome.Asked request (spare + 1) value? :=
  ⟨[], reply, sent, by simp, by simp, told⟩

/-- An attempt is the only one, unless its reply is such that others follow. -/
theorem attempt_asks {request : Request} {total number most : Nat}
    {onCause : Cause → Exchange Failure Response}
    (follows : ∀ cause script,
      (((onCause cause).replay script).exchanged = [] ∧
        ∃ failure, ((onCause cause).replay script).result = .error failure) ∨
      ((onCause cause).replay script).Asked request most Reply.final?) :
    (attempt request total number >>= fun
      | .ok response => pure response
      | .error cause => onCause cause).Asks request (most + 1) Reply.final? := by
  intro script
  obtain ⟨sent, ends⟩ := replay_attempt request total number script
  cases found : script.reply.1.verdict with
  | hopeless fault message =>
    -- The failure of the attempt is that of the whole, and no response comes of it.
    rw [found] at ends
    obtain ⟨sentAll, endsAll⟩ := Exchange.bind_error ends fun
      | .ok response => pure response
      | .error cause => onCause cause
    refine Outcome.asked_once (sentAll.trans sent) fun response => ?_
    simp [endsAll, Reply.final?, found]
  | final response =>
    -- The response is handed on, and nothing else is sent.
    rw [found] at ends
    obtain ⟨sentAll, endsAll⟩ := Exchange.bind_ok ends fun
      | .ok response => pure response
      | .error cause => onCause cause
    refine Outcome.asked_once (by simpa [sent, pure] using sentAll) fun other => ?_
    rw [endsAll]
    simp [Reply.final?, found, pure]
  | passing cause =>
    rw [found] at ends
    obtain ⟨sentAll, endsAll⟩ := Exchange.bind_ok ends fun
      | .ok response => pure response
      | .error cause => onCause cause
    dsimp only at sentAll endsAll
    rcases follows cause _ with ⟨nothing, failure, failed⟩ | asked
    · -- A cause for another attempt that is not made leaves no response.
      refine Outcome.asked_once (by rw [sentAll, nothing, sent, List.append_nil]) fun response => ?_
      simp [endsAll, failed, Reply.final?, found]
    · obtain ⟨earlier, last, others, passing, bound, told⟩ := asked
      -- This attempt comes before those that follow it, and the last of them decides.
      refine ⟨script.reply.1 :: earlier, last, ?_,
        List.forall_mem_cons.2 ⟨⟨cause, found⟩, passing⟩, Nat.succ_lt_succ bound, ?_⟩
      · rw [sentAll, others, sent]
        rfl
      · rw [endsAll]
        exact told

/-- Attempts are made up to the first reply that is final, or that nothing can follow. -/
theorem attemptsFrom_asks (request : Request) (total spare : Nat) :
    ∀ number, (attemptsFrom request total number spare).Asks request (spare + 1) Reply.final? := by
  -- The numbers go up while the spare attempts are used up, so that they stay quantified over.
  induction spare with
  | zero =>
    intro number
    rw [attemptsFrom]
    -- No attempt is left, so that any cause for one is a failure.
    exact attempt_asks fun cause script => .inl ⟨rfl, _, rfl⟩
  | succ spare ih =>
    intro number
    rw [attemptsFrom]
    refine attempt_asks fun cause script => ?_
    have silent := (silent_pauseBefore total number cause).exchanged script
    -- The others are made behind the pause, unless the pause cannot be reckoned.
    cases paused : ((pauseBefore total number cause).replay script).result with
    | error failure =>
      have stopped := Exchange.bind_error paused fun _ =>
        attemptsFrom request total (number + 1) spare
      exact .inl ⟨by rw [stopped.1, silent], failure, stopped.2⟩
    | ok done =>
      have goesOn := Exchange.bind_ok paused fun _ =>
        attemptsFrom request total (number + 1) spare
      obtain ⟨earlier, last, others, passing, bound, ends⟩ :=
        ih (number + 1) ((pauseBefore total number cause).replay script).rest
      exact .inr ⟨earlier, last, by rw [goesOn.1, silent, others, List.nil_append], passing, bound,
        by rw [goesOn.2]; exact ends⟩

/-- A client makes as many attempts at a request as it may. -/
theorem Client.respond_asks (client : Client) (request : Request) :
    (client.respond request).Asks request client.maxAttempts Reply.final? :=
  attemptsFrom_asks request client.maxAttempts client.spareAttempts 1

/-! ### Replies -/

/-- A reply behind which another attempt may follow is not final. -/
theorem Reply.IsPassing.final? {reply : Reply} (passing : reply.IsPassing) :
    reply.final? = none := by
  obtain ⟨cause, found⟩ := passing
  simp [Reply.final?, found]

/-- A final reply is an answer. -/
theorem Reply.eq_answered {reply : Reply} {response : Response}
    (final : reply.final? = some response) : reply = .answered response := by
  cases reply with
  | failed fault message =>
    -- No fault is final, be it such that another attempt may follow or not.
    cases passing : fault.isPassing <;> simp [Reply.final?, Reply.verdict, passing] at final
  | answered answer =>
    by_cases passing : answer.status ∈ passingStatuses <;>
      simp [Reply.final?, Reply.verdict, passing] at final
    rw [final]

/-- A status behind which another attempt may follow tells neither success nor absence. -/
theorem passingStatuses_bound {status : Int} (passing : status ∈ passingStatuses) :
    ¬ status < 400 ∧ status ≠ 404 := by
  simp only [passingStatuses, List.mem_cons, List.not_mem_nil, or_false] at passing
  omega

/-- What is made of no response that others may follow is made of final responses alone. -/
theorem Reply.bind_final? (f : Response → Option α)
    (refused : ∀ response, response.status ∈ passingStatuses → f response = none) (reply : Reply) :
    reply.final?.bind f =
      match reply with
      | .answered response => f response
      | .failed .. => none := by
  cases reply with
  | failed fault message =>
    cases passing : fault.isPassing <;> simp [Reply.final?, Reply.verdict, passing]
  | answered response =>
    by_cases passing : response.status ∈ passingStatuses
    · simp [Reply.final?, Reply.verdict, passing, refused response passing]
    · simp [Reply.final?, Reply.verdict, passing]

/-- Only a final reply holds a value. -/
theorem Reply.payload?_eq (reply : Reply) : reply.payload? = reply.final?.bind fun response =>
    if response.status < 400 then Json.read? response.body else none := by
  rw [Reply.bind_final? _ fun response passing => if_neg (passingStatuses_bound passing).1]
  cases reply <;> rfl

/-- A value comes with a final response whose status says that the request went well. -/
theorem Reply.final?_of_payload? {reply : Reply} {payload : Value}
    (found : reply.payload? = some payload) :
    ∃ response, reply.final? = some response ∧ response.status < 400 := by
  rw [Reply.payload?_eq] at found
  obtain ⟨response, final, read⟩ := Option.bind_eq_some_iff.1 found
  by_cases success : response.status < 400
  · exact ⟨response, final, success⟩
  · simp [success] at read

/-- Only a final reply tells whether the index is there. -/
theorem Reply.found?_eq (reply : Reply) : reply.found? = reply.final?.bind fun response =>
    if response.status = 404 then some false
    else if response.status < 400 then some true
    else none := by
  rw [Reply.bind_final?]
  · cases reply <;> rfl
  · intro response passing
    rw [if_neg (passingStatuses_bound passing).2, if_neg (passingStatuses_bound passing).1]

/-! ### Operations of a client -/

/-- Nothing is told where no value comes back. -/
theorem told_eq_none {result : Except ε α} {told? : Option α} {error : ε}
    (told : ∀ value, result = .ok value ↔ told? = some value) (ended : result = .error error) :
    told? = none := by
  rw [Option.eq_none_iff_forall_ne_some]
  intro value valued
  rw [(told value).2 valued] at ended
  contradiction

/-- What is done with a reply that was asked for, without asking for another one. -/
theorem Exchange.Asks.bind {exchange : Exchange ε α} {request : Request} {most : Nat}
    {value? : Reply → Option α} {continuation : α → Exchange ε β} {f : α → Option β}
    (asks : exchange.Asks request most value?)
    (ends : ∀ value, (continuation value).Silent ∧ ∀ script result,
      ((continuation value).replay script).result = .ok result ↔ f value = some result) :
    (exchange >>= continuation).Asks request most fun reply => (value? reply).bind f := by
  intro script
  obtain ⟨earlier, last, sent, passing, bound, told⟩ := asks script
  refine ⟨earlier, last, ?_, passing, bound, ?_⟩
  -- What is sent and what comes of it both depend on how the first exchange ended.
  all_goals
    cases ended : (exchange.replay script).result with
    | error error =>
      -- Nothing comes of a last reply that tells no value.
      have nothing : value? last = none := told_eq_none told ended
      simp [Exchange.bind_error ended, sent, nothing]
    | ok value =>
      obtain ⟨silent, result⟩ := ends value
      simp [Exchange.bind_ok ended, sent, silent.exchanged, result, (told value).1 ended]

/-- What is asked for does not depend on how failures are told. -/
theorem Exchange.Asks.mapError {exchange : Exchange ε α} {request : Request} {most : Nat}
    {value? : Reply → Option α} (asks : exchange.Asks request most value?) (f : ε → δ) :
    (exchange.mapError f).Asks request most value? := by
  intro script
  obtain ⟨earlier, last, sent, passing, bound, told⟩ := asks script
  rw [Exchange.replay_mapError]
  refine ⟨earlier, last, sent, passing, bound, fun value => ?_⟩
  rw [← told value]
  cases (exchange.replay script).result <;> simp

/-- Nothing is sent to find out whether a status says that the request went well. -/
theorem requireSuccess_eq (request : Request) (response : Response) :
    requireSuccess request response = .done (if response.status < 400 then .ok ()
      else .error (.refused (.rejected request response))) := by
  unfold requireSuccess
  split <;> rfl

/-- A client answers with the value in a successful response to its last attempt. -/
theorem Client.answer_asks (client : Client) (request : Request) :
    (client.answer request).Asks request client.maxAttempts Reply.payload? := by
  rw [funext Reply.payload?_eq]
  refine (client.respond_asks request).bind fun response => ?_
  rw [requireSuccess_eq]
  -- A response is refused for its status, or because its body holds no value.
  by_cases success : response.status < 400
  · cases Json.read? response.body <;>
      simp [success, bind, Exchange.bind, pure, Exchange.fail, Exchange.Silent.done]
  · simp [success, bind, Exchange.bind, Exchange.Silent.done]

/-- A client finds out whether the index is there. -/
theorem Client.indexExists_asks (client : Client) :
    client.indexExists.Asks (client.request .head "" none) client.maxAttempts Reply.found? := by
  rw [funext Reply.found?_eq]
  refine (client.respond_asks _).bind fun response => ?_
  rw [requireSuccess_eq]
  -- That the index is absent is told before the status is checked.
  by_cases absent : response.status = 404
  · simp [absent, pure, Exchange.Silent.done]
  · by_cases success : response.status < 400 <;>
      simp [absent, success, bind, Exchange.bind, pure, Exchange.Silent.done]

/-- A client counts the documents that searches see. -/
theorem Client.count_asks (client : Client) :
    client.count.Asks (client.request .get "_count" none) client.maxAttempts Reply.count? := by
  have read : Reply.count? = fun reply : Reply => reply.payload?.bind fun payload =>
      match Client.member? "count" payload with
      | some (.int number) => some number
      | _ => none := by
    funext reply
    cases told : reply.payload? <;> simp [Reply.count?, told]
  rw [read]
  refine (client.answer_asks _).bind fun payload => ?_
  -- Either the payload tells a count, or nothing comes of it.
  split <;> rename_i found <;> simp_all [pure, Exchange.fail, Exchange.Silent.done]

/-- What is done behind an answer changes nothing about it. -/
theorem Client.answer_asks_unit (client : Client) (request : Request)
    {continuation : Value → Exchange Failure Unit}
    (ends : ∀ payload, (continuation payload).Silent ∧
      ∀ script, ((continuation payload).replay script).result = .ok ()) :
    (client.answer request >>= continuation).Asks request client.maxAttempts fun reply =>
      reply.payload?.bind fun _ => some () := by
  refine (client.answer_asks request).bind fun payload =>
    ⟨(ends payload).1, fun script result => ?_⟩
  simp [(ends payload).2 script]

end BooleanSearch.Backend
