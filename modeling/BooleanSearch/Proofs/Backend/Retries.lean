import BooleanSearch.Backend.Hits
import BooleanSearch.Proofs.Backend.Attempts
import BooleanSearch.Proofs.Backend.Pauses

/-! Attempts that are made again leave nothing behind them but the time that they take. -/

namespace BooleanSearch.Backend

open Number

/-- A reply behind which the same request may be sent again. -/
inductive Reply.Retryable : Reply → Prop
  | busy {response : Response} (status : response.status ∈ [429, 500, 502, 503, 504]) :
      Retryable (.answered response)
  | unreached {fault : Fault} (message : String)
      (passing : fault ∈ [.timeout, .readTimeout, .connectTimeout, .connection,
        .secureConnection]) :
      Retryable (.failed fault message)

/-- The status of a reply that is a response. -/
def Reply.status? : Reply → Option Int
  | .answered response => some response.status
  | .failed .. => none

/-- What a reply comes to behind which no other attempt is made. -/
def Reply.ending : Reply → Except Failure Response
  | .answered response => .ok response
  | .failed fault message => .error (.unsendable fault message)

/-- What is left of a script behind so many attempts, each of them with its pause. -/
def Script.behind (script : Script) (retries : Nat) : Script :=
  ⟨script.replies.drop retries, fun index => script.draws (index + retries)⟩

/-- The pauses behind so many attempts from some number on. -/
def Script.pauses (script : Script) (number retries : Nat) : List (Option Binary64) :=
  (List.range retries).map fun index => pauseBehind (number + index) (script.draws index)

/-- Attempts at one request, with a pause between each two, and what became of them. -/
structure Outcome.Tried (outcome : Outcome ε α) (request : Request)
    (pauses : List (Option Binary64)) (rest : List Reply) (result : Except ε α) : Prop where
  requests : outcome.requests = List.replicate (pauses.length + 1) request
  pauses : outcome.pauses.map some = pauses
  rest : outcome.rest.replies = rest
  result : outcome.result = result

variable {request : Request} {total number spare : Nat} {script : Script}
  {pauses : List (Option Binary64)} {rest : List Reply} {result : Except Failure Response}

/-- There is a pause behind each attempt but the last one. -/
theorem Outcome.Tried.length_pauses {outcome : Outcome ε α} {number retries : Nat}
    {result : Except ε α}
    (tried : outcome.Tried request (script.pauses number retries) rest result) :
    outcome.requests = List.replicate (retries + 1) request ∧ outcome.pauses.length = retries := by
  have length : (script.pauses number retries).length = retries := by simp [Script.pauses]
  have requests := tried.requests
  have pauses := congrArg List.length tried.pauses
  rw [length] at requests pauses
  exact ⟨requests, by simpa using pauses⟩

/-- A reply is a cause for sending the request again, or it ends the attempts. -/
theorem Reply.verdict_cases (reply : Reply) :
    (reply.Retryable ∧ ∃ cause, reply.verdict = .passing cause ∧ cause.status? = reply.status?) ∨
      (¬ reply.Retryable ∧ match reply with
        | .answered response => reply.verdict = .final response
        | .failed fault message => reply.verdict = .hopeless fault message) := by
  cases reply with
  | answered response =>
    by_cases status : response.status ∈ passingStatuses
    · exact .inl ⟨.busy status, .status response.status, by simp [Reply.verdict, status], rfl⟩
    · refine .inr ⟨?_, by simp [Reply.verdict, status]⟩
      rintro ⟨listed⟩
      exact status listed
  | failed fault message =>
    -- Five of the seven faults pass.
    cases passes : fault.isPassing with
    | true =>
      refine .inl ⟨.unreached message ?_, .fault message, by simp [Reply.verdict, passes], rfl⟩
      cases fault <;> first | contradiction | decide
    | false =>
      refine .inr ⟨?_, by simp [Reply.verdict, passes]⟩
      rintro (_ | ⟨_, listed⟩)
      cases fault <;> contradiction

theorem Script.reply_behind (script : Script) (retries : Nat) :
    (script.behind retries).reply.2.replies = script.replies.drop (retries + 1) := by
  rw [Script.reply, Script.behind, ← List.drop_drop]
  cases script.replies.drop retries <;> rfl

/-! ### Single attempts -/

/-- An exchange behind one that ended in a value goes on with what that one left. -/
theorem replay_bind_ok {exchange : Exchange ε α} {continuation : α → Exchange ε β} {value : α}
    {events : List Event} {left : Script} (ended : exchange.replay script = ⟨.ok value, events, left⟩) :
    (exchange >>= continuation).replay script =
      ⟨((continuation value).replay left).result,
        events ++ ((continuation value).replay left).events,
        ((continuation value).replay left).rest⟩ := by
  have split : (exchange >>= continuation).replay script = _ :=
    Exchange.replay_bind exchange continuation script
  rw [split, ended]
  rfl

theorem replay_bind_error {exchange : Exchange ε α} {continuation : α → Exchange ε β} {error : ε}
    {events : List Event} {left : Script}
    (ended : exchange.replay script = ⟨.error error, events, left⟩) :
    (exchange >>= continuation).replay script = ⟨.error error, events, left⟩ := by
  have split : (exchange >>= continuation).replay script = _ :=
    Exchange.replay_bind exchange continuation script
  rw [split, ended]
  rfl

/-- An attempt sends its request once, and takes one reply. -/
theorem replay_attempt_eq (request : Request) (total number : Nat) (script : Script) :
    ∃ record, (attempt request total number).replay script =
      ⟨match script.reply.1.verdict with
        | .final response => .ok (.ok response)
        | .passing cause => .ok (.error cause)
        | .hopeless fault message => .error (.unsendable fault message),
        [.logged record, .sent request script.reply.1], script.reply.2⟩ := by
  simp only [attempt, Exchange.debug, Exchange.ask, bind, Exchange.bind, pure, Exchange.replay]
  cases script.reply.1.verdict <;> exact ⟨_, rfl⟩

theorem replay_attempt_retryable (request : Request) (total number : Nat)
    (retryable : script.reply.1.Retryable) :
    ∃ cause record, cause.status? = script.reply.1.status? ∧
      (attempt request total number).replay script =
        ⟨.ok (.error cause), [.logged record, .sent request script.reply.1], script.reply.2⟩ := by
  obtain ⟨record, attempted⟩ := replay_attempt_eq request total number script
  -- The verdict on the reply is what the attempt comes to.
  obtain ⟨-, cause, verdict, status⟩ | ⟨final, -⟩ := script.reply.1.verdict_cases
  · rw [verdict] at attempted
    exact ⟨cause, record, status, attempted⟩
  · exact absurd retryable final

theorem replay_attempt_final (request : Request) (total number : Nat)
    (final : ¬ script.reply.1.Retryable) :
    ∃ record, (attempt request total number).replay script =
      ⟨script.reply.1.ending.map .ok, [.logged record, .sent request script.reply.1],
        script.reply.2⟩ := by
  obtain ⟨record, attempted⟩ := replay_attempt_eq request total number script
  obtain ⟨retryable, -⟩ | ⟨-, verdict⟩ := script.reply.1.verdict_cases
  · exact absurd retryable final
  · refine ⟨record, attempted.trans ?_⟩
    cases replied : script.reply.1 <;> simp_all [Reply.ending, Except.map]

/-- A pause that can be reckoned is made, and takes one random number. -/
theorem replay_pauseBefore (total : Nat) (cause : Cause) {pause : Binary64}
    (reckoned : pauseBehind number (script.draws 0) = some pause) :
    ∃ record, (pauseBefore total number cause).replay script =
      ⟨.ok (), [.logged record, .paused pause],
        ⟨script.replies, fun index => script.draws (index + 1)⟩⟩ := by
  unfold pauseBefore
  have drawn (next : Binary64 → Exchange Failure Unit) :
      (Exchange.random >>= next).replay script = (next (script.draws 0)).replay script.draw.2 := rfl
  rw [drawn, reckoned]
  exact ⟨_, rfl⟩

theorem replay_pauseBefore_none {cause : Cause}
    (endless : pauseBehind number (script.draws 0) = none) :
    (pauseBefore total number cause).replay script =
      ⟨.error .endlessPause, [], ⟨script.replies, fun index => script.draws (index + 1)⟩⟩ := by
  unfold pauseBefore
  have drawn (next : Binary64 → Exchange Failure Unit) :
      (Exchange.random >>= next).replay script = (next (script.draws 0)).replay script.draw.2 := rfl
  rw [drawn, endless]
  rfl

theorem Outcome.tried_once (record : Log.Record) (request : Request) (reply : Reply)
    (left : Script) (result : Except ε α) :
    Outcome.Tried ⟨result, [.logged record, .sent request reply], left⟩ request [] left.replies
      result :=
  ⟨rfl, rfl, rfl, rfl⟩

/-- A reply behind which the request is not sent again ends the attempts, however many are left. -/
theorem tried_final (final : ¬ script.reply.1.Retryable) :
    ((attemptsFrom request total number spare).replay script).Tried request []
      script.reply.2.replies script.reply.1.ending := by
  obtain ⟨record, attempted⟩ := replay_attempt_final request total number final
  have once := Outcome.tried_once record request script.reply.1 script.reply.2
    script.reply.1.ending
  -- Neither a response nor a failure asks whether attempts are left.
  cases ended : script.reply.1.ending with
  | ok response =>
    rw [ended] at attempted once
    cases spare <;> rw [attemptsFrom, replay_bind_ok attempted] <;> exact once
  | error failure =>
    rw [ended] at attempted once
    cases spare <;> rw [attemptsFrom, replay_bind_error attempted] <;> exact once

/-- Behind the last attempt nothing is waited for, and the failure tells its cause. -/
theorem tried_last (request : Request) (total number : Nat)
    (retryable : script.reply.1.Retryable) :
    ∃ cause, cause.status? = script.reply.1.status? ∧
      ((attemptsFrom request total number 0).replay script).Tried request [] script.reply.2.replies
        (.error (.refused (.exhausted request total cause))) := by
  obtain ⟨cause, record, status, attempted⟩ := replay_attempt_retryable request total number retryable
  refine ⟨cause, status, ?_⟩
  rw [attemptsFrom, replay_bind_ok attempted]
  exact Outcome.tried_once record request _ _ _

/-- A pause that cannot be reckoned ends the attempts, however many are left. -/
theorem tried_endless (retryable : script.reply.1.Retryable) (endless : 1024 < number) :
    ((attemptsFrom request total number (spare + 1)).replay script).Tried request []
      script.reply.2.replies (.error .endlessPause) := by
  obtain ⟨cause, record, -, attempted⟩ := replay_attempt_retryable request total number retryable
  -- The request is sent before the pause behind it is reckoned.
  have stuck : pauseBehind number (script.reply.2.draws 0) = none := by
    rw [← Option.not_isSome_iff_eq_none, pauseBehind_isSome_iff]
    omega
  rw [attemptsFrom, replay_bind_ok attempted]
  dsimp only
  rw [replay_bind_error (replay_pauseBefore_none stuck)]
  exact Outcome.tried_once record request _ _ _

/-! ### Attempts in a row -/

/-- A failed attempt adds itself and its pause to what the attempts behind it come to. -/
theorem tried_retry (retryable : script.reply.1.Retryable) (reckoned : number ≤ 1024)
    (others : ((attemptsFrom request total (number + 1) spare).replay (script.behind 1)).Tried
      request pauses rest result) :
    ((attemptsFrom request total number (spare + 1)).replay script).Tried request
      (pauseBehind number (script.draws 0) :: pauses) rest result := by
  obtain ⟨cause, record, -, attempted⟩ := replay_attempt_retryable request total number retryable
  -- The reply is taken out of the script, and then the random number.
  have left : script.behind 1 =
      ⟨script.reply.2.replies, fun index => script.reply.2.draws (index + 1)⟩ := by
    obtain ⟨replies, draws⟩ := script
    cases replies <;> rfl
  have drawn : script.reply.2.draws 0 = script.draws 0 := by
    obtain ⟨replies, draws⟩ := script
    cases replies <;> rfl
  obtain ⟨pause, paused⟩ : ∃ pause, pauseBehind number (script.reply.2.draws 0) = some pause :=
    Option.isSome_iff_exists.1 ((pauseBehind_isSome_iff _ _).2 reckoned)
  obtain ⟨other, waited⟩ := replay_pauseBefore total cause paused
  rw [attemptsFrom, replay_bind_ok attempted]
  dsimp only
  rw [replay_bind_ok waited, ← left, ← drawn, paused]
  -- What the others sent and waited for comes behind this attempt and its pause.
  have requests := others.requests
  have pauses := others.pauses
  simp only [Outcome.requests, Outcome.pauses] at requests pauses
  refine ⟨?_, ?_, others.rest, others.result⟩
  · simp [Outcome.requests, requests, List.replicate_succ]
  · simp [Outcome.pauses, pauses]

/-- Failed attempts in a row leave what the attempt behind them comes to. -/
theorem tried_retries (spare retries : Nat) :
    ∀ {number : Nat} {script : Script},
      (∀ index < retries, (script.behind index).reply.1.Retryable) → number + retries ≤ 1025 →
        ((attemptsFrom request total (number + retries) spare).replay (script.behind retries)).Tried
            request [] rest result →
          ((attemptsFrom request total number (spare + retries)).replay script).Tried request
            (script.pauses number retries) rest result := by
  -- Attempt by attempt the number goes up and the script gets shorter, so both stay quantified over.
  induction retries with
  | zero =>
    intro number script _ _ last
    exact last
  | succ retries ih =>
    intro number script retryable reckoned last
    have shorter (index : Nat) : (script.behind 1).behind index = script.behind (index + 1) := by
      simp only [Script.behind, List.drop_drop, Nat.add_comm 1 index, Nat.add_assoc]
    have others : ((attemptsFrom request total (number + 1) (spare + retries)).replay
        (script.behind 1)).Tried request ((script.behind 1).pauses (number + 1) retries) rest
          result := by
      -- The first reply is gone, so that each of the others has moved up by one.
      apply ih
      · intro index below
        rw [shorter]
        exact retryable (index + 1) (by omega)
      · omega
      · rw [shorter, Nat.add_right_comm]
        exact last
    have pauses : script.pauses number (retries + 1) =
        pauseBehind number (script.draws 0) :: (script.behind 1).pauses (number + 1) retries := by
      simp [Script.pauses, Script.behind, List.range_succ_eq_map, Function.comp_def,
        Nat.add_comm, Nat.add_left_comm]
    rw [pauses]
    exact tried_retry (retryable 0 (by omega)) (by omega) others

/-! ### Runs of attempts -/

variable {client : Client}

/-- Attempts go on up to the first reply that ends them. -/
theorem respond_final (request : Request) {retries : Nat} (spared : retries < client.maxAttempts)
    (reckoned : retries ≤ 1024)
    (retryable : ∀ index < retries, (script.behind index).reply.1.Retryable)
    (final : ¬ (script.behind retries).reply.1.Retryable) :
    ((client.respond request).replay script).Tried request (script.pauses 1 retries)
      (script.replies.drop (retries + 1)) (script.behind retries).reply.1.ending := by
  -- The attempts behind that reply are left over.
  have spare : client.spareAttempts = client.spareAttempts - retries + retries := by
    rw [Client.maxAttempts] at spared
    omega
  rw [Client.respond, spare]
  apply tried_retries _ retries retryable (by omega)
  rw [← Script.reply_behind]
  exact tried_final final

/-- Attempts end in a refusal if all of them fail. -/
theorem respond_exhausted (request : Request) (reckoned : client.maxAttempts ≤ 1025)
    (retryable : ∀ index < client.maxAttempts, (script.behind index).reply.1.Retryable) :
    ∃ cause, cause.status? = (script.behind client.spareAttempts).reply.1.status? ∧
      ((client.respond request).replay script).Tried request (script.pauses 1 client.spareAttempts)
        (script.replies.drop client.maxAttempts)
        (.error (.refused (.exhausted request client.maxAttempts cause))) := by
  -- All attempts but the last one are those that are spared for retries.
  have last : client.spareAttempts < client.maxAttempts := Nat.lt_succ_self _
  obtain ⟨cause, status, tried⟩ := tried_last request client.maxAttempts (1 + client.spareAttempts)
    (retryable client.spareAttempts last)
  refine ⟨cause, status, ?_⟩
  rw [Script.reply_behind] at tried
  have all := tried_retries 0 client.spareAttempts
    (fun index below => retryable index (Nat.lt_trans below last))
    (by rw [Client.maxAttempts] at reckoned; omega) tried
  rwa [Nat.zero_add] at all

/-- Attempts end for want of a pause if one more is to follow the first 1025. -/
theorem respond_endless (request : Request) (many : 1025 < client.maxAttempts)
    (retryable : ∀ index < 1025, (script.behind index).reply.1.Retryable) :
    ((client.respond request).replay script).Tried request (script.pauses 1 1024)
      (script.replies.drop 1025) (.error .endlessPause) := by
  -- Behind 1024 pauses there is an attempt that another one is to follow.
  have spare : client.spareAttempts = client.spareAttempts - 1025 + 1 + 1024 := by
    rw [Client.maxAttempts] at many
    omega
  rw [Client.respond, spare]
  apply tried_retries _ 1024 (fun index below => retryable index (by omega)) (by omega)
  rw [← Script.reply_behind]
  exact tried_endless (retryable 1024 (by omega)) (by omega)

end BooleanSearch.Backend
