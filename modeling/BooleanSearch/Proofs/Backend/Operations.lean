import BooleanSearch.Backend.Hits
import BooleanSearch.Proofs.Backend.Retries

/-! Operations of a client: retrying changes nothing about them but the time that they take. -/

namespace BooleanSearch.Backend

open Number

/-- What a client can be told to do, by the type of what comes back. -/
inductive Operation : Type → Type
  | search (document : Value) : Operation (List Value)
  | count : Operation Int
  | indexExists : Operation Bool
  | createIndex (body : Value) : Operation Unit
  | deleteIndex : Operation Unit
  | putDocument (identifier : String) (document : Value) : Operation Unit
  | refresh : Operation Unit

/-- The exchange that an operation is. -/
def Operation.exchange (client : Client) : Operation α → Exchange Failure α
  | search document => client.search document
  | count => client.count
  | indexExists => client.indexExists
  | createIndex body => client.createIndex body
  | deleteIndex => client.deleteIndex
  | putDocument identifier document => client.putDocument identifier document
  | refresh => client.refresh

/-- The request that an operation sends. -/
def Operation.request (client : Client) : Operation α → Request
  | search document => client.request .post "_search" (some document)
  | count => client.request .get "_count" none
  | indexExists => client.request .head "" none
  | createIndex body => client.request .put "" (some body)
  | deleteIndex => client.request .delete "" none
  | putDocument identifier document => client.request .put ("_doc/" ++ identifier) (some document)
  | refresh => client.request .post "_refresh" none

/-- An exchange that at most logs before it ends in a result. -/
inductive Exchange.Settles : Exchange ε α → Except ε α → Prop
  | done (result : Except ε α) : Settles (.done result) result
  | log {next : Exchange ε α} {result : Except ε α} (record : Log.Record)
      (behind : Settles next result) : Settles (.log record next) result

/-- An exchange makes attempts at a request, and settles what it makes of the response. -/
def Exchange.Responds (exchange : Exchange Failure α) (client : Client) (request : Request) : Prop :=
  ∃ continuation : Response → Exchange Failure α, exchange = client.respond request >>= continuation ∧
    ∀ response, ∃ result, (continuation response).Settles result

variable {client : Client} {request : Request} {script : Script}

/-! ### What is made of a response -/

/-- An exchange that settles in a value goes on with what follows it. -/
theorem Exchange.Settles.bind_ok {exchange : Exchange ε α} {continuation : α → Exchange ε β}
    {value : α} {result : Except ε β} (settles : exchange.Settles (.ok value))
    (behind : (continuation value).Settles result) :
    (exchange >>= continuation).Settles result := by
  -- The records in front are kept, and the induction is on them.
  generalize ended : Except.ok value = outcome at settles
  induction settles with
  | done =>
    subst ended
    exact behind
  | log record _ ih => exact .log record (ih ended)

/-- An exchange that settles in a failure ends there. -/
theorem Exchange.Settles.bind_error {exchange : Exchange ε α} {continuation : α → Exchange ε β}
    {error : ε} (settles : exchange.Settles (.error error)) :
    (exchange >>= continuation).Settles (.error error) := by
  generalize ended : Except.error error = outcome at settles
  induction settles with
  | done =>
    subst ended
    exact .done _
  | log record _ ih => exact .log record (ih ended)

theorem Exchange.Settles.bind {exchange : Exchange ε α} {continuation : α → Exchange ε β}
    {result : Except ε α} (settles : exchange.Settles result)
    (behind : ∀ value, ∃ result, (continuation value).Settles result) :
    ∃ result, (exchange >>= continuation).Settles result := by
  -- A failure is passed on, and a value is gone on with.
  cases result with
  | ok value =>
    obtain ⟨result, settled⟩ := behind value
    exact ⟨result, settles.bind_ok settled⟩
  | error error => exact ⟨.error error, settles.bind_error⟩

/-- Nothing is sent, waited for or taken from the script by an exchange that settles. -/
theorem Exchange.Settles.replay {exchange : Exchange ε α} {result : Except ε α}
    (settles : exchange.Settles result) (script : Script) :
    (exchange.replay script).result = result ∧ (exchange.replay script).rest = script ∧
      (exchange.replay script).requests = [] ∧ (exchange.replay script).pauses = [] := by
  induction settles with
  | done result => exact ⟨rfl, rfl, rfl, rfl⟩
  | log record _ ih => exact ih

theorem Exchange.Responds.bind {exchange : Exchange Failure α} {continuation : α → Exchange Failure β}
    (responds : exchange.Responds client request)
    (behind : ∀ value, ∃ result, (continuation value).Settles result) :
    (exchange >>= continuation).Responds client request := by
  obtain ⟨made, rfl, settles⟩ := responds
  -- What follows the exchange follows what is made of the response.
  refine ⟨_, Exchange.bind_assoc _ _ _, fun response => ?_⟩
  obtain ⟨result, settled⟩ := settles response
  exact settled.bind behind

theorem settles_requireSuccess (request : Request) (response : Response) :
    ∃ result, (requireSuccess request response).Settles result := by
  rw [requireSuccess_eq]
  exact ⟨_, .done _⟩

theorem responds_answer (client : Client) (request : Request) :
    (client.answer request).Responds client request := by
  refine ⟨_, rfl, fun response => ?_⟩
  obtain ⟨checked, settles⟩ := settles_requireSuccess request response
  apply settles.bind
  intro _
  -- Either the body holds a value, or it is a failure that it does not.
  cases Json.read? response.body with
  | none => exact ⟨_, .done _⟩
  | some payload => exact ⟨_, .done _⟩

/-- Every operation makes attempts at its request, and settles what it makes of the response. -/
theorem Operation.responds (client : Client) (operation : Operation α) :
    (operation.exchange client).Responds client (operation.request client) := by
  cases operation with
  | search document => exact (responds_answer client _).bind fun payload => ⟨_, .done _⟩
  | count =>
    apply (responds_answer client _).bind
    intro payload
    -- Only an integer under the right key is a count.
    split <;> exact ⟨_, .done _⟩
  | indexExists =>
    refine ⟨_, rfl, fun response => ?_⟩
    -- That the index is absent is told before the status is checked.
    split
    · exact ⟨_, .done _⟩
    · obtain ⟨checked, settles⟩ := settles_requireSuccess (client.request .head "" none) response
      exact settles.bind fun _ => ⟨_, .done _⟩
  | createIndex body => exact (responds_answer client _).bind fun _ => ⟨_, .log _ (.done _)⟩
  | deleteIndex => exact (responds_answer client _).bind fun _ => ⟨_, .log _ (.done _)⟩
  | putDocument identifier document => exact (responds_answer client _).bind fun _ => ⟨_, .done _⟩
  | refresh => exact (responds_answer client _).bind fun _ => ⟨_, .done _⟩

/-! ### Attempts of an operation -/

theorem Exchange.Responds.tried_error {exchange : Exchange Failure α} {failure : Failure}
    {pauses : List (Option Binary64)} {rest : List Reply}
    (responds : exchange.Responds client request)
    (tried : ((client.respond request).replay script).Tried request pauses rest (.error failure)) :
    (exchange.replay script).Tried request pauses rest (.error failure) := by
  obtain ⟨continuation, rfl, -⟩ := responds
  -- Nothing is made of a failure, so that the events are those of the attempts.
  cases outcome : (client.respond request).replay script with
  | mk result events left =>
    rw [outcome] at tried
    obtain rfl : result = .error failure := tried.result
    rw [replay_bind_error outcome]
    exact ⟨tried.requests, tried.pauses, tried.rest, rfl⟩

/-- What is made of a response adds nothing to what was sent and waited for. -/
theorem Outcome.Tried.bind {exchange : Exchange Failure Response} {response : Response}
    {continuation : Response → Exchange Failure α} {result : Except Failure α}
    {pauses : List (Option Binary64)} {rest : List Reply}
    (tried : (exchange.replay script).Tried request pauses rest (.ok response))
    (settled : (continuation response).Settles result) :
    ((exchange >>= continuation).replay script).Tried request pauses rest result := by
  cases outcome : exchange.replay script with
  | mk answer events left =>
    rw [outcome] at tried
    obtain rfl : answer = .ok response := tried.result
    obtain ⟨ended, kept, nothing, noPause⟩ := settled.replay left
    -- The events of the attempts come first, and none of those behind them is a request or a pause.
    rw [replay_bind_ok outcome]
    refine ⟨?_, ?_, by rw [kept]; exact tried.rest, ended⟩
    · rw [← tried.requests]
      simpa [Outcome.requests] using nothing
    · rw [← tried.pauses]
      simpa [Outcome.pauses] using noPause

/-- How the attempts end tells how all ends, whatever was tried before. -/
theorem Exchange.Responds.exists_result {exchange : Exchange Failure α}
    (responds : exchange.Responds client request) (ending : Except Failure Response) :
    ∃ result : Except Failure α, ∀ script pauses rest,
      ((client.respond request).replay script).Tried request pauses rest ending →
        (exchange.replay script).Tried request pauses rest result := by
  cases ending with
  | error failure => exact ⟨.error failure, fun _ _ _ => responds.tried_error⟩
  | ok response =>
    obtain ⟨continuation, rfl, settles⟩ := responds
    obtain ⟨result, settled⟩ := settles response
    exact ⟨result, fun _ _ _ tried => tried.bind settled⟩

/-! ### Retryable replies -/

theorem Client.maxAttempts_make (url index : String) (timeout : Seconds) (attempts : Int)
    (credentials : Option Credentials) :
    ((Client.make url index timeout attempts credentials).maxAttempts : Int) = max 1 attempts := by
  simp only [Client.make, Client.maxAttempts]
  omega

theorem Script.reply_behind_fst (script : Script) (retries : Nat) :
    (script.behind retries).reply.1 = script.replies[retries]?.getD .silence := by
  rw [← List.head?_drop, Script.behind, Script.reply]
  cases script.replies.drop retries <;> rfl

/-- Retryable replies in front of others are the first ones of a script. -/
theorem Script.retryable_append {earlier : List Reply}
    (retryable : ∀ reply ∈ earlier, reply.Retryable) (rest : List Reply) (draws : Nat → Binary64)
    (index : Nat) (below : index < earlier.length) :
    ((Script.mk (earlier ++ rest) draws).behind index).reply.1.Retryable := by
  rw [Script.reply_behind_fst, List.getElem?_append_left below, List.getElem?_eq_getElem below]
  exact retryable _ (List.getElem_mem below)

/-- The last of some replies is found behind all others of them. -/
theorem Script.getLast?_append {earlier : List Reply} {others : Nat}
    (length : earlier.length = others + 1) (rest : List Reply) (draws : Nat → Binary64) :
    earlier.getLast? = some ((Script.mk (earlier ++ rest) draws).behind others).reply.1 := by
  have below : others < earlier.length := by omega
  rw [Script.reply_behind_fst, List.getElem?_append_left below, List.getElem?_eq_getElem below,
    List.getLast?_eq_getElem?, length]
  exact List.getElem?_eq_getElem below

/--
Only the reply that ends the attempts counts: those before it cost a request and a pause each.

Where all attempts fail, the failure tells the status of the last reply, if that one has any.
-/
theorem retries_unnoticed (url index : String) (timeout : Seconds) (attempts : Int)
    (credentials : Option Credentials) (operation : Operation α) (earlier : List Reply)
    (retryable : ∀ reply ∈ earlier, reply.Retryable) (draws : Nat → Binary64) :
    let client := Client.make url index timeout attempts credentials
    let run := fun replies => (operation.exchange client).replay ⟨replies, draws⟩
    (∀ last rest, ¬ last.Retryable → earlier.length < max 1 attempts → earlier.length ≤ 1024 →
      (run (earlier ++ last :: rest)).requests =
          List.replicate (earlier.length + 1) (operation.request client) ∧
        (run (earlier ++ last :: rest)).pauses.length = earlier.length ∧
        (run (earlier ++ last :: rest)).rest.replies = rest ∧
        ∀ first : Script, first.reply.1 = last →
          (run (earlier ++ last :: rest)).result =
            ((operation.exchange client).replay first).result) ∧
    (∀ rest, earlier.length = max 1 attempts → earlier.length ≤ 1025 →
      (run (earlier ++ rest)).requests =
          List.replicate earlier.length (operation.request client) ∧
        (run (earlier ++ rest)).pauses.length = earlier.length - 1 ∧
        (run (earlier ++ rest)).rest.replies = rest ∧
        ∃ refusal, (run (earlier ++ rest)).result = .error (.refused refusal) ∧
          refusal.status? = earlier.getLast?.bind Reply.status?) := by
  intro client run
  -- A client makes one attempt at least, whatever it was told.
  have bound : (client.maxAttempts : Int) = max 1 attempts :=
    Client.maxAttempts_make url index timeout attempts credentials
  have responds := operation.responds client
  constructor
  · intro last rest final spared reckoned
    have ends : ((Script.mk (earlier ++ last :: rest) draws).behind earlier.length).reply.1 =
        last := by
      simp [Script.reply_behind_fst]
    have fails := Script.retryable_append retryable (last :: rest) draws
    -- What the operation makes of the last reply is fixed before any attempt is made.
    obtain ⟨result, told⟩ := responds.exists_result last.ending
    have tried := respond_final (operation.request client)
      (by omega : earlier.length < client.maxAttempts) reckoned fails (by rwa [ends])
    rw [ends] at tried
    have all := told _ _ _ tried
    refine ⟨all.length_pauses.1, all.length_pauses.2, ?_, ?_⟩
    · rw [all.rest]
      simp
    · -- The same reply comes to the same end where it is the first one.
      rintro first rfl
      have alone := respond_final (operation.request client)
        (by omega : 0 < client.maxAttempts) (Nat.zero_le 1024) (by simp) final
      exact all.result.trans (told _ _ _ alone).result.symm
  · intro rest full reckoned
    have length : earlier.length = client.maxAttempts := by omega
    have nonempty : earlier.length = client.spareAttempts + 1 := length
    have fails := Script.retryable_append retryable rest draws
    rw [length] at fails
    obtain ⟨cause, status, tried⟩ := respond_exhausted (operation.request client) (by omega) fails
    have all := responds.tried_error tried
    refine ⟨?_, ?_, ?_, _, all.result, ?_⟩
    · rw [all.length_pauses.1, nonempty]
    · rw [all.length_pauses.2, nonempty]
      rfl
    · rw [all.rest, ← length]
      simp
    · -- The last of the replies is the one that the failure tells of.
      rw [Script.getLast?_append nonempty rest draws]
      exact status

/-- An absent index is told of behind a busy backend and a late reply, which take two pauses. -/
theorem retries_unnoticed_absent :
    let client := Client.make "http://localhost" "books" (.whole 1) 3 none
    let earlier : List Reply := [.answered ⟨429, "busy"⟩, .failed .timeout "late"]
    let last : Reply := .answered ⟨404, ""⟩
    let outcome := (Operation.indexExists.exchange client).replay
      ⟨earlier ++ [last], fun _ => .zero⟩
    (∀ reply ∈ earlier, reply.Retryable) ∧ ¬ last.Retryable ∧
      outcome.requests = List.replicate 3 (Operation.indexExists.request client) ∧
        outcome.pauses.length = 2 ∧ outcome.result = .ok false := by
  intro client earlier last outcome
  have retryable : ∀ reply ∈ earlier, reply.Retryable := by
    simp only [earlier, List.forall_mem_cons]
    exact ⟨.busy (by decide), .unreached _ (by decide), by simp⟩
  have final : ¬ (Reply.answered ⟨404, ""⟩).Retryable := by
    rintro ⟨listed⟩
    exact absurd listed (by decide)
  have alone : ((Operation.indexExists.exchange client).replay ⟨[last], fun _ => .zero⟩).result =
      .ok false := rfl
  obtain ⟨requests, pauses, -, result⟩ := (retries_unnoticed "http://localhost" "books" (.whole 1) 3
    none Operation.indexExists earlier retryable fun _ => .zero).1 last [] final (by decide)
      (by decide)
  exact ⟨retryable, final, requests, pauses, (result ⟨[last], fun _ => .zero⟩ rfl).trans alone⟩

end BooleanSearch.Backend
