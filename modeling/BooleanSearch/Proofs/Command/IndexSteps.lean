import BooleanSearch.Command.Job
import BooleanSearch.Proofs.Backend.Attempts

/-! Steps of runs that make the index anew, and walks along them that stop where a step fails. -/

namespace BooleanSearch.Command

open Backend

/-- A step of a run. -/
inductive Step
  /-- It is found out whether the index is there. -/
  | look
  /-- The index is dropped. -/
  | drop
  /-- The index is made. -/
  | make
  /-- A document is put under a number. -/
  | put (number : Nat) (document : Value)
  /-- What was put is made visible. -/
  | refresh
  /-- What is visible is counted. -/
  | count

/-- How a run goes on behind a step. -/
inductive Turn
  /-- The next step follows. -/
  | onward
  /-- All documents are visible. -/
  | finished
  /-- The run is a failure. -/
  | failed
deriving DecidableEq

/-- The request for a step. -/
def Step.request (client : Client) : Step → Request
  | .look => client.request .head "" none
  | .drop => client.request .delete "" none
  | .make => client.request .put "" (some booksIndex)
  | .put number document =>
    client.request .put ("_doc/" ++ Number.intText number) (some document)
  | .refresh => client.request .post "_refresh" none
  | .count => client.request .get "_count" none

/-- How a run of so many documents goes on behind the last reply to the request for a step. -/
def Step.turn (total : Int) (reply : Reply) : Step → Turn
  | .look => if reply.found?.isSome then .onward else .failed
  | .count =>
    match reply.count? with
    | some number => if number = total then .finished else .onward
    | none => .failed
  | _ => if reply.payload?.isSome then .onward else .failed

/-- The steps that put documents under the numbers from some one on. -/
def putSteps (position : Nat) : List Value → List Step
  | [] => []
  | document :: rest => .put position document :: putSteps (position + 1) rest

/-- The steps behind the first one, which tells whether the index is there. -/
def stepsBehind (found : Bool) (documents : List Value) (polls : Nat) : List Step :=
  (if found then [.drop] else []) ++ .make :: putSteps 0 documents ++
    .refresh :: List.replicate polls .count

/-- The attempts at a step. -/
structure Block where
  /-- What the attempts are made for. -/
  step : Step
  /-- The replies behind which other attempts were made. -/
  earlier : List Reply
  /-- The reply to the last attempt. -/
  last : Reply

/-- What is exchanged in a block. -/
def Block.exchanged (client : Client) (block : Block) : List (Request × Reply) :=
  (block.earlier ++ [block.last]).map (block.step.request client, ·)

/-- Attempts that a client may make. -/
structure Block.Allowed (client : Client) (block : Block) : Prop where
  /-- All replies but the last one are such that another attempt may follow. -/
  passing : ∀ reply ∈ block.earlier, reply.IsPassing
  /-- No more attempts are made than may be. -/
  bound : block.earlier.length < client.maxAttempts

/-- Blocks that follow steps until one of them does not lead onward. -/
inductive Walk (total : Int) : List Step → List Block → Turn → Prop
  | done : Walk total [] [] .onward
  | stopped (step : Step) (steps : List Step) (earlier : List Reply) (last : Reply)
      (stops : step.turn total last ≠ .onward) :
      Walk total (step :: steps) [⟨step, earlier, last⟩] (step.turn total last)
  | next {step : Step} {steps : List Step} {earlier : List Reply} {last : Reply}
      {blocks : List Block} {turn : Turn} (onward : step.turn total last = .onward)
      (behind : Walk total steps blocks turn) :
      Walk total (step :: steps) (⟨step, earlier, last⟩ :: blocks) turn

/-- The blocks of a run: the first one tells whether the index has to be dropped. -/
inductive Run (documents : List Value) (polls : Nat) : List Block → Turn → Prop
  | lost (earlier : List Reply) {last : Reply} (untold : last.found? = none) :
      Run documents polls [⟨.look, earlier, last⟩] .failed
  | looked {earlier : List Reply} {last : Reply} {blocks : List Block} {turn : Turn} {found : Bool}
      (told : last.found? = some found)
      (behind : Walk documents.length (stepsBehind found documents polls) blocks turn) :
      Run documents polls (⟨.look, earlier, last⟩ :: blocks) turn

/-- An end in a value where every step leads onward. -/
inductive Turn.Through (value : α) : Turn → Except ε α → Prop
  | onward : Through value .onward (.ok value)
  | failed (error : ε) : Through value .failed (.error error)

/-- An end in the count of documents where all of them are visible. -/
inductive Turn.Closes (total : Int) : Turn → Except ε Int → Prop
  | finished : Closes total .finished (.ok total)
  | unfinished {turn : Turn} (error : ε) (unfinished : turn ≠ .finished) :
      Closes total turn (.error error)

/-- Under every script an exchange follows steps, and ends as the last turn says. -/
def Walks (client : Client) (total : Int) (steps : List Step) (ends : Turn → Except ε α → Prop)
    (exchange : Exchange ε α) : Prop :=
  ∀ script, ∃ blocks turn,
    (exchange.replay script).exchanged = blocks.flatMap (·.exchanged client) ∧
      (∀ block ∈ blocks, block.Allowed client) ∧ Walk total steps blocks turn ∧
        ends turn (exchange.replay script).result

/-! ### Walks -/

/-- A walk that leads onward is gone on with. -/
theorem Walk.append {total : Int} {steps others : List Step} {blocks more : List Block}
    {turn : Turn} (walk : Walk total steps blocks .onward) (goesOn : Walk total others more turn) :
    Walk total (steps ++ others) (blocks ++ more) turn := by
  -- The end is taken for a variable, since the induction is on walks to all ends.
  generalize leads : Turn.onward = ending at walk
  induction walk with
  | done => exact goesOn
  | stopped step steps earlier last stops => exact absurd leads.symm stops
  | next passed _ ih => exact .next passed (ih leads)

/-- No step follows a walk that fails. -/
theorem Walk.failed_append {total : Int} {steps : List Step} {blocks : List Block} {turn : Turn}
    (walk : Walk total steps blocks turn) (fails : turn = .failed) (others : List Step) :
    Walk total (steps ++ others) blocks turn := by
  induction walk with
  -- Where no step is left, none has failed.
  | done => contradiction
  | stopped step steps earlier last stops =>
    exact .stopped step (steps ++ others) earlier last stops
  | next passed _ ih => exact .next passed (ih fails)

/-- A single step is a walk, wherever it leads. -/
theorem Walk.single (total : Int) (step : Step) (earlier : List Reply) (last : Reply) :
    Walk total [step] [⟨step, earlier, last⟩] (step.turn total last) := by
  by_cases onward : step.turn total last = .onward
  · -- Nothing is left to be done behind the step.
    rw [onward]
    exact .next onward .done
  · exact .stopped step [] earlier last onward

/-! ### Exchanges as walks -/

/-- Attempts at the request for a step are a block. -/
theorem exists_block {client : Client} {step : Step} {exchange : Exchange ε α}
    {value? : Reply → Option α}
    (asks : exchange.Asks (step.request client) client.maxAttempts value?) (script : Script) :
    ∃ earlier last, Block.Allowed client ⟨step, earlier, last⟩ ∧
      (exchange.replay script).exchanged = Block.exchanged client ⟨step, earlier, last⟩ ∧
      ∀ value, (exchange.replay script).result = .ok value ↔ value? last = some value := by
  obtain ⟨earlier, last, sent, passing, bound, told⟩ := asks script
  exact ⟨earlier, last, ⟨passing, bound⟩, sent, told⟩

/-- Exchanges in a row follow the steps of each. -/
theorem Walks.bind {client : Client} {total : Int} {steps others : List Step} {value : α}
    {ends : Turn → Except ε β → Prop} {exchange : Exchange ε α} {continuation : α → Exchange ε β}
    (walks : Walks client total steps (Turn.Through value) exchange)
    (goesOn : Walks client total others ends (continuation value))
    (fails : ∀ error, ends .failed (.error error)) :
    Walks client total (steps ++ others) ends (exchange >>= continuation) := by
  intro script
  obtain ⟨blocks, turn, sent, allowed, walk, through⟩ := walks script
  cases ended : (exchange.replay script).result with
  | error error =>
    -- The first exchange failed at a step, so that the steps of the other one are not reached.
    rw [ended] at through
    cases through
    obtain ⟨sentAll, endsAll⟩ := Exchange.bind_error ended continuation
    rw [sentAll, endsAll]
    exact ⟨blocks, .failed, sent, allowed, walk.failed_append rfl others, fails error⟩
  | ok value =>
    rw [ended] at through
    cases through
    obtain ⟨sentAll, endsAll⟩ := Exchange.bind_ok ended continuation
    -- The other exchange starts with what the first one left of the script.
    obtain ⟨more, turn, sentMore, allowedMore, walkMore, endsMore⟩ :=
      goesOn (exchange.replay script).rest
    rw [sentAll, endsAll]
    refine ⟨blocks ++ more, turn, ?_, List.forall_mem_append.2 ⟨allowed, allowedMore⟩,
      walk.append walkMore, endsMore⟩
    rw [sent, sentMore, List.flatMap_append]

/-- A silent exchange follows no steps. -/
theorem Walks.of_silent {client : Client} {total : Int} {ends : Turn → Except ε α → Prop}
    {exchange : Exchange ε α} (silent : exchange.Silent)
    (ended : ∀ script, ends .onward (exchange.replay script).result) :
    Walks client total [] ends exchange :=
  fun script => ⟨[], .onward, silent.exchanged script, by simp, .done, ended script⟩

/-- What is done in silence at the start changes nothing. -/
theorem Walks.after_silent {client : Client} {total : Int} {steps : List Step}
    {ends : Turn → Except ε β → Prop} {exchange : Exchange ε α} {continuation : α → Exchange ε β}
    {value : α} (silent : exchange.Silent)
    (ended : ∀ script, (exchange.replay script).result = .ok value)
    (walks : Walks client total steps ends (continuation value)) :
    Walks client total steps ends (exchange >>= continuation) := by
  intro script
  obtain ⟨sentAll, endsAll⟩ := Exchange.bind_ok (ended script) continuation
  rw [sentAll, endsAll, silent.exchanged, List.nil_append]
  exact walks (exchange.replay script).rest

/-- What is done in silence at the end changes nothing. -/
theorem Walks.bind_silent {client : Client} {total : Int} {steps : List Step}
    {ends : Turn → Except ε α → Prop} {exchange : Exchange ε α} {continuation : α → Exchange ε α}
    (walks : Walks client total steps ends exchange)
    (silent : ∀ value, (continuation value).Silent ∧
      ∀ script, ((continuation value).replay script).result = .ok value) :
    Walks client total steps ends (exchange >>= continuation) := by
  intro script
  obtain ⟨blocks, turn, sent, allowed, walk, closes⟩ := walks script
  -- Either nothing follows the exchange, or something that neither sends nor changes anything.
  cases ended : (exchange.replay script).result with
  | error error =>
    obtain ⟨sentAll, endsAll⟩ := Exchange.bind_error ended continuation
    rw [sentAll, endsAll, ← ended]
    exact ⟨blocks, turn, sent, allowed, walk, closes⟩
  | ok value =>
    obtain ⟨sentAll, endsAll⟩ := Exchange.bind_ok ended continuation
    obtain ⟨quiet, same⟩ := silent value
    rw [sentAll, endsAll, quiet.exchanged, List.append_nil, same, ← ended]
    exact ⟨blocks, turn, sent, allowed, walk, closes⟩

/-- The steps do not depend on how failures are told. -/
theorem Walks.mapError {client : Client} {total : Int} {steps : List Step}
    {ends : Turn → Except ε α → Prop} {told : Turn → Except δ α → Prop} {exchange : Exchange ε α}
    (walks : Walks client total steps ends exchange) {f : ε → δ}
    (kept : ∀ turn result, ends turn result → told turn (result.mapError f)) :
    Walks client total steps told (exchange.mapError f) := by
  intro script
  obtain ⟨blocks, turn, sent, allowed, walk, closes⟩ := walks script
  rw [Exchange.replay_mapError]
  exact ⟨blocks, turn, sent, allowed, walk, kept _ _ closes⟩

/-- An end in a value is one however failures are told. -/
theorem Turn.Through.mapError {value : α} {turn : Turn} {result : Except ε α}
    (through : Turn.Through value turn result) (f : ε → δ) :
    Turn.Through value turn (result.mapError f) := by
  cases through with
  | onward => exact .onward
  | failed error => exact .failed (f error)

/-- An end in a count is one however failures are told. -/
theorem Turn.Closes.mapError {total : Int} {turn : Turn} {result : Except ε Int}
    (closes : Turn.Closes total turn result) (f : ε → δ) :
    Turn.Closes total turn (result.mapError f) := by
  cases closes with
  | finished => exact .finished
  | unfinished error unfinished => exact .unfinished (f error) unfinished

end BooleanSearch.Command
