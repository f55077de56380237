import BooleanSearch.Proofs.Backend.Corpus
import BooleanSearch.Proofs.Command.IndexSteps

/-! Runs that make the index anew: what they send, in which order, and where they stop. -/

namespace BooleanSearch.Command

open Backend

/-! ### Operations as walks -/

/-- A request that has to be answered with a value is a step that leads onward, or fails. -/
theorem walks_answer {client : Client} {total : Int} (step : Step)
    (plain : ∀ reply, step.turn total reply = if reply.payload?.isSome then .onward else .failed)
    {continuation : Value → Exchange Backend.Failure Unit}
    (ends : ∀ payload, (continuation payload).Silent ∧
      ∀ script, ((continuation payload).replay script).result = .ok ()) :
    Walks client total [step] (Turn.Through ())
      (client.answer (step.request client) >>= continuation) := by
  intro script
  obtain ⟨earlier, last, allowed, sent, told⟩ :=
    exists_block (client.answer_asks_unit (step.request client) ends) script
  refine ⟨[⟨step, earlier, last⟩], step.turn total last, by simpa using sent,
    by simpa using allowed, .single total step earlier last, ?_⟩
  -- The step leads onward exactly if its reply holds a value.
  rw [plain]
  cases ended : ((client.answer (step.request client) >>= continuation).replay script).result with
  | error error =>
    have nothing : last.payload? = none :=
      Option.eq_none_iff_forall_ne_some.2 (by simpa using told_eq_none told ended)
    simpa [nothing] using .failed error
  | ok done =>
    have found : last.payload?.isSome := by
      obtain ⟨payload, found, -⟩ := Option.bind_eq_some_iff.1 ((told done).1 ended)
      simp [found]
    simpa [found] using .onward

/-- Dropping the index is one step. -/
theorem walks_deleteIndex (client : Client) (total : Int) :
    Walks client total [.drop] (Turn.Through ()) client.deleteIndex :=
  walks_answer .drop (fun _ => rfl) fun _ => ⟨.log _ (.done _), fun _ => rfl⟩

/-- Making the index is one step. -/
theorem walks_createIndex (client : Client) (total : Int) :
    Walks client total [.make] (Turn.Through ()) (client.createIndex booksIndex) :=
  walks_answer .make (fun _ => rfl) fun _ => ⟨.log _ (.done _), fun _ => rfl⟩

/-- Making visible what was put is one step. -/
theorem walks_refresh (client : Client) (total : Int) :
    Walks client total [.refresh] (Turn.Through ()) client.refresh :=
  walks_answer .refresh (fun _ => rfl) fun _ => ⟨.done _, fun _ => rfl⟩

/-- Documents are put one by one, in their order. -/
theorem walks_putDocuments (client : Client) (total : Int) (documents : List Value) :
    ∀ position, Walks client total (putSteps position documents) (Turn.Through ())
      (client.putDocuments position documents) := by
  -- Each document has the number behind that of the one before it.
  induction documents with
  | nil => exact fun _ => .of_silent (.done _) fun _ => .onward
  | cons document rest ih =>
    intro position
    have first : Walks client total [.put position document] (Turn.Through ())
        (client.putDocument (Number.intText position) document) :=
      walks_answer (.put position document) (fun _ => rfl) fun _ => ⟨.done _, fun _ => rfl⟩
    exact first.bind (ih (position + 1)) .failed

/-- All documents are put, and their count comes back. -/
theorem walks_load (client : Client) (total : Int) (documents : List Value) :
    Walks client total (putSteps 0 documents) (Turn.Through documents.length)
      (client.load documents) := by
  -- Nothing is sent behind the last document.
  rw [← List.append_nil (putSteps 0 documents)]
  refine (walks_putDocuments client total documents 0).bind (.of_silent ?_ fun _ => ?_) .failed
  · exact .log _ (.done _)
  · exact .onward

/-- A count ends a run where all documents are visible, and leads onward where they are not. -/
theorem walks_count {client : Client} {total : Int} {steps : List Step}
    {continuation : Int → Exchange Backend.Failure Int}
    (found : (continuation total).Silent ∧
      ∀ script, ((continuation total).replay script).result = .ok total)
    (other : ∀ number ≠ total,
      Walks client total steps (Turn.Closes total) (continuation number)) :
    Walks client total (.count :: steps) (Turn.Closes total) (client.count >>= continuation) := by
  intro script
  have asks : client.count.Asks (Step.count.request client) client.maxAttempts Reply.count? :=
    client.count_asks
  obtain ⟨earlier, last, allowed, sent, told⟩ := exists_block asks script
  cases ended : (client.count.replay script).result with
  | error error =>
    have uncounted : last.count? = none := told_eq_none told ended
    have turned : Step.count.turn total last = .failed := by simp [Step.turn, uncounted]
    obtain ⟨sentAll, endsAll⟩ := Exchange.bind_error ended continuation
    rw [sentAll, endsAll]
    exact ⟨[⟨.count, earlier, last⟩], .failed, by simpa using sent, by simpa using allowed,
      turned ▸ .stopped .count steps earlier last (by simp [turned]),
      .unfinished error (by decide)⟩
  | ok visible =>
    have counted : last.count? = some visible := (told visible).1 ended
    obtain ⟨sentAll, endsAll⟩ := Exchange.bind_ok ended continuation
    by_cases complete : visible = total
    · subst complete
      have turned : Step.count.turn visible last = .finished := by simp [Step.turn, counted]
      -- Nothing is sent any more behind the count that was waited for.
      rw [sentAll, endsAll, found.1.exchanged, List.append_nil, found.2]
      exact ⟨[⟨.count, earlier, last⟩], .finished, by simpa using sent, by simpa using allowed,
        turned ▸ .stopped .count steps earlier last (by simp [turned]), .finished⟩
    · have turned : Step.count.turn total last = .onward := by
        simp [Step.turn, counted, complete]
      obtain ⟨blocks, turn, sentMore, allowedMore, walk, closes⟩ :=
        other visible complete (client.count.replay script).rest
      rw [sentAll, endsAll, sent, sentMore]
      exact ⟨⟨.count, earlier, last⟩ :: blocks, turn, by simp,
        List.forall_mem_cons.2 ⟨allowed, allowedMore⟩, .next turned walk, closes⟩

/-- What is visible is counted until it is as much as expected, or until no polls are left. -/
theorem walks_poll (client : Client) (expected : Int) (delay : Number.Binary64) (left : Nat) :
    ∀ number seen, Walks client expected (List.replicate left .count) (Turn.Closes expected)
      (client.poll expected delay number seen left) := by
  -- The number of a poll and the last count only show in logs and in the failure.
  induction left with
  -- Without another poll the run fails, though no step of it did.
  | zero => exact fun _ _ => .of_silent (.done _) fun _ => .unfinished _ (by decide)
  | succ left ih =>
    intro number seen
    rw [Client.poll]
    refine walks_count ?_ fun visible other => ?_
    · simp only [beq_self_eq_true, if_true]
      exact ⟨.log _ (.done _), fun _ => rfl⟩
    · have goesOn := ih (number + 1) visible
      simp only [beq_iff_eq, other, if_false]
      -- Behind the last poll nothing is waited for.
      split
      · exact .after_silent (.log _ (.done _)) (fun _ => rfl)
          (.after_silent (.pause _ (.done _)) (fun _ => rfl) goesOn)
      · exact goesOn

/-! ### Whole runs -/

/-- What a run does once it knows whether the index is there. -/
def goOn (client : Client) (documents : List Value) (polls : Int) (delay : Number.Binary64)
    (found : Bool) : Exchange Failure Int := do
  (do
    if found then client.deleteIndex
    client.createIndex booksIndex : Exchange Backend.Failure Unit).mapError .backend
  let sent ← (client.load documents).mapError .backend
  client.refresh.mapError .backend
  let visible ← (client.waitFor sent polls delay).mapError .backend
  Exchange.info
    ("Index " ++ client.index ++ " ready with " ++ Number.intText visible ++ " documents")
  return visible

/-- A run first finds out whether the index is there. -/
theorem indexing_eq (client : Client) (documents : List Value) (polls : Int)
    (delay : Number.Binary64) : indexing client (.ok documents) polls delay =
      client.indexExists.mapError .backend >>= goOn client documents polls delay := by
  unfold indexing Client.recreateIndex
  rw [Exchange.mapError_bind]
  exact Exchange.bind_assoc _ _ _

/-- The index is dropped if it is there, and then it is made, filled and counted. -/
theorem walks_goOn (client : Client) (documents : List Value) (polls : Int)
    (delay : Number.Binary64) (found : Bool) :
    Walks client documents.length (stepsBehind found documents polls.toNat)
      (Turn.Closes documents.length) (goOn client documents polls delay found) := by
  have through : ∀ {α : Type} {steps : List Step} {value : α}
      {exchange : Exchange Backend.Failure α},
      Walks client documents.length steps (Turn.Through value) exchange →
        Walks client documents.length steps (Turn.Through value)
          (exchange.mapError Failure.backend) :=
    fun walks => walks.mapError fun _ _ ends => ends.mapError _
  have remade : Walks client documents.length ((if found then [.drop] else []) ++ [.make])
      (Turn.Through ()) (do
        if found then client.deleteIndex
        client.createIndex booksIndex : Exchange Backend.Failure Unit) := by
    cases found with
    | false => exact walks_createIndex client documents.length
    | true => exact (walks_deleteIndex client _).bind (walks_createIndex client _) .failed
  have polled : Walks client documents.length (List.replicate polls.toNat .count)
      (Turn.Closes documents.length)
      ((client.waitFor documents.length polls delay).mapError Failure.backend) :=
    (walks_poll client documents.length delay polls.toNat 1 (-1)).mapError
      fun _ _ ends => ends.mapError _
  have fails : ∀ error : Failure, Turn.Closes documents.length .failed (.error error) :=
    fun error => .unfinished error (by decide)
  have steps : stepsBehind found documents polls.toNat =
      ((if found then [.drop] else []) ++ [.make]) ++ (putSteps 0 documents ++
        ([.refresh] ++ List.replicate polls.toNat .count)) := by
    simp [stepsBehind]
  -- The log at the end neither sends anything nor changes the count.
  rw [steps]
  refine (through remade).bind ((through (walks_load client _ documents)).bind
    ((through (walks_refresh client _)).bind (polled.bind_silent fun visible => ?_) fails)
    fails) fails
  exact ⟨.log _ (.done _), fun _ => rfl⟩

/-- Under every script a run over documents is made of blocks, and its last turn decides. -/
theorem indexing_runs (client : Client) (documents : List Value) (polls : Int)
    (delay : Number.Binary64) (script : Script) :
    ∃ blocks turn,
      ((indexing client (.ok documents) polls delay).replay script).exchanged =
        blocks.flatMap (·.exchanged client) ∧
      (∀ block ∈ blocks, block.Allowed client) ∧ Run documents polls.toNat blocks turn ∧
      Turn.Closes documents.length turn
        ((indexing client (.ok documents) polls delay).replay script).result := by
  rw [indexing_eq]
  have asks : (client.indexExists.mapError Failure.backend).Asks (Step.look.request client)
      client.maxAttempts Reply.found? := client.indexExists_asks.mapError Failure.backend
  obtain ⟨earlier, last, allowed, sent, told⟩ := exists_block asks script
  cases ended : ((client.indexExists.mapError Failure.backend).replay script).result with
  | error error =>
    have untold : last.found? = none := told_eq_none told ended
    obtain ⟨sentAll, endsAll⟩ := Exchange.bind_error ended (goOn client documents polls delay)
    rw [sentAll, endsAll]
    exact ⟨[⟨.look, earlier, last⟩], .failed, by simpa using sent, by simpa using allowed,
      .lost earlier untold, .unfinished error (by decide)⟩
  | ok found =>
    obtain ⟨sentAll, endsAll⟩ := Exchange.bind_ok ended (goOn client documents polls delay)
    obtain ⟨blocks, turn, sentMore, allowedMore, walk, closes⟩ :=
      walks_goOn client documents polls delay found _
    rw [sentAll, endsAll, sent, sentMore]
    exact ⟨⟨.look, earlier, last⟩ :: blocks, turn, by simp,
      List.forall_mem_cons.2 ⟨allowed, allowedMore⟩, .looked ((told found).1 ended) walk, closes⟩

/-- No request is sent where there are no documents to be had. -/
theorem indexing_error (client : Client) (error : CorpusError) (polls : Int)
    (delay : Number.Binary64) (script : Script) :
    ((indexing client (.error error) polls delay).replay script).exchanged = [] ∧
      ((indexing client (.error error) polls delay).replay script).result =
        .error (.corpus error) := ⟨rfl, rfl⟩

/-! ### Documents that are known to be put -/

/-- The documents that are put before a step. -/
def Step.before (documents : List Value) : Step → List Value
  | .look | .drop | .make => []
  | .put number _ => documents.take number
  | .refresh | .count => documents

/-- The document that is known to be put behind a block. -/
def Block.acknowledged? (block : Block) : Option Value :=
  match block.step with
  | .put _ document => block.last.payload?.map fun _ => document
  | _ => none

/-- The document that a step puts. -/
def Step.document? : Step → Option Value
  | .put _ document => some document
  | _ => none

/-- Steps in front of each of which exactly those documents are put that have to be. -/
def Arranged (documents done : List Value) : List Step → Prop
  | [] => True
  | step :: rest =>
    step.before documents = done ∧ Arranged documents (done ++ step.document?.toList) rest

/-- Steps that put documents are arranged, if those behind all documents are. -/
theorem arranged_putSteps (rest : List Value) {behind : List Step} {documents : List Value} :
    ∀ done, documents = done ++ rest → Arranged documents documents behind →
      Arranged documents done (putSteps done.length rest ++ behind) := by
  induction rest with
  | nil =>
    intro done same arranged
    rw [List.append_nil] at same
    exact same ▸ arranged
  | cons document rest ih =>
    intro done same arranged
    have goesOn := ih (done ++ [document]) (by simpa using same) arranged
    rw [List.length_append] at goesOn
    exact ⟨by simp [Step.before, same], goesOn⟩

/-- The steps of a run are arranged. -/
theorem arranged_stepsBehind (found : Bool) (documents : List Value) (polls : Nat) :
    Arranged documents [] (stepsBehind found documents polls) := by
  have counts : ∀ polls, Arranged documents documents (List.replicate polls .count) := by
    intro polls
    induction polls with
    | zero => trivial
    | succ polls ih => exact ⟨rfl, by simpa [Step.document?] using ih⟩
  have puts : Arranged documents [] (putSteps 0 documents ++
      .refresh :: List.replicate polls .count) :=
    arranged_putSteps documents [] rfl ⟨rfl, by simpa [Step.document?] using counts polls⟩
  cases found with
  | false => exact ⟨rfl, puts⟩
  | true => exact ⟨rfl, rfl, puts⟩

/-- A block that leads onward has put its document. -/
theorem Block.acknowledged?_eq {total : Int} {step : Step} (earlier : List Reply) {last : Reply}
    (onward : step.turn total last = .onward) :
    Block.acknowledged? ⟨step, earlier, last⟩ = step.document? := by
  cases step with
  | put number document =>
    -- A put leads onward only behind a reply that holds a value.
    cases found : last.payload? with
    | none => simp [Step.turn, found] at onward
    | some payload => simp [Block.acknowledged?, Step.document?, found]
  | look | drop | make | refresh | count => rfl

/-- In front of every block of a walk exactly those documents are put that have to be. -/
theorem Walk.acknowledged {total : Int} {steps : List Step} {blocks : List Block} {turn : Turn}
    (walk : Walk total steps blocks turn) {documents : List Value} :
    ∀ done, Arranged documents done steps →
      ∀ front block rest, blocks = front ++ block :: rest →
        done ++ front.filterMap Block.acknowledged? = block.step.before documents := by
  -- Along the walk more and more is put, so that `done` stays quantified over.
  induction walk with
  | done =>
    intro done _ front block rest split
    simp at split
  | stopped step steps earlier last stops =>
    intro done arranged front block rest split
    -- The only block is the first one.
    obtain ⟨rfl, rfl, rfl⟩ : front = [] ∧ block = ⟨step, earlier, last⟩ ∧ rest = [] := by
      cases front <;> simp_all
    simp [arranged.1]
  | @next step steps earlier last blocks turn onward _ ih =>
    intro done arranged front block rest split
    cases front with
    | nil =>
      obtain ⟨rfl, rfl⟩ := List.cons.inj split
      simp [arranged.1]
    | cons first front =>
      obtain ⟨rfl, same⟩ := List.cons.inj split
      -- The first block led onward, and so its document is one of those that are put.
      have behind := ih (done ++ step.document?.toList) arranged.2 front block rest same
      rw [← behind, List.append_assoc]
      congr 1
      rw [List.filterMap_cons, Block.acknowledged?_eq earlier onward]
      cases step.document? <;> rfl

/-- In front of every block of a run exactly those documents are put that have to be. -/
theorem Run.acknowledged {documents : List Value} {polls : Nat} {blocks : List Block} {turn : Turn}
    (run : Run documents polls blocks turn) {front rest : List Block} {block : Block}
    (split : blocks = front ++ block :: rest) :
    front.filterMap Block.acknowledged? = block.step.before documents := by
  cases front with
  | nil =>
    -- The first block only tells whether the index is there.
    cases run with
    | lost | looked =>
      obtain ⟨rfl, -⟩ := List.cons.inj split
      rfl
  | cons first front =>
    cases run with
    | lost => simp at split
    | @looked _ _ _ _ found told walk =>
      obtain ⟨rfl, same⟩ := List.cons.inj split
      exact walk.acknowledged [] (arranged_stepsBehind found documents polls) front block rest same

/--
A run sends what the steps of remaking the index ask for, in their order, and stops where one fails.

Each step is a block of attempts at one request, and it starts only behind steps that lead onward.
In front of every block exactly those documents are known to be put that come before its step.
Where the file holds no documents, nothing is sent. All this is so whatever the file is written in:
a reader tells the value of its content, or that there is none.
-/
theorem indexing_blocks (reader : Yaml.Reader) (client : Client) (path content : String)
    (script : Script) :
    let outcome := (indexing client (readDocuments path content reader) standardPolls
      standardDelay).replay script
    ((¬ ∃ value documents, reader content = .ok value ∧ HoldsDocuments value documents) →
        outcome.exchanged = [] ∧ ∃ error, outcome.result = .error (.corpus error)) ∧
      ∀ value documents, reader content = .ok value → HoldsDocuments value documents →
        ∃ blocks turn, outcome.exchanged = blocks.flatMap (·.exchanged client) ∧
          (∀ block ∈ blocks, block.Allowed client) ∧ Run documents 6 blocks turn ∧
          Turn.Closes documents.length turn outcome.result ∧
          ∀ front block rest, blocks = front ++ block :: rest →
            front.filterMap Block.acknowledged? = block.step.before documents := by
  dsimp only
  refine ⟨fun empty => ?_, fun value documents read holds => ?_⟩
  · cases found : readDocuments path content reader with
    | error error =>
      obtain ⟨unsent, failed⟩ := indexing_error client error standardPolls standardDelay script
      exact ⟨unsent, error, failed⟩
    | ok documents =>
      obtain ⟨value, read, holds⟩ :=
        (readDocuments_eq_ok_iff reader path content documents).1 found
      exact absurd ⟨value, documents, read, holds⟩ empty
  · rw [(readDocuments_eq_ok_iff reader path content documents).2 ⟨value, read, holds⟩]
    obtain ⟨blocks, turn, sent, allowed, run, closes⟩ :=
      indexing_runs client documents standardPolls standardDelay script
    exact ⟨blocks, turn, sent, allowed, run, closes, fun _ _ _ => run.acknowledged⟩

end BooleanSearch.Command
