import BooleanSearch.Proofs.Backend.Server
import BooleanSearch.Proofs.Command.IndexRun
import BooleanSearch.Proofs.Json.RoundTrip
import BooleanSearch.Proofs.Number.Decimals
import Mathlib.Data.Set.Card

/-! What a server holds behind a run that makes the index anew, whatever got lost on the way. -/

namespace BooleanSearch.Command

open Backend

/-- What the request for a step asks of the index. -/
def Step.demand : Step → Demand
  | .look => .look
  | .drop => .drop
  | .make => .make booksIndex
  | .put number document => .put (Number.intText number) document
  | .refresh => .refresh
  | .count => .count

/-- Exactly some documents are held, each under the text of its number. -/
def Numbered (documents : List Value) (held : String → Option Value) : Prop :=
  ∀ identifier document, held identifier = some document ↔
    ∃ number : Nat, documents[number]? = some document ∧ identifier = Number.intText number

/-- An index of books that holds exactly some documents, and that was made behind so many others. -/
structure IsFilled (made : Nat) (documents : List Value) (index : Index) : Prop where
  /-- So many indexes were made before. -/
  new : made ≤ index.serial
  /-- The index is one of books. -/
  body : index.body = booksIndex
  /-- The index holds the documents under their numbers. -/
  numbered : Numbered documents index.documents

/-- A server whose index is new and holds exactly some documents. -/
def Holds (made : Nat) (documents : List Value) (server : Server) : Prop :=
  ∃ index, server.index = some index ∧ IsFilled made documents index

/-! ### Requests for steps -/

/-- A document is put under an address behind that of the index. -/
theorem Step.put_url (client : Client) (number : Nat) (document : Value) :
    ((Step.put number document).request client).url =
      client.url "" ++ "/_doc/" ++ Number.intText number := by
  have nonempty : "_doc/" ++ Number.intText number ≠ "" := by simp
  have behind : client.url ("_doc/" ++ Number.intText number) =
      client.url "" ++ "/" ++ ("_doc/" ++ Number.intText number) := by
    simp [Client.url, nonempty]
  have joined : "/" ++ "_doc/" = "/_doc/" := rfl
  rw [← joined, ← String.append_assoc, String.append_assoc]
  exact behind

/-- A document has another address than the index. -/
theorem url_ne_document (home identifier : String) : home ≠ home ++ "/_doc/" ++ identifier := by
  intro same
  have lengths := congrArg String.length same
  simp only [String.length_append] at lengths
  have inner : "/_doc/".length = 6 := rfl
  omega

/-- The request for a step asks nothing else than the step is for. -/
theorem Step.demand_eq {client : Client} {step : Step} {demand : Demand}
    (asks : (step.request client).Demands (client.url "") demand) : demand = step.demand := by
  -- Only the requests to make the index and to put a document share their method.
  cases asks with
  | look method | drop method | refresh method | count method =>
    cases step <;> first | rfl | simp [Step.request, Client.request] at method
  | make method address sent =>
    cases step with
    | make => simpa [Step.request, Client.request, Step.demand] using sent.symm
    | put number document =>
      rw [Step.put_url] at address
      exact absurd address.symm (url_ne_document _ _)
    | _ => simp [Step.request, Client.request] at method
  | put method address sent =>
    cases step with
    | make => exact absurd address (url_ne_document _ _)
    | put number other =>
      rw [Step.put_url] at address
      obtain rfl := (String.append_right_inj _).1 address
      simpa [Step.request, Client.request, Step.demand] using sent.symm
    | _ => simp [Step.request, Client.request] at method

variable {client : Client} {first next : Server} {earlier : List Reply} {last : Reply}

/-- All attempts at a step ask for the same. -/
theorem Step.demand_eq_of_mem {step : Step} {replies : List Reply} {request : Request}
    {reply : Reply} {demand : Demand}
    (member : (request, reply) ∈ replies.map (step.request client, ·))
    (asks : request.Demands (client.url "") demand) : demand = step.demand := by
  obtain ⟨_, -, same⟩ := List.mem_map.1 member
  obtain ⟨rfl, rfl⟩ := Prod.mk.inj same
  exact Step.demand_eq asks

/-! ### Steps on a server -/

/-- A final response to a step comes from the server that the step was done on. -/
theorem Block.answered {step : Step} {response : Response}
    (history : Server.History (client.url "") first (Block.exchanged client ⟨step, earlier, last⟩)
      next)
    (final : last.final? = some response) :
    ∃ middle, Server.History (client.url "") first (earlier.map (step.request client, ·)) middle ∧
      middle.Answers step.demand response.status ∧ next = middle.after step.demand := by
  rw [Block.exchanged, List.map_append] at history
  obtain ⟨middle, before, behind⟩ := history.split
  -- The last attempt is the only one whose reply is final.
  obtain _ | ⟨attempt, ⟨⟩⟩ := behind
  obtain ⟨demand, asks, answers, rfl⟩ := attempt.of_final final
  obtain rfl := Step.demand_eq asks
  exact ⟨middle, before, answers, rfl⟩

/-- A step that leads onward and is not the first one has a successful response. -/
theorem Step.success {total : Int} {step : Step} (onward : step.turn total last = .onward)
    (later : step ≠ .look) : ∃ response, last.final? = some response ∧ response.status < 400 := by
  have read : ∃ payload, last.payload? = some payload := by
    rw [← Option.isSome_iff_exists]
    cases step with
    | look => contradiction
    | count => cases found : last.payload? <;> simp_all [Step.turn, Reply.count?]
    | _ => cases found : last.payload? <;> simp_all [Step.turn]
  obtain ⟨payload, found⟩ := read
  exact Reply.final?_of_payload? found

/-- Behind a step that made the index it is new, and empty. -/
theorem holds_made {total : Int}
    (history : Server.History (client.url "") first (Block.exchanged client ⟨.make, earlier, last⟩)
      next)
    (onward : Step.make.turn total last = .onward) : Holds first.made [] next := by
  obtain ⟨response, final, success⟩ := Step.success onward (by simp)
  obtain ⟨middle, before, answers, rfl⟩ := Block.answered history final
  cases kept : middle.index with
  | some index =>
    -- An index that is there is not made again.
    have status : response.status = 400 := by
      simpa [Server.Answers, Step.demand, kept] using answers
    omega
  | none =>
    have empty : Numbered [] fun _ => none := by simp [Numbered]
    exact ⟨_, Server.index_make kept booksIndex, before.made_le, rfl, empty⟩

/-- A document under the next number is one more of those that are numbered. -/
theorem Numbered.put {documents : List Value} {held : String → Option Value}
    (numbered : Numbered documents held) (document : Value) :
    Numbered (documents ++ [document])
      (Function.update held (Number.intText documents.length) (some document)) := by
  intro identifier other
  by_cases same : identifier = Number.intText documents.length
  · -- Under the new identifier the new document is found, and it is the last one.
    subst same
    rw [Function.update_self]
    constructor
    · rintro ⟨⟩
      exact ⟨documents.length, by simp, rfl⟩
    · rintro ⟨number, found, named⟩
      obtain rfl := Number.intText_injective named
      simpa using found
  · -- Elsewhere nothing changes, and the numbers that are found there are older ones.
    rw [Function.update_of_ne same, numbered]
    refine exists_congr fun number => and_congr_left fun named => ?_
    have older : number ≠ documents.length := by
      rintro rfl
      exact same named
    rcases Nat.lt_or_gt_of_ne older with below | beyond
    · rw [List.getElem?_append_left below]
    · rw [List.getElem?_eq_none (by omega), List.getElem?_eq_none (by simp; omega)]

/-- Behind a step that put a document the index holds it besides all others. -/
theorem holds_put {total : Int} {made : Nat} {documents : List Value} {document : Value}
    (history : Server.History (client.url "") first
      (Block.exchanged client ⟨.put documents.length document, earlier, last⟩) next)
    (onward : (Step.put documents.length document).turn total last = .onward)
    (holds : Holds made documents first) : Holds made (documents ++ [document]) next := by
  obtain ⟨index, present, filled⟩ := holds
  obtain ⟨response, final, -⟩ := Step.success onward (by simp)
  obtain ⟨middle, before, -, rfl⟩ := Block.answered history final
  -- A lost attempt may have put the document before, and putting it again changes nothing.
  let put := index.put (Number.intText documents.length) document
  have puts : ∀ server : Server, server.index = some index ∨ server.index = some put →
      (server.put (Number.intText documents.length) document).index = some put := by
    rintro server (kept | kept) <;> simp [Server.put, kept, put, Index.put_put]
  have either : middle.index = some index ∨ middle.index = some put := by
    refine before.invariant (fun server => server.index = some index ∨ server.index = some put) ?_
      (.inl present)
    intro request reply demand member asks server held
    obtain rfl := Step.demand_eq_of_mem member asks
    exact .inr (puts server held)
  exact ⟨put, puts middle either, filled.new, filled.body, filled.numbered.put document⟩

/-! ### Runs on a server -/

/-- Only a count ends a run well. -/
theorem Step.eq_count {total : Int} {step : Step} (finished : step.turn total last = .finished) :
    step = .count := by
  cases step with
  | count => rfl
  | look => cases found : last.found? <;> simp [Step.turn, found] at finished
  | drop | make | put | refresh =>
    cases found : last.payload? <;> simp [Step.turn, found] at finished

/-- A walk that ends well leads onward from its first step, unless that is a count. -/
theorem Walk.first_block {total : Int} {step : Step} {steps : List Step} {blocks : List Block}
    (walk : Walk total (step :: steps) blocks .finished) (plain : step ≠ .count)
    (history : Server.History (client.url "") first (blocks.flatMap (·.exchanged client)) next) :
    ∃ earlier last more middle, step.turn total last = .onward ∧
      Server.History (client.url "") first (Block.exchanged client ⟨step, earlier, last⟩) middle ∧
        Walk total steps more .finished ∧
          Server.History (client.url "") middle (more.flatMap (·.exchanged client)) next := by
  generalize ended : Turn.finished = turn at walk
  cases walk with
  | stopped => exact absurd (Step.eq_count ended.symm) plain
  | next onward behind =>
    rw [List.flatMap_cons] at history
    obtain ⟨middle, before, after⟩ := history.split
    exact ⟨_, _, _, middle, onward, before, ended ▸ behind, after⟩

/-- The blocks of a walk are those of its steps. -/
theorem Walk.step_mem {total : Int} {steps : List Step} {blocks : List Block} {turn : Turn}
    (walk : Walk total steps blocks turn) : ∀ block ∈ blocks, block.step ∈ steps := by
  induction walk with
  | done => simp
  | stopped => simp
  | next _ _ ih =>
    exact List.forall_mem_cons.2 ⟨.head _, fun block member => .tail _ (ih block member)⟩

/-- Documents are put one by one behind those that the index holds. -/
theorem holds_puts {total : Int} {made : Nat} {steps : List Step} (rest : List Value) :
    ∀ {done : List Value} {blocks : List Block} {first : Server},
      Walk total (putSteps done.length rest ++ steps) blocks .finished →
        Server.History (client.url "") first (blocks.flatMap (·.exchanged client)) next →
          Holds made done first →
            ∃ more middle, Walk total steps more .finished ∧
              Server.History (client.url "") middle (more.flatMap (·.exchanged client)) next ∧
                Holds made (done ++ rest) middle := by
  induction rest with
  | nil =>
    intro done blocks first walk history holds
    exact ⟨blocks, first, walk, history, by rwa [List.append_nil]⟩
  | cons document rest ih =>
    intro done blocks first walk history holds
    obtain ⟨earlier, last, more, middle, onward, before, behind, after⟩ :=
      walk.first_block (by simp) history
    have held := holds_put before onward holds
    -- The next number is the count of the documents that are there by now.
    have length : (done ++ [document]).length = done.length + 1 := by simp
    have goesOn := ih (by rwa [length]) after held
    rwa [List.append_assoc] at goesOn

/-- Steps that only look at the index leave it as it is. -/
theorem holds_kept {total : Int} {made : Nat} {documents : List Value} {steps : List Step}
    {blocks : List Block} {turn : Turn} (walk : Walk total steps blocks turn)
    (quiet : ∀ step ∈ steps, ∀ server : Server, server.after step.demand = server)
    (history : Server.History (client.url "") first (blocks.flatMap (·.exchanged client)) next)
    (holds : Holds made documents first) : Holds made documents next := by
  -- All requests are for steps of the walk, and none of these changes anything.
  refine history.invariant (Holds made documents) ?_ holds
  intro request reply demand member asks server held
  obtain ⟨block, among, exchanged⟩ := List.mem_flatMap.1 member
  obtain rfl := Step.demand_eq_of_mem exchanged asks
  rwa [quiet block.step (walk.step_mem block among)]

/-- Behind the steps from the making of the index on a server holds exactly the documents. -/
theorem holds_made_walk {documents : List Value} {polls : Nat} {blocks : List Block}
    (walk : Walk documents.length (stepsBehind false documents polls) blocks .finished)
    (history : Server.History (client.url "") first (blocks.flatMap (·.exchanged client)) next) :
    Holds first.made documents next := by
  obtain ⟨earlier, last, more, empty, onward, making, filling, history⟩ :=
    walk.first_block (by simp) history
  have made := holds_made making onward
  obtain ⟨counts, full, walk, history, holds⟩ := holds_puts documents filling history made
  -- What follows does not change the index any more.
  refine holds_kept walk (fun step member server => ?_) history holds
  rcases List.mem_cons.1 member with rfl | counted
  · rfl
  · rw [(List.mem_replicate.1 counted).2]
    rfl

/-- What is new since a count of indexes is new since each smaller one. -/
theorem Holds.older {made older : Nat} {documents : List Value} {server : Server}
    (holds : Holds made documents server) (less : older ≤ made) : Holds older documents server := by
  obtain ⟨index, present, filled⟩ := holds
  exact ⟨index, present, Nat.le_trans less filled.new, filled.body, filled.numbered⟩

/-- Behind the steps that follow the first one a server holds exactly the documents. -/
theorem holds_walk {documents : List Value} {polls : Nat} {blocks : List Block} {found : Bool}
    (walk : Walk documents.length (stepsBehind found documents polls) blocks .finished)
    (history : Server.History (client.url "") first (blocks.flatMap (·.exchanged client)) next) :
    Holds first.made documents next := by
  cases found with
  | false => exact holds_made_walk walk history
  | true =>
    obtain ⟨earlier, last, more, middle, -, dropping, behind, history⟩ :=
      walk.first_block (by simp) history
    -- However often the drop was attempted, what is made behind it is new.
    exact (holds_made_walk behind history).older dropping.made_le

/-- As many identifiers are in use as there are documents. -/
theorem Numbered.ncard {documents : List Value} {held : String → Option Value}
    (numbered : Numbered documents held) :
    {identifier | (held identifier).isSome}.ncard = documents.length := by
  -- The identifiers in use are the texts of the numbers of documents.
  have same : {identifier | (held identifier).isSome} =
      (fun number : Nat => Number.intText number) '' (Finset.range documents.length) := by
    ext identifier
    constructor
    · intro used
      obtain ⟨document, found⟩ := Option.isSome_iff_exists.1 used
      obtain ⟨number, there, rfl⟩ := (numbered identifier document).1 found
      exact ⟨number, by simpa using (List.getElem?_eq_some_iff.1 there).1, rfl⟩
    · rintro ⟨number, below, rfl⟩
      have bound : number < documents.length := by simpa using below
      have found := (numbered _ documents[number]).2
        ⟨number, List.getElem?_eq_getElem bound, rfl⟩
      simp [found]
  rw [same, Set.ncard_image_of_injective _ Number.intText_injective, Set.ncard_coe_finset,
    Finset.card_range]

/--
Behind a successful run a server holds exactly the documents of the file, whatever got lost.

Attempts whose replies tell nothing may have been carried out or not.
The index was made during the run, and it holds each document under the text of its number.
-/
theorem indexing_content (client : Client) (corpus : Except CorpusError (List Value)) (polls : Int)
    (delay : Number.Binary64) (script : Script) (before after : Server) (value : Int)
    (served : Server.History (client.url "") before
      ((indexing client corpus polls delay).replay script).exchanged after)
    (succeeded : ((indexing client corpus polls delay).replay script).result = .ok value) :
    ∃ documents, corpus = .ok documents ∧ value = documents.length ∧
      ∃ index, after.index = some index ∧ before.made ≤ index.serial ∧ index.body = booksIndex ∧
        (∀ identifier document, index.documents identifier = some document ↔
          ∃ number : Nat, documents[number]? = some document ∧
            identifier = Number.intText number) ∧
        {identifier | (index.documents identifier).isSome}.ncard = documents.length := by
  cases corpus with
  | error error =>
    -- Without documents there is no success.
    rw [(indexing_error client error polls delay script).2] at succeeded
    contradiction
  | ok documents =>
    obtain ⟨blocks, turn, sent, -, run, closes⟩ :=
      indexing_runs client documents polls delay script
    rw [succeeded] at closes
    obtain ⟨⟩ := closes
    rw [sent] at served
    cases run with
    | looked told walk =>
      -- What is made behind the attempts to look for the index is new since before them, too.
      rw [List.flatMap_cons] at served
      obtain ⟨middle, looking, served⟩ := served.split
      obtain ⟨index, present, filled⟩ := (holds_walk walk served).older looking.made_le
      exact ⟨documents, rfl, rfl, index, present, filled.new, filled.body, filled.numbered,
        filled.numbered.ncard⟩

/-- A stale index is replaced, though a drop and the answer to a put get lost. -/
theorem indexing_content_lossy :
    let client : Client := ⟨"http://localhost:9200", "books", .whole 10, 1, none⟩
    let document : Value := .object [("title", .text "Emma")]
    let visible : Value := .object [("count", .int 1)]
    let script : Script := ⟨[.answered ⟨200, ""⟩, .failed .timeout "late", .answered ⟨200, "{}"⟩,
      .answered ⟨200, "{}"⟩, .failed .readTimeout "late", .answered ⟨201, "{}"⟩,
      .answered ⟨200, "{}"⟩, .answered ⟨200, Json.render .compact visible⟩], fun _ => .zero⟩
    let outcome := (indexing client (.ok [document]) 1 .zero).replay script
    let before : Server := ⟨1, some ⟨0, .null, fun _ => some .null⟩, by simp⟩
    ∃ after, Server.History (client.url "") before outcome.exchanged after ∧
      outcome.result = .ok 1 ∧ ∃ index, after.index = some index ∧ 1 ≤ index.serial ∧
        index.documents "0" = some document ∧ index.documents "1" = none := by
  intro client document visible script outcome before
  have paused : pauseBehind 1 .zero = some (.ofHundredths 50) := by decide +kernel
  have empty : Json.read? "{}" = some (.object []) := rfl
  have counted : Json.read? (Json.render .compact visible) = some visible := by
    have short : (Nat.toDigits 10 (1 : Int).natAbs).length ≤ Number.digitLimit := by decide
    have wellFormed : Json.IsDocument (some Number.digitLimit) visible :=
      .object (by simp) (by simpa using .int (by simpa using short))
    exact wellFormed.readWithin?_render .compact
  have member : Client.member? "count" visible = some (.int 1) := rfl
  have first : Number.intText 0 = "0" := rfl
  obtain ⟨sent, succeeded⟩ : outcome.exchanged = [
      (client.request .head "" none, .answered ⟨200, ""⟩),
      (client.request .delete "" none, .failed .timeout "late"),
      (client.request .delete "" none, .answered ⟨200, "{}"⟩),
      (client.request .put "" (some booksIndex), .answered ⟨200, "{}"⟩),
      (client.request .put "_doc/0" (some document), .failed .readTimeout "late"),
      (client.request .put "_doc/0" (some document), .answered ⟨201, "{}"⟩),
      (client.request .post "_refresh" none, .answered ⟨200, "{}"⟩),
      (client.request .get "_count" none, .answered ⟨200, Json.render .compact visible⟩)] ∧
      outcome.result = .ok 1 := by
    simp [outcome, client, script, document, paused, empty, counted, member, first, indexing,
      Client.recreateIndex, Client.indexExists, Client.deleteIndex, Client.createIndex,
      Client.load, Client.putDocuments, Client.putDocument, Client.refresh, Client.waitFor,
      Client.poll, Client.count, Client.answer, Client.respond, requireSuccess, attemptsFrom,
      attempt, pauseBefore, Reply.verdict, passingStatuses, Fault.isPassing, Exchange.replay,
      Exchange.bind, Exchange.mapError, Exchange.ofExcept, Exchange.debug, Exchange.info,
      Exchange.wait, Exchange.random, Exchange.ask, bind, pure, Script.reply,
      Script.draw, Outcome.after, Outcome.exchanged]
  have address : client.url "_doc/0" = client.url "" ++ "/_doc/" ++ "0" := rfl
  obtain ⟨after, served⟩ : ∃ after,
      Server.History (client.url "") before outcome.exchanged after := by
    -- The first attempt to drop the index does not arrive, and the first one to put does.
    rw [sent]
    exact ⟨_,
      .cons (.answered (.look rfl rfl) rfl) <|
      .cons (.unheard ⟨_, rfl⟩) <|
      .cons (.answered (.drop rfl rfl) rfl) <|
      .cons (.answered (.make rfl rfl rfl) rfl) <|
      .cons (.unanswered (.put rfl address rfl) ⟨_, rfl⟩) <|
      .cons (.answered (.put rfl address rfl) fun absent =>
        absurd absent (Option.some_ne_none _)) <|
      .cons (.answered (.refresh rfl rfl) rfl) <|
      .cons (.answered (.count rfl rfl) rfl) <|
      .nil _⟩
  obtain ⟨documents, same, -, index, present, new, -, held, -⟩ :=
    indexing_content client (.ok [document]) 1 .zero script before after 1 served succeeded
  obtain rfl := Except.ok.inj same
  refine ⟨after, served, succeeded, index, present, new, (held "0" document).2 ⟨0, rfl, rfl⟩,
    Option.eq_none_iff_forall_ne_some.2 fun other found => ?_⟩
  -- The index holds one document, which is not under this identifier.
  obtain ⟨number, there, named⟩ := (held "1" other).1 found
  obtain rfl : number = 0 := by simpa using (List.getElem?_eq_some_iff.1 there).1
  exact absurd named (by decide)

end BooleanSearch.Command
