import BooleanSearch.Proofs.Backend.Attempts
import Mathlib.Logic.Function.Basic

/-! A server that keeps an index, and attempts at requests whose replies may get lost. -/

namespace BooleanSearch.Backend

/-- An index that a server keeps. -/
structure Index where
  /-- The number of indexes that the server made before this one. -/
  serial : Nat
  /-- What the index was made with. -/
  body : Value
  /-- The documents, by their identifiers. -/
  documents : String → Option Value

/-- A server that keeps one index at most. -/
structure Server where
  /-- The number of indexes that were made so far. -/
  made : Nat
  /-- The index, if it is there. -/
  index : Option Index
  /-- The index is one of those that were made. -/
  known : ∀ kept ∈ index, kept.serial < made

/-- What a request asks of the index. -/
inductive Demand
  /-- Whether the index is there. -/
  | look
  /-- That the index is dropped. -/
  | drop
  /-- That the index is made, without documents. -/
  | make (body : Value)
  /-- That a document is put under an identifier. -/
  | put (identifier : String) (document : Value)
  /-- That searches see what was put. -/
  | refresh
  /-- How many documents searches see. -/
  | count

/-- What requests ask of the index at some address. -/
inductive Request.Demands (home : String) : Request → Demand → Prop
  | look {request : Request} (method : request.method = .head) (address : request.url = home) :
      Demands home request .look
  | drop {request : Request} (method : request.method = .delete) (address : request.url = home) :
      Demands home request .drop
  | make {request : Request} {body : Value} (method : request.method = .put)
      (address : request.url = home) (sent : request.body = some body) :
      Demands home request (.make body)
  | put {request : Request} {identifier : String} {document : Value}
      (method : request.method = .put) (address : request.url = home ++ "/_doc/" ++ identifier)
      (sent : request.body = some document) :
      Demands home request (.put identifier document)
  | refresh {request : Request} (method : request.method = .post)
      (address : request.url = home ++ "/_refresh") : Demands home request .refresh
  | count {request : Request} (method : request.method = .get)
      (address : request.url = home ++ "/_count") : Demands home request .count

/-- An index with a document put under an identifier, in the place of any that was there. -/
def Index.put (index : Index) (identifier : String) (document : Value) : Index :=
  { index with documents := Function.update index.documents identifier (some document) }

/-- A server with a new index, unless there is one already. -/
def Server.make (server : Server) (body : Value) : Server :=
  match server.index with
  | none => ⟨server.made + 1, some ⟨server.made, body, fun _ => none⟩, by simp⟩
  | some _ => server

/-- A server with a document put into its index. -/
def Server.put (server : Server) (identifier : String) (document : Value) : Server :=
  ⟨server.made, server.index.map (·.put identifier document), by
    simpa [Index.put] using server.known⟩

/-- The server behind what a request asks. -/
def Server.after (server : Server) : Demand → Server
  | .drop => ⟨server.made, none, by simp⟩
  | .make body => server.make body
  | .put identifier document => server.put identifier document
  | .look | .refresh | .count => server

/-- The statuses with which a server answers. -/
def Server.Answers (server : Server) : Demand → Int → Prop
  | .look, status | .drop, status => status = if server.index.isSome then 200 else 404
  | .make _, status => status = if server.index.isSome then 400 else 200
  | .put .., status => server.index = none → status = 404
  | .refresh, status | .count, status => status = 200

/-- What an attempt at a request does to a server, by the reply that it gets. -/
inductive Server.Attempt (home : String) (server : Server) (request : Request) :
    Reply → Server → Prop
  /-- The request arrives, and the answer comes back. -/
  | answered {demand : Demand} {response : Response} (asks : request.Demands home demand)
      (answers : server.Answers demand response.status) :
      Attempt home server request (.answered response) (server.after demand)
  /-- The reply tells nothing, and the request did not arrive. -/
  | unheard {reply : Reply} (passing : reply.IsPassing) :
      Attempt home server request reply server
  /-- The reply tells nothing, though the request arrived. -/
  | unanswered {demand : Demand} {reply : Reply} (asks : request.Demands home demand)
      (passing : reply.IsPassing) : Attempt home server request reply (server.after demand)

/-- What attempts in a row do to a server that nobody else writes to. -/
inductive Server.History (home : String) : Server → List (Request × Reply) → Server → Prop
  | nil (server : Server) : History home server [] server
  | cons {first next last : Server} {request : Request} {reply : Reply}
      {rest : List (Request × Reply)} (attempt : first.Attempt home request reply next)
      (behind : History home next rest last) : History home first ((request, reply) :: rest) last

/-! ### Attempts -/

/-- Where there is no index, a new one is made. -/
theorem Server.index_make {server : Server} (absent : server.index = none) (body : Value) :
    (server.make body).index = some ⟨server.made, body, fun _ => none⟩ := by
  unfold Server.make
  split
  · rfl
  · -- There would be an index already.
    simp_all

/-- Indexes that were made stay counted. -/
theorem Server.made_le_after (server : Server) (demand : Demand) :
    server.made ≤ (server.after demand).made := by
  cases demand with
  | make body =>
    -- Only a server without an index makes one, and counts it.
    rw [Server.after, Server.make]
    split
    · exact Nat.le_succ server.made
    · exact Nat.le_refl server.made
  | look | drop | put | refresh | count => exact Nat.le_refl _

/-- A document that is put twice is there once. -/
theorem Index.put_put (index : Index) (identifier : String) (document : Value) :
    (index.put identifier document).put identifier document = index.put identifier document := by
  simp [Index.put]

/-- An attempt does nothing, or it does what its request asks. -/
theorem Server.Attempt.cases {home : String} {server next : Server} {request : Request}
    {reply : Reply} (attempt : server.Attempt home request reply next) :
    next = server ∨ ∃ demand, request.Demands home demand ∧ next = server.after demand := by
  cases attempt with
  | answered asks => exact .inr ⟨_, asks, rfl⟩
  -- Nothing but the request itself got lost.
  | unheard => exact .inl rfl
  | unanswered asks => exact .inr ⟨_, asks, rfl⟩

/-- A final response is the answer of a server that did what the request asks. -/
theorem Server.Attempt.of_final {home : String} {server next : Server} {request : Request}
    {reply : Reply} {response : Response} (attempt : server.Attempt home request reply next)
    (final : reply.final? = some response) :
    ∃ demand, request.Demands home demand ∧ server.Answers demand response.status ∧
      next = server.after demand := by
  -- No reply behind which another attempt may follow is final.
  have heard : ¬ reply.IsPassing := fun passing => by simp [passing.final?] at final
  cases attempt with
  | @answered demand answer asks answers =>
    obtain rfl : answer = response := by simpa using Reply.eq_answered final
    exact ⟨demand, asks, answers, rfl⟩
  | unheard passing => exact absurd passing heard
  | unanswered _ passing => exact absurd passing heard

/-! ### Attempts in a row -/

/-- What attempts in a row do is what the first ones do, and then what the others do. -/
theorem Server.History.split {home : String} {first last : Server}
    (front : List (Request × Reply)) {rest : List (Request × Reply)} :
    History home first (front ++ rest) last →
      ∃ middle, History home first front middle ∧ History home middle rest last := by
  -- The induction follows the first attempts, each of which starts where the one before it ended.
  induction front generalizing first with
  | nil => exact fun history => ⟨first, .nil first, history⟩
  | cons exchanged front ih =>
    rintro (_ | ⟨attempt, behind⟩)
    obtain ⟨middle, before, after⟩ := ih behind
    exact ⟨middle, .cons attempt before, after⟩

/-- What every request keeps true stays true, whatever gets lost. -/
theorem Server.History.invariant {home : String} {first last : Server}
    {exchanges : List (Request × Reply)} (history : History home first exchanges last)
    (holds : Server → Prop)
    (kept : ∀ request reply demand, (request, reply) ∈ exchanges → request.Demands home demand →
      ∀ server, holds server → holds (server.after demand))
    (start : holds first) : holds last := by
  -- It is enough that each attempt keeps it, and an attempt does at most what its request asks.
  induction history with
  | nil => exact start
  | cons attempt _ ih =>
    refine ih (fun request reply demand member => kept request reply demand (.tail _ member)) ?_
    rcases attempt.cases with rfl | ⟨demand, asks, rfl⟩
    · exact start
    · exact kept _ _ demand (.head _) asks _ start

/-- Indexes that were made stay counted, whatever happens. -/
theorem Server.History.made_le {home : String} {first last : Server}
    {exchanges : List (Request × Reply)} (history : History home first exchanges last) :
    first.made ≤ last.made := by
  refine history.invariant (fun server => first.made ≤ server.made) ?_ (Nat.le_refl first.made)
  exact fun _ _ demand _ _ server bound => Nat.le_trans bound (server.made_le_after demand)

end BooleanSearch.Backend
