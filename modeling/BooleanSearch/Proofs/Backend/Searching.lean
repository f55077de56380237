import BooleanSearch.Proofs.Backend.Operations
import BooleanSearch.Proofs.Json.RoundTrip

/-! What a search comes to with the response that ends its attempts, whatever the body of that. -/

namespace BooleanSearch.Backend

/-- An answer holds a list of hits, in an object within the object that the answer is. -/
inductive HoldsHits : Value → List Value → Prop
  | intro {entries inner : Entries} {hits : List Value}
      (outer : Entries.getText? "hits" entries = some (.mapping inner))
      (list : Entries.getText? "hits" inner = some (.list hits)) :
      HoldsHits (.mapping entries) hits

/-- An answer holds a value in the place of its hits that is no object to look anything up in. -/
inductive HoldsOther : Value → Value → Prop
  | intro {entries : Entries} {other : Value} (found : Entries.getText? "hits" entries = some other)
      (noObject : ∀ inner, other ≠ .mapping inner) : HoldsOther (.mapping entries) other

/-- How a search ends with a response behind which its request is not sent again. -/
inductive SearchEnding (request : Request) (response : Response) :
    Except Failure (List Value) → Prop
  | rejected (status : ¬ response.status < 400) :
      SearchEnding request response (.error (.refused (.rejected request response)))
  | unreadable (status : response.status < 400) (unread : Json.read? response.body = none) :
      SearchEnding request response (.error (.refused (.unreadable request)))
  /-- What is no object among the hits is passed over. -/
  | found {payload : Value} {hits : List Value} (status : response.status < 400)
      (read : Json.read? response.body = some payload) (holds : HoldsHits payload hits) :
      SearchEnding request response (.ok (hits.filterMap sourceOf?))
  | nothing {payload : Value} (status : response.status < 400)
      (read : Json.read? response.body = some payload) (noHits : ∀ hits, ¬ HoldsHits payload hits)
      (noOther : ∀ other, ¬ HoldsOther payload other) : SearchEnding request response (.ok [])
  /-- This is the one way to end that tells nothing of the backend. -/
  | stuck {payload other : Value} (status : response.status < 400)
      (read : Json.read? response.body = some payload) (holds : HoldsOther payload other) :
      SearchEnding request response (.error (.noObject other.kindName))

/-- What a search makes of a response. -/
def searchResult (request : Request) (response : Response) : Except Failure (List Value) :=
  if response.status < 400 then
    match Json.read? response.body with
    | some payload => hitsOf payload
    | none => .error (.refused (.unreadable request))
  else .error (.refused (.rejected request response))

variable {request : Request} {response : Response} {payload : Value}

/-! ### Payloads -/

/-- Hits are looked up in the object that stands under their key, or in an empty one. -/
theorem hitsOf_mapping {entries inner : Entries}
    (outer : (Entries.getText? "hits" entries).getD (.mapping []) = .mapping inner) :
    hitsOf (.mapping entries) =
      .ok (sources ((Entries.getText? "hits" inner).getD (.list []))) := by
  rw [hitsOf, outer]
  rfl

theorem HoldsHits.hitsOf {hits : List Value} (holds : HoldsHits payload hits) :
    hitsOf payload = .ok (hits.filterMap sourceOf?) := by
  obtain ⟨outer, list⟩ := holds
  rw [hitsOf_mapping (by rw [outer]; rfl), list]
  rfl

theorem HoldsOther.hitsOf {other : Value} (holds : HoldsOther payload other) :
    hitsOf payload = .error (.noObject other.kindName) := by
  obtain ⟨found, noObject⟩ := holds
  have failed : objectOf other = .error (.noObject other.kindName) := by
    cases other with
    | mapping inner => exact absurd rfl (noObject inner)
    | scalar | list => rfl
  rw [Backend.hitsOf, found, Option.getD_some, failed]
  rfl

/-- A value that is no list holds no sources. -/
theorem sources_eq_nil {value : Value} (noList : ∀ hits, value ≠ .list hits) :
    sources value = [] := by
  cases value with
  | list hits => exact absurd rfl (noList hits)
  | scalar | mapping => rfl

/-- Nothing is found where hits can be looked up, but there is no list of them. -/
theorem hitsOf_eq_nil (noHits : ∀ hits, ¬ HoldsHits payload hits)
    (noOther : ∀ other, ¬ HoldsOther payload other) : hitsOf payload = .ok [] := by
  cases payload with
  | scalar | list => rfl
  | mapping entries =>
    cases found : Entries.getText? "hits" entries with
    | none => rw [hitsOf_mapping (by rw [found]; rfl)]; rfl
    | some outer =>
      -- What stands for the hits is an object, since nothing else is in its place.
      obtain ⟨inner, rfl⟩ : ∃ inner, outer = .mapping inner := by
        cases outer with
        | mapping inner => exact ⟨inner, rfl⟩
        | scalar | list => exact absurd ⟨found, by simp⟩ (noOther _)
      rw [hitsOf_mapping (by rw [found]; rfl)]
      -- In that object there is nothing, or something that is no list.
      cases list : Entries.getText? "hits" inner with
      | none => rfl
      | some value =>
        congr 1
        apply sources_eq_nil
        rintro hits rfl
        exact noHits hits ⟨found, list⟩

/-! ### Responses -/

/-- How a search ends is told by what it makes of the response. -/
theorem SearchEnding.searchResult {result : Except Failure (List Value)}
    (ending : SearchEnding request response result) : searchResult request response = result := by
  -- The status is looked at first, then the body, then what stands in the place of the hits.
  cases ending with
  | rejected status => simp [Backend.searchResult, status]
  | unreadable status unread => simp [Backend.searchResult, status, unread]
  | found status read holds => simp [Backend.searchResult, status, read, holds.hitsOf]
  | nothing status read noHits noOther =>
    simp [Backend.searchResult, status, read, hitsOf_eq_nil noHits noOther]
  | stuck status read holds => simp [Backend.searchResult, status, read, holds.hitsOf]

/-- A search makes of each response what it ends with. -/
theorem searchEnding_searchResult (request : Request) (response : Response) :
    SearchEnding request response (searchResult request response) := by
  unfold searchResult
  split
  next status =>
    split
    next payload read =>
      -- The payload holds hits, or something else in their place, or neither of the two.
      by_cases someHits : ∃ hits, HoldsHits payload hits
      · obtain ⟨hits, holds⟩ := someHits
        rw [holds.hitsOf]
        exact .found status read holds
      · by_cases someOther : ∃ other, HoldsOther payload other
        · obtain ⟨other, holds⟩ := someOther
          rw [holds.hitsOf]
          exact .stuck status read holds
        · rw [not_exists] at someHits someOther
          rw [hitsOf_eq_nil someHits someOther]
          exact .nothing status read someHits someOther
    next unread => exact .unreadable status unread
  next status => exact .rejected status

theorem searchResult_eq_iff {result : Except Failure (List Value)} :
    searchResult request response = result ↔ SearchEnding request response result := by
  constructor
  · rintro rfl
    exact searchEnding_searchResult request response
  · exact SearchEnding.searchResult

/-- A list or a refusal comes of every response, unless it holds something else than its hits. -/
theorem searchResult_told_iff (request : Request) (response : Response) :
    ((∃ found, searchResult request response = .ok found) ∨
        ∃ refusal, searchResult request response = .error (.refused refusal)) ↔
      ¬ (response.status < 400 ∧ ∃ payload other, Json.read? response.body = some payload ∧
        HoldsOther payload other) := by
  constructor
  · rintro told ⟨status, payload, other, read, holds⟩
    have stuck : searchResult request response = _ :=
      (SearchEnding.stuck status read holds).searchResult
    simp [stuck] at told
  · -- Of the five endings one alone is neither a list nor a refusal.
    intro notStuck
    have ending := searchEnding_searchResult request response
    generalize searchResult request response = result at ending ⊢
    cases ending with
    | rejected | unreadable => exact .inr ⟨_, rfl⟩
    | found | nothing => exact .inl ⟨_, rfl⟩
    | stuck status read holds => exact absurd ⟨status, _, _, read, holds⟩ notStuck

/-- A search is a run of attempts, and looks at nothing but the response to the last of them. -/
theorem search_eq (client : Client) (document : Value) :
    client.search document =
      client.respond (client.request .post "_search" (some document)) >>= fun response =>
        .done (searchResult (client.request .post "_search" (some document)) response) := by
  rw [Client.search, Client.answer, Exchange.bind_assoc]
  congr 1
  funext response
  -- The check of the status and the reading of the body are done behind the response.
  rw [requireSuccess_eq, searchResult]
  by_cases status : response.status < 400
  · cases read : Json.read? response.body <;> simp [status] <;> rfl
  · simp [status]
    rfl

/--
With the response that ends its attempts, whatever its body is, a search ends in a list or a refusal.

The one exception is a value that is no object in the place of the hits: a key is looked up in it.
-/
theorem search_endings (client : Client) (document : Value) {script : Script} {retries : Nat}
    {response : Response} (spared : retries < client.maxAttempts) (reckoned : retries ≤ 1024)
    (retryable : ∀ index < retries, (script.behind index).reply.1.Retryable)
    (answered : (script.behind retries).reply.1 = .answered response)
    (final : response.status ∉ [429, 500, 502, 503, 504]) :
    let request := client.request .post "_search" (some document)
    let outcome := (client.search document).replay script
    outcome.requests = List.replicate (retries + 1) request ∧ outcome.pauses.length = retries ∧
      (∀ result, outcome.result = result ↔ SearchEnding request response result) ∧
      (((∃ found, outcome.result = .ok found) ∨
          ∃ refusal, outcome.result = .error (.refused refusal)) ↔
        ¬ (response.status < 400 ∧ ∃ payload other, Json.read? response.body = some payload ∧
          HoldsOther payload other)) := by
  intro request outcome
  have ends : ¬ (script.behind retries).reply.1.Retryable := by
    rw [answered]
    rintro ⟨listed⟩
    exact final listed
  have tried := respond_final request spared reckoned retryable ends
  rw [answered] at tried
  have all : outcome.Tried request (script.pauses 1 retries) (script.replies.drop (retries + 1))
      (searchResult request response) := by
    have split : outcome = _ := congrArg (Exchange.replay · script) (search_eq client document)
    rw [split]
    exact tried.bind (.done _)
  refine ⟨all.length_pauses.1, all.length_pauses.2, fun result => ?_, ?_⟩
  · rw [all.result, searchResult_eq_iff]
  · rw [all.result]
    exact searchResult_told_iff request response

/-- Behind a busy backend an answer with an absent value for its hits ends a search that way. -/
theorem search_endings_null :
    let client := Client.make "http://localhost" "books" (.whole 1) 2 none
    let document : Value := .object []
    let response : Response := ⟨200, Json.render .compact (.object [("hits", .null)])⟩
    let script : Script := ⟨[.answered ⟨503, "busy"⟩, .answered response], fun _ => .zero⟩
    let outcome := (client.search document).replay script
    (∀ index < 1, (script.behind index).reply.1.Retryable) ∧
      response.status ∉ [429, 500, 502, 503, 504] ∧ outcome.requests.length = 2 ∧
        outcome.pauses.length = 1 ∧ outcome.result = .error (.noObject "NoneType") := by
  intro client document response script outcome
  have retryable : ∀ index < 1, (script.behind index).reply.1.Retryable := by
    intro index below
    obtain rfl : index = 0 := by omega
    exact .busy (by decide)
  have final : response.status ∉ [429, 500, 502, 503, 504] := by decide
  have answered : (script.behind 1).reply.1 = .answered response := rfl
  obtain ⟨requests, pauses, ends, -⟩ :=
    search_endings client document (by decide) (by decide) retryable answered final
  have absent : Json.IsDocument (some Number.digitLimit) (.object [("hits", .null)]) :=
    .object (by simp) (by simp [Json.IsDocument.null])
  have read : Json.read? response.body = some (.object [("hits", .null)]) :=
    absent.readWithin?_render .compact
  refine ⟨retryable, final, by simp [outcome, requests], pauses, (ends _).2 ?_⟩
  exact .stuck (by decide) read ⟨rfl, by simp⟩

end BooleanSearch.Backend
