import BooleanSearch.Backend.Corpus
import BooleanSearch.Proofs.Backend.Operations
import BooleanSearch.Proofs.Json.RoundTrip
import Mathlib.Data.List.Forall2

/-! Waiting for documents: which polls are made, what is done between them, and how it ends. -/

namespace BooleanSearch.Backend

open Number

/-- So many counts in a row; each of them goes on with what the one before it left of the script. -/
def Client.counts (client : Client) : Nat → Script → List (Outcome Failure Int)
  | 0, _ => []
  | polls + 1, script =>
    client.count.replay script :: client.counts polls (client.count.replay script).rest

/-- Whether an event is more than a record in a log. -/
def Event.isDeed : Event → Bool
  | .logged _ => false
  | .sent .. | .paused _ => true

/-- What was done, apart from what was logged. -/
def Outcome.deeds (outcome : Outcome ε α) : List Event :=
  outcome.events.filter Event.isDeed

/-- So many counts were made with a pause between each two of them, and nothing else was done. -/
def Outcome.Polled (outcome : Outcome Failure Int) (client : Client) (delay : Binary64)
    (script : Script) (polls : Nat) : Prop :=
  outcome.deeds = [.paused delay].intercalate ((client.counts polls script).map Outcome.deeds)

/--
How many polls a wait makes and how it ends, by the results of all polls that it may make.

Where no poll is made, `seen` stands for the last count.
-/
inductive WaitEnding (index : String) (expected seen : Int) (results : List (Except Failure Int)) :
    Nat → Except Failure Int → Prop
  /-- All polls before it came to other counts, smaller or greater ones. -/
  | visible (others : List Int) {later : List (Except Failure Int)} (unexpected : expected ∉ others)
      (split : results = others.map .ok ++ .ok expected :: later) :
      WaitEnding index expected seen results (others.length + 1) (.ok expected)
  | failed (others : List Int) {later : List (Except Failure Int)} (failure : Failure)
      (unexpected : expected ∉ others)
      (split : results = others.map .ok ++ .error failure :: later) :
      WaitEnding index expected seen results (others.length + 1) (.error failure)
  | unseen (others : List Int) (unexpected : expected ∉ others)
      (same : results = others.map .ok) :
      WaitEnding index expected seen results others.length
        (.error (.refused (.notVisible index expected (others.getLast?.getD seen))))

variable {client : Client} {expected seen visible : Int} {delay : Binary64} {script rest : Script}
  {events : List Event} {index : String} {polls : Nat} {result : Except Failure Int}
  {first : Except Failure Int} {later : List (Except Failure Int)}

/-! ### Endings -/

/-- A wait does not go on behind its first poll, or that poll came to another count. -/
theorem WaitEnding.cons_cases
    (ending : WaitEnding index expected seen (first :: later) polls result) :
    (polls = 1 ∧ result = first ∧ ∀ count, first = .ok count → count = expected) ∨
      ∃ count behind, first = .ok count ∧ count ≠ expected ∧ polls = behind + 1 ∧
        WaitEnding index expected count later behind result := by
  -- Either no other count comes before the end, or the first poll comes to the first of them.
  cases ending with
  | visible others unexpected split =>
    cases others with
    | nil =>
      obtain ⟨rfl, -⟩ := List.cons.inj split
      exact .inl ⟨rfl, rfl, fun count same => (Except.ok.inj same).symm⟩
    | cons count others =>
      obtain ⟨rfl, rfl⟩ := List.cons.inj split
      rw [List.mem_cons, not_or] at unexpected
      exact .inr ⟨count, _, rfl, Ne.symm unexpected.1, rfl, .visible others unexpected.2 rfl⟩
  | failed others failure unexpected split =>
    cases others with
    | nil =>
      obtain ⟨rfl, -⟩ := List.cons.inj split
      exact .inl ⟨rfl, rfl, fun count same => by contradiction⟩
    | cons count others =>
      obtain ⟨rfl, rfl⟩ := List.cons.inj split
      rw [List.mem_cons, not_or] at unexpected
      exact .inr ⟨count, _, rfl, Ne.symm unexpected.1, rfl, .failed others failure unexpected.2 rfl⟩
  | unseen others unexpected same =>
    cases others with
    | nil => contradiction
    | cons count others =>
      obtain ⟨rfl, rfl⟩ := List.cons.inj same
      rw [List.mem_cons, not_or] at unexpected
      refine .inr ⟨count, _, rfl, Ne.symm unexpected.1, rfl, ?_⟩
      rw [List.getLast?_cons, Option.getD_some]
      exact .unseen others unexpected.2 rfl

/-- Behind a poll that came to another count a wait ends as if it started there. -/
theorem WaitEnding.cons (ending : WaitEnding index expected visible later polls result)
    (other : visible ≠ expected) :
    WaitEnding index expected seen (.ok visible :: later) (polls + 1) result := by
  -- The ending is of the same kind, with the count in front of the others.
  cases ending with
  | visible others unexpected split =>
    subst split
    exact .visible (visible :: others) (by simp [unexpected, other.symm]) rfl
  | failed others failure unexpected split =>
    subst split
    exact .failed (visible :: others) failure (by simp [unexpected, other.symm]) rfl
  | unseen others unexpected same =>
    subst same
    -- Where no other count follows, this one is the last one that was seen.
    have last : (visible :: others).getLast?.getD seen = others.getLast?.getD visible := by
      rw [List.getLast?_cons, Option.getD_some]
    rw [← last]
    exact .unseen (visible :: others) (by simp [unexpected, other.symm]) rfl

/-- Whatever the polls come to, a wait ends. -/
theorem exists_waitEnding (index : String) (expected : Int) (results : List (Except Failure Int)) :
    ∀ seen, ∃ polls result, WaitEnding index expected seen results polls result := by
  -- Each poll that does not end the wait is the last one seen by those behind it.
  induction results with
  | nil => exact fun seen => ⟨_, _, .unseen [] (by simp) rfl⟩
  | cons first later ih =>
    intro seen
    cases first with
    | error failure => exact ⟨_, _, .failed [] failure (by simp) rfl⟩
    | ok count =>
      by_cases same : count = expected
      · subst same
        exact ⟨_, _, .visible [] (by simp) rfl⟩
      · obtain ⟨polls, result, ending⟩ := ih count
        exact ⟨_, _, ending.cons same⟩

/-- No poll is made only where none may be. -/
theorem WaitEnding.polls_eq_zero_iff {results : List (Except Failure Int)}
    (ending : WaitEnding index expected seen results polls result) :
    polls = 0 ↔ results = [] := by
  cases ending with
  | visible _ _ split | failed _ _ _ split => simp [split]
  | unseen _ _ same => simp [same]

/-! ### Counts that are told -/

/-- A reply that tells a count is the answer to a request that went well. -/
theorem Reply.count?_eq_some {reply : Reply} {number : Int} (told : reply.count? = some number) :
    ∃ response payload, reply = .answered response ∧ response.status < 400 ∧
      Json.read? response.body = some payload ∧
        Client.member? "count" payload = some (.int number) := by
  rw [Reply.count?] at told
  split at told
  next found =>
    obtain rfl := Option.some.inj told
    obtain ⟨payload, held, member⟩ := Option.bind_eq_some_iff.1 found
    cases reply with
    | failed fault message => contradiction
    | answered response =>
      obtain ⟨success, read⟩ := Option.ite_none_right_eq_some.1 held
      exact ⟨response, payload, rfl, success, read, member⟩
  next => contradiction

/-- A count that is told at once takes one request and no pause. -/
theorem Client.count_tried (client : Client) {reply : Reply} {more : List Reply} {number : Int}
    (told : reply.count? = some number) (next : script.replies = reply :: more) :
    (client.count.replay script).Tried (client.request .get "_count" none) [] more
      (.ok number) := by
  obtain ⟨response, payload, rfl, success, read, member⟩ := Reply.count?_eq_some told
  have answered : (script.behind 0).reply.1 = .answered response := by
    rw [Script.reply_behind_fst, next]
    rfl
  have final : ¬ (script.behind 0).reply.1.Retryable := by
    rw [answered]
    -- No status of success is among those that are tried again.
    rintro ⟨listed⟩
    exact (passingStatuses_bound listed).1 success
  -- The first attempt is there for any client, and it is the only one.
  have spared : 0 < client.maxAttempts := Nat.succ_pos _
  have tried := respond_final (client.request .get "_count" none) spared (Nat.zero_le 1024)
    (by simp) final
  rw [answered, next] at tried
  rw [Client.count, Client.answer, Exchange.bind_assoc]
  refine tried.bind ?_
  rw [requireSuccess_eq, if_pos success]
  simp only [read, member, pure, bind, Exchange.bind]
  exact .done _

/-- Counts that are told at once are the results of as many polls. -/
theorem results_counts (client : Client) {replies : List Reply} {numbers : List Int}
    (told : List.Forall₂ (fun reply number => reply.count? = some number) replies numbers) :
    ∀ {script : Script}, script.replies = replies →
      (client.counts numbers.length script).map Outcome.result = numbers.map .ok := by
  -- Each count takes one reply, and leaves the others to those behind it.
  induction told with
  | nil => exact fun _ => rfl
  | cons first _ ih =>
    intro script same
    have tried := client.count_tried first same
    rw [List.length_cons, Client.counts, List.map_cons, List.map_cons, tried.result, ih tried.rest]

/-! ### Polls -/

/-- The first poll ends the wait with the count that is expected, or with a failure. -/
theorem poll_ends (delay : Binary64) (number : Nat) (seen : Int) (left : Nat)
    (counted : client.count.replay script = ⟨result, events, rest⟩)
    (ends : ∀ count, result = .ok count → count = expected) :
    let outcome := (client.poll expected delay number seen (left + 1)).replay script
    outcome.result = result ∧ outcome.deeds = (client.count.replay script).deeds := by
  rw [Client.poll, counted]
  cases result with
  | error failure =>
    rw [replay_bind_error counted]
    exact ⟨rfl, rfl⟩
  | ok count =>
    obtain rfl := ends count rfl
    rw [replay_bind_ok counted]
    simp only [beq_self_eq_true, if_true]
    -- All that is left is to log the count.
    exact ⟨rfl, by rw [Outcome.deeds, List.filter_append]; exact List.append_nil _⟩

/-- Behind another count the wait goes on, with a pause unless no poll is left. -/
theorem poll_goesOn (delay : Binary64) (number : Nat) (seen : Int) (left : Nat)
    (counted : client.count.replay script = ⟨.ok visible, events, rest⟩)
    (other : visible ≠ expected) :
    let outcome := (client.poll expected delay number seen (left + 1)).replay script
    let following := (client.poll expected delay (number + 1) visible left).replay rest
    outcome.result = following.result ∧
      outcome.deeds = (client.count.replay script).deeds ++
        ((if left = 0 then [] else [.paused delay]) ++ following.deeds) := by
  rw [Client.poll, counted, replay_bind_ok counted]
  simp only [beq_iff_eq, other, if_false]
  -- Whether a pause follows depends on there being another poll.
  cases left <;> exact ⟨rfl, by rw [Outcome.deeds, List.filter_append]; rfl⟩

/-- A wait ends as its polls tell, and makes as many of them as that takes. -/
theorem poll_ending (client : Client) (expected : Int) (delay : Binary64) (left : Nat) :
    ∀ (number : Nat) {seen : Int} {script : Script} {polls : Nat} {result : Except Failure Int},
      WaitEnding client.index expected seen ((client.counts left script).map Outcome.result) polls
          result →
        let outcome := (client.poll expected delay number seen left).replay script
        outcome.result = result ∧ outcome.Polled client delay script polls := by
  -- Poll by poll the script gets shorter and another count is seen, so these stay quantified over.
  induction left with
  | zero =>
    intro number seen script polls result ending
    cases ending with
    | visible | failed => simp [Client.counts] at *
    | unseen others _ same =>
      obtain rfl : others = [] := by simpa [Client.counts] using same.symm
      exact ⟨rfl, rfl⟩
  | succ left ih =>
    intro number seen script polls result ending
    have counted : client.count.replay script = ⟨(client.count.replay script).result,
      (client.count.replay script).events, (client.count.replay script).rest⟩ := rfl
    obtain ⟨rfl, rfl, ends⟩ | ⟨visible, behind, found, other, rfl, goesOn⟩ := ending.cons_cases
    · -- The poll is the only one, so that its deeds are all that is done.
      obtain ⟨ended, deeds⟩ := poll_ends delay number seen left counted ends
      exact ⟨ended, by simpa [Outcome.Polled, Client.counts] using deeds⟩
    · rw [found] at counted
      obtain ⟨ended, deeds⟩ := poll_goesOn delay number seen left counted other
      obtain ⟨following, polled⟩ := ih (number + 1) goesOn
      refine ⟨ended.trans following, ?_⟩
      -- Polls follow exactly where some are left, as a wait makes one if it may.
      have none_iff : behind = 0 ↔ left = 0 := by
        rw [goesOn.polls_eq_zero_iff]
        cases left <;> simp [Client.counts]
      rw [Outcome.Polled, deeds, polled, Client.counts, List.map_cons]
      cases behind with
      | zero => simp [none_iff.1 rfl, Client.counts]
      | succ behind =>
        -- Another poll is made behind the pause.
        have more : left ≠ 0 := fun none => by simpa using none_iff.2 none
        rw [if_neg more, List.intercalate_cons_of_ne_nil (by simp [Client.counts]),
          List.append_assoc]

/--
A wait polls until the expected count is told, until a poll fails, or until no poll is left.

Between each two polls it pauses once, and a greater count is no more a success than a smaller one.
-/
theorem waitFor_endings (client : Client) (expected attempts : Int) (delay : Binary64)
    (script : Script) :
    let outcome := (client.waitFor expected attempts delay).replay script
    -- These are the results of all polls that may be made; a negative number stands for none.
    let results := (client.counts attempts.toNat script).map Outcome.result
    (∀ polls result, WaitEnding client.index expected (-1) results polls result →
        outcome.result = result ∧ outcome.Polled client delay script polls) ∧
      (∃ polls, WaitEnding client.index expected (-1) results polls outcome.result) ∧
      (∀ value, outcome.result = .ok value → value = expected) ∧
      ∀ found, (Failure.refused (.notVisible client.index expected found)).message =
        "Expected " ++ intText expected ++ " documents in " ++ client.index ++ ", found " ++
          intText found := by
  intro outcome results
  have told : ∀ polls result, WaitEnding client.index expected (-1) results polls result →
      outcome.result = result ∧ outcome.Polled client delay script polls :=
    fun polls result => poll_ending client expected delay attempts.toNat 1
  -- One of the endings comes true, and it is the one that the wait comes to.
  obtain ⟨polls, result, ending⟩ := exists_waitEnding client.index expected results (-1)
  obtain rfl : outcome.result = result := (told polls result ending).1
  refine ⟨told, ⟨polls, ending⟩, fun value visible => ?_, fun found => rfl⟩
  rw [visible] at ending
  cases ending
  rfl

/-- More documents than are expected are not waited for in vain if some of them go away. -/
theorem waitFor_endings_greater :
    let client : Client := ⟨"http://localhost:9200", "books", .whole 10, 0, none⟩
    let reply : Int → Reply := fun number =>
      .answered ⟨200, Json.render .compact (.object [("count", .int number)])⟩
    let script : Script := ⟨[reply 3, reply 2], fun _ => .zero⟩
    let outcome := (client.waitFor 2 2 standardDelay).replay script
    outcome.result = .ok 2 ∧ outcome.Polled client standardDelay script 2 := by
  intro client reply script outcome
  have told : ∀ number : Int, (Nat.toDigits 10 number.natAbs).length ≤ digitLimit →
      (reply number).count? = some number := by
    intro number short
    have document : Json.IsDocument (some digitLimit) (.object [("count", .int number)]) :=
      .object (by simp) (by simpa using .int (by simpa using short))
    have read : Json.read? (Json.render .compact (.object [("count", .int number)])) = _ :=
      document.readWithin?_render .compact
    simp only [Reply.count?, Reply.payload?, reply, read]
    rfl
  have results : (client.counts 2 script).map Outcome.result = [3, 2].map .ok :=
    results_counts client (.cons (told 3 (by decide)) (.cons (told 2 (by decide)) .nil)) rfl
  have ends := waitFor_endings client 2 2 standardDelay script
  exact ends.1 2 (.ok 2) (.visible [3] (by decide) results)

end BooleanSearch.Backend
