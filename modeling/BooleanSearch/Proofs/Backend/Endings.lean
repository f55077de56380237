import BooleanSearch.Proofs.Backend.Operations
import BooleanSearch.Proofs.Settings.Attempts

/-! How requests end: well up to 1025 attempts, and for want of a pause behind the 1025th one. -/

namespace BooleanSearch.Backend

open Number

/-- An ending that tells of the backend: a response, a refusal, or a request that cannot be sent. -/
inductive IsEnding : Except Failure Response → Prop
  | response (response : Response) : IsEnding (.ok response)
  | refused (refusal : Refusal) : IsEnding (.error (.refused refusal))
  | unsendable {fault : Fault} {message : String}
      (hopeless : ¬ (Reply.failed fault message).Retryable) :
      IsEnding (.error (.unsendable fault message))

variable {request : Request} {client : Client} {script : Script}

theorem Reply.isEnding {reply : Reply} (final : ¬ reply.Retryable) : IsEnding reply.ending := by
  cases reply with
  | answered response => exact .response response
  | failed fault message => exact .unsendable final

/-- Among the next replies there is a first one that ends the attempts, or all are retryable. -/
theorem Script.retryable_or_final (script : Script) (count : Nat) :
    (∀ index < count, (script.behind index).reply.1.Retryable) ∨
      ∃ retries < count, (∀ index < retries, (script.behind index).reply.1.Retryable) ∧
        ¬ (script.behind retries).reply.1.Retryable := by
  -- The search goes from the first reply on, one more of them at a time.
  induction count with
  | zero => exact .inl (by simp)
  | succ count ih =>
    obtain retryable | ⟨retries, below, retryable, final⟩ := ih
    · -- All replies before the last one are retryable, so that it is the first one if it is not.
      by_cases last : (script.behind count).reply.1.Retryable
      · left
        intro index below
        obtain earlier | rfl := Nat.lt_succ_iff_lt_or_eq.1 below
        · exact retryable index earlier
        · exact last
      · exact .inr ⟨count, Nat.lt_succ_self count, retryable, last⟩
    · exact .inr ⟨retries, Nat.lt_succ_of_lt below, retryable, final⟩

theorem Outcome.Tried.isPause {outcome : Outcome ε α} {number retries : Nat} {rest : List Reply}
    {result : Except ε α} (tried : outcome.Tried request (script.pauses number retries) rest result)
    (random : ∀ index, IsRandomPart (script.draws index)) :
    ∀ pause ∈ outcome.pauses, IsPause pause := by
  intro pause made
  -- A pause that was made is one of those that could be reckoned.
  have listed : some pause ∈ script.pauses number retries := by
    rw [← tried.pauses]
    exact List.mem_map_of_mem made
  obtain ⟨index, -, reckoned⟩ := List.mem_map.1 listed
  exact isPause_of_pauseBehind (random index) reckoned

theorem Client.maxAttempts_ofSettings {settings : BackendSettings} (environment : Environment)
    (positive : 0 < settings.maxAttempts) :
    ((Client.ofSettings settings environment).maxAttempts : Int) = settings.maxAttempts := by
  simp only [Client.ofSettings, Client.make, Client.maxAttempts]
  omega

/--
A request is tried up to some reply, with what that leads to.

Then it ends well, or the first 1025 replies are retryable and more than 1025 attempts may be made.
-/
theorem respond_tried (client : Client) (request : Request) (script : Script) :
    ∃ retries rest result,
      ((client.respond request).replay script).Tried request (script.pauses 1 retries) rest
          result ∧
        (IsEnding result ∨ (1025 < client.maxAttempts ∧
          ∀ index < 1025, (script.behind index).reply.1.Retryable)) := by
  obtain retryable | ⟨retries, below, retryable, final⟩ :=
    script.retryable_or_final (min client.maxAttempts 1025)
  · -- All attempts fail, or there are more of them than pauses.
    by_cases few : client.maxAttempts ≤ 1025
    · rw [Nat.min_eq_left few] at retryable
      obtain ⟨cause, -, tried⟩ := respond_exhausted request few retryable
      exact ⟨_, _, _, tried, .inl (.refused _)⟩
    · have many : 1025 < client.maxAttempts := Nat.lt_of_not_le few
      rw [Nat.min_eq_right (Nat.le_of_lt many)] at retryable
      exact ⟨_, _, _, respond_endless request many retryable, .inr ⟨many, retryable⟩⟩
  · -- The first reply that is not retryable ends the attempts, before they or the pauses run out.
    have spared : retries < client.maxAttempts := by omega
    have tried := respond_final request spared (by omega) retryable final
    exact ⟨_, _, _, tried, .inl (Reply.isEnding final)⟩

/--
With settings that are accepted a request ends well, unless more than 1025 attempts may be made.

If the first 1025 of them fail then, the pause behind them cannot be reckoned, although it would be
cut down to eight seconds.
-/
theorem respond_endings {root : Entries} {settings : Settings}
    (accepted : Settings.ofEntries root = .ok settings) (environment : Environment)
    (request : Request) (script : Script)
    (random : ∀ index, IsRandomPart (script.draws index)) :
    let attempts := settings.backend.maxAttempts
    let outcome := ((Client.ofSettings settings.backend environment).respond request).replay script
    let fails := fun index => (script.behind index).reply.1.Retryable
    (∀ attempt drawn, (pauseBehind attempt drawn).isSome ↔ attempt ≤ 1024) ∧
      (∀ pause ∈ outcome.pauses, IsPause pause) ∧
      (attempts ≤ 1025 ∨ (∃ index < 1025, ¬ fails index) → IsEnding outcome.result) ∧
      (attempts ≤ 1025 → (∀ index < attempts.toNat, fails index) →
        outcome.requests = List.replicate attempts.toNat request ∧
          ∃ cause, outcome.result = .error (.refused (.exhausted request attempts.toNat cause))) ∧
      (1025 < attempts → (∀ index < 1025, fails index) →
        outcome.requests = List.replicate 1025 request ∧ outcome.result = .error .endlessPause) := by
  intro attempts outcome fails
  have bound : (_ : Int) = attempts :=
    Client.maxAttempts_ofSettings environment (Settings.maxAttempts_pos accepted)
  obtain ⟨retries, rest, result, tried, ends⟩ :=
    respond_tried (Client.ofSettings settings.backend environment) request script
  refine ⟨pauseBehind_isSome_iff, tried.isPause random, ?_, ?_, ?_⟩
  · intro well
    have ended : outcome.result = result := tried.result
    rw [ended]
    -- Too many failures are excluded by either half of the condition.
    apply ends.resolve_right
    intro ⟨many, retryable⟩
    obtain few | ⟨index, below, final⟩ := well
    · omega
    · exact final (retryable index below)
  · intro few failed
    have count : attempts.toNat = (Client.ofSettings settings.backend environment).maxAttempts := by
      omega
    have reckoned : (Client.ofSettings settings.backend environment).maxAttempts ≤ 1025 := by omega
    rw [count] at failed ⊢
    obtain ⟨cause, -, all⟩ := respond_exhausted request reckoned failed
    exact ⟨all.length_pauses.1, cause, all.result⟩
  · intro many failed
    have beyond : 1025 < (Client.ofSettings settings.backend environment).maxAttempts := by omega
    have all := respond_endless request beyond failed
    exact ⟨all.length_pauses.1, all.result⟩

/-- With 1026 attempts allowed, a backend that never answers is asked 1025 times in vain. -/
theorem respond_endings_silence :
    let backend := { BackendSettings.standard with maxAttempts := 1026 }
    let client := Client.ofSettings backend []
    let request := Operation.count.request client
    let outcome := (client.respond request).replay ⟨[], fun _ => .zero⟩
    Settings.ofEntries (Settings.attemptsOnly 1026) = .ok { Settings.standard with backend } ∧
      IsRandomPart .zero ∧ (∀ pause ∈ outcome.pauses, IsPause pause) ∧
        outcome.requests = List.replicate 1025 request ∧
          outcome.result = .error .endlessPause := by
  intro backend client request outcome
  have accepted : Settings.ofEntries (Settings.attemptsOnly 1026) =
      .ok { Settings.standard with backend } := Settings.ofEntries_attemptsOnly (by decide)
  have random : IsRandomPart .zero := ⟨by decide, by decide +kernel, by decide +kernel⟩
  have silent (index : Nat) :
      (Script.behind ⟨[], fun _ => .zero⟩ index).reply.1.Retryable := by
    have unanswered : (Script.behind ⟨[], fun _ => .zero⟩ index).reply.1 = .silence := by
      simp [Script.behind, Script.reply]
    rw [unanswered]
    exact .unreached _ (by decide)
  obtain ⟨-, pauses, -, -, endless⟩ := respond_endings accepted [] request
    ⟨[], fun _ => .zero⟩ fun _ => random
  obtain ⟨requests, result⟩ := endless (by decide) fun index _ => silent index
  exact ⟨accepted, random, pauses, requests, result⟩

end BooleanSearch.Backend
