import BooleanSearch.Proofs.Backend.Searching
import BooleanSearch.Proofs.Number.Decimals
import BooleanSearch.Proofs.Text.Parts

/-! Hits as a reader sees them: all that are found, in their order, and numbered from one on, each
with its title, its authors and its year. -/

namespace BooleanSearch.Backend

open Number

/-- The entries of a value that is an object. -/
def entries? : Value → Option Entries
  | .mapping entries => some entries
  | _ => none

/-- The document that a hit holds; where none is given it is an empty object. -/
def sourceIn (hit : Entries) : Value :=
  (Entries.getText? "_source" hit).getD (.mapping [])

/-- Lines as one text, each of them ended. -/
def ended (lines : List String) : String :=
  String.join (lines.map (· ++ "\n"))

/-- The block about a hit of some rank. -/
def hitBlock (rank : Nat) (hit : Entries) : String :=
  ended (hitLines rank hit)

/-- The blocks about hits in a row, the first of which has some rank. -/
def blocksFrom (rank : Nat) (hits : List Entries) : String :=
  String.join (hits.mapIdx fun index hit => hitBlock (rank + index) hit)

/-! ### Searches -/

/-- A search is a run of attempts, and the last reply tells what is found. -/
theorem Client.search_asks (client : Client) (document : Value) :
    (client.search document).Asks (client.request .post "_search" (some document))
      client.maxAttempts fun reply =>
        reply.payload?.bind fun payload => (hitsOf payload).toOption :=
  (client.answer_asks _).bind fun payload => ⟨.done _, fun script found => by
    -- A payload in which hits cannot be looked up tells nothing.
    cases hitsOf payload <;> simp [Exchange.ofExcept, Except.toOption]⟩

/-- The documents of hits are those of the objects among them. -/
theorem filterMap_sourceOf? (hits : List Value) :
    hits.filterMap sourceOf? = (hits.filterMap entries?).map sourceIn := by
  rw [List.map_filterMap]
  congr 1
  funext hit
  cases hit <;> rfl

/-- An answer that a search gets and that holds hits is the last one, and tells what is found. -/
theorem search_found {client : Client} {document payload : Value} {script : Script}
    {response : Response} {hits : List Value}
    (got : (client.request .post "_search" (some document), .answered response) ∈
      ((client.search document).replay script).exchanged) (success : response.status < 400)
    (read : Json.read? response.body = some payload) (holds : HoldsHits payload hits) :
    ((client.search document).replay script).result =
      .ok ((hits.filterMap entries?).map sourceIn) := by
  obtain ⟨earlier, last, sent, passing, -, told⟩ := client.search_asks document script
  have payload? : (Reply.answered response).payload? = some payload := by
    simp [Reply.payload?, success, read]
  rw [sent] at got
  obtain ⟨reply, member, same⟩ := List.mem_map.1 got
  obtain rfl : reply = .answered response := congrArg Prod.snd same
  -- No other attempt is made behind an answer that holds something.
  obtain before | rfl := (List.mem_append.1 member).imp id List.mem_singleton.1
  · obtain ⟨answer, final, -⟩ := Reply.final?_of_payload? payload?
    rw [(passing _ before).final?] at final
    contradiction
  · rw [told]
    simp only [payload?, Option.bind_some, holds.hitsOf, filterMap_sourceOf?, Except.toOption]

/-! ### What is told of a hit -/

/-- What the authors of a hit are given as: their names in a row, or a value on its own that does not
count as nothing. -/
inductive CreditedTo : Value → String → Prop
  | names {names : List Value} (some : ", ".intercalate (names.map Value.shown) ≠ "") :
      CreditedTo (.list names) (", ".intercalate (names.map Value.shown))
  | value {value : Value} (noList : ∀ names, value ≠ .list names)
      (something : value.isNothing = false) : CreditedTo value value.shown

/-- Authors are told exactly as they are given. -/
theorem authorText?_eq_some_iff {held : Option Value} {text : String} :
    authorText? held = some text ↔ ∃ value, held = some value ∧ CreditedTo value text := by
  constructor
  · intro told
    unfold authorText? at told
    split at told
    · contradiction
    · -- Names that are all empty make up no line.
      obtain ⟨some, same⟩ := Option.ite_none_left_eq_some.1 told
      obtain rfl := Option.some.inj same
      exact ⟨_, rfl, .names (by simpa using some)⟩
    · rename_i value noList
      obtain ⟨something, same⟩ := Option.ite_none_left_eq_some.1 told
      obtain rfl := Option.some.inj same
      exact ⟨value, rfl, .value noList (by simpa using something)⟩
  · rintro ⟨value, rfl, credited⟩
    cases credited with
    | names some => simp [authorText?, some]
    | value noList something =>
      cases value with
      | list names => exact absurd rfl (noList names)
      | scalar | mapping => simp [authorText?, something]

/-- Every year but an absent one is told. -/
theorem yearText?_eq_some_iff {held : Option Value} {text : String} :
    yearText? held = some text ↔ ∃ value, held = some value ∧ value ≠ .null ∧ text = value.shown := by
  constructor
  · intro told
    unfold yearText? at told
    split at told
    · contradiction
    · contradiction
    · rename_i value noNull
      exact ⟨value, rfl, noNull, (Option.some.inj told).symm⟩
  · rintro ⟨value, rfl, notNull, rfl⟩
    unfold yearText?
    split
    · contradiction
    · rename_i same
      exact absurd (Option.some.inj same) notNull
    · rename_i same
      exact congrArg _ (congrArg _ (Option.some.inj same).symm)

/-- A hit has a line with its rank and its title, one for its authors and one for its year, and no
others. -/
theorem mem_hitLines_iff (rank : Nat) (hit : Entries) (line : String) :
    line ∈ hitLines rank hit ↔
      line = intText rank ++ ". " ++ ((hit.getText? "title").map Value.shown).getD "-" ∨
      (∃ authors text, hit.getText? "author" = some authors ∧ CreditedTo authors text ∧
        line = "   Author: " ++ text) ∨
      ∃ year, hit.getText? "publication_year" = some year ∧ year ≠ .null ∧
        line = "   Year: " ++ year.shown := by
  simp only [hitLines, List.mem_cons, List.mem_append, Option.mem_toList,
    Option.map_eq_some_iff, authorText?_eq_some_iff, yearText?_eq_some_iff]
  grind

/-- What is in a line about a hit is in the block about it. -/
theorem holds_hitBlock {rank : Nat} {hit : Entries} {line part : String}
    (member : line ∈ hitLines rank hit) (inside : Text.Holds line part) :
    Text.Holds (hitBlock rank hit) part := by
  -- In the block the line stands with its end.
  have whole : Text.Holds (hitBlock rank hit) (line ++ "\n") := by
    rw [hitBlock, ended]
    exact Text.holds_join (List.mem_map.2 ⟨line, member, rfl⟩)
  exact (whole.trans (Text.holds_append_left line "\n")).trans inside

/-- The block about a hit tells its title, each of its authors and its year. -/
theorem hitBlock_tells (rank : Nat) (hit : Entries) :
    (∀ title, hit.getText? "title" = some title →
      Text.Holds (hitBlock rank hit) title.shown) ∧
    (∀ names, hit.getText? "author" = some (.list names) → ∀ name ∈ names,
      Text.Holds (hitBlock rank hit) name.shown) ∧
    (∀ author, hit.getText? "author" = some author → (∀ names, author ≠ .list names) →
      author.isNothing = false → Text.Holds (hitBlock rank hit) author.shown) ∧
    ∀ year, hit.getText? "publication_year" = some year → year ≠ .null →
      Text.Holds (hitBlock rank hit) year.shown := by
  -- Each of them ends a line of its own, and every line is in the block as it is.
  refine ⟨fun title found => ?_, fun names found name among => ?_,
    fun author found noList something => ?_, fun year found notNull => ?_⟩
  · refine holds_hitBlock ((mem_hitLines_iff rank hit _).2 (.inl rfl)) ?_
    rw [found, Option.map_some, Option.getD_some]
    exact Text.holds_append_right _ _
  · have inJoined : Text.Holds (", ".intercalate (names.map Value.shown)) name.shown :=
      Text.holds_intercalate _ (List.mem_map_of_mem among)
    by_cases some : ", ".intercalate (names.map Value.shown) = ""
    · -- Then the name is shown as nothing, which stands in every text.
      rw [some, Text.Holds, String.toList_empty, List.infix_nil] at inJoined
      rw [Text.Holds, inJoined]
      exact List.nil_infix
    · exact holds_hitBlock
        ((mem_hitLines_iff rank hit _).2 (.inr (.inl ⟨_, _, found, .names some, rfl⟩)))
        ((Text.holds_append_right _ _).trans inJoined)
  · exact holds_hitBlock
      ((mem_hitLines_iff rank hit _).2 (.inr (.inl ⟨_, _, found, .value noList something, rfl⟩)))
      (Text.holds_append_right _ _)
  · exact holds_hitBlock
      ((mem_hitLines_iff rank hit _).2 (.inr (.inr ⟨_, found, notNull, rfl⟩)))
      (Text.holds_append_right _ _)

/-! ### Blocks -/

theorem ended_append (lines others : List String) :
    ended (lines ++ others) = ended lines ++ ended others := by
  simp [ended]

/-- Lines that are all ended have ends between them, and one behind the last of them. -/
theorem ended_eq {lines : List String} (some : lines ≠ []) :
    ended lines = "\n".intercalate lines ++ "\n" := by
  induction lines with
  | nil => contradiction
  | cons line rest ih =>
    cases rest with
    | nil => simp [ended]
    | cons next rest =>
      have later : ended (line :: next :: rest) = line ++ "\n" ++ ended (next :: rest) := by
        simp [ended]
      rw [later, ih (by simp), String.intercalate_cons_cons]
      simp only [String.append_assoc]

/-- The block about a hit starts with its rank. -/
theorem exists_hitBlock (rank : Nat) (hit : Entries) :
    ∃ rest, hitBlock rank hit = intText rank ++ ". " ++ rest := by
  simp only [hitBlock, hitLines, ended, List.cons_append, List.map_cons, String.join_cons,
    String.append_assoc]
  exact ⟨_, rfl⟩

theorem blocksFrom_cons (rank : Nat) (hit : Entries) (rest : List Entries) :
    blocksFrom rank (hit :: rest) = hitBlock rank hit ++ blocksFrom (rank + 1) rest := by
  simp [blocksFrom, List.mapIdx_cons, Nat.add_assoc, Nat.add_comm 1]

/-- The blocks about hits are those about the first ones, and then those about the others. -/
theorem blocksFrom_append (hits others : List Entries) : ∀ rank,
    blocksFrom rank (hits ++ others) =
      blocksFrom rank hits ++ blocksFrom (rank + hits.length) others := by
  -- The rank goes up along the hits, so it stays quantified over.
  induction hits with
  | nil => exact fun rank => by simp [blocksFrom]
  | cons hit rest ih =>
    intro rank
    rw [List.cons_append, blocksFrom_cons, blocksFrom_cons, ih, String.append_assoc,
      List.length_cons, Nat.add_assoc, Nat.add_comm 1]

/-- The lines about objects make up the blocks about them. -/
theorem exists_linesFrom (hits : List Entries) : ∀ rank, ∃ lines,
    linesFrom rank (hits.map .mapping) = .ok lines ∧ ended lines = blocksFrom rank hits := by
  -- Hits have lines in different numbers, so that only the ended text tells the blocks apart.
  induction hits with
  | nil => exact fun _ => ⟨[], rfl, rfl⟩
  | cons hit rest ih =>
    intro rank
    obtain ⟨lines, told, blocks⟩ := ih (rank + 1)
    refine ⟨hitLines rank hit ++ lines, ?_, ?_⟩
    · rw [List.map_cons, linesFrom, told]
      rfl
    · rw [ended_append, blocks, blocksFrom_cons, hitBlock]

/-- Blocks have dots behind their ranks. -/
theorem dot_mem_blocksFrom {hits : List Entries} (some : hits ≠ []) (rank : Nat) :
    '.' ∈ (blocksFrom rank hits).toList := by
  obtain ⟨hit, rest, rfl⟩ := List.exists_cons_of_ne_nil some
  obtain ⟨text, start⟩ := exists_hitBlock rank hit
  simp [blocksFrom_cons, start]

/-- Objects are listed in blocks, and only where there are none it is said so. -/
theorem listing_objects (hits : List Entries) : listing (hits.map .mapping) =
    .ok (if hits = [] then "No hits\n" else blocksFrom 1 hits) := by
  obtain ⟨lines, told, blocks⟩ := exists_linesFrom hits 1
  by_cases none : hits = []
  · subst none
    rfl
  · have dot := dot_mem_blocksFrom none 1
    rw [if_neg none, ← blocks, listing, told]
    rw [← blocks] at dot
    -- There are no blocks without lines.
    cases lines with
    | nil => simp [ended] at dot
    | cons line others =>
      rw [ended_eq (List.cons_ne_nil _ _)]
      rfl

/--
A search finds the documents of all hits in their order, and they are listed by their rank.

Each hit has a block of its own, which starts with its rank and tells nothing of the other hits.
Blocks of further hits are put behind those that are listed, or in the place of their absence.
-/
theorem hits_listed :
    (∀ (client : Client) (document payload : Value) (script : Script) (response : Response)
      (hits : List Value),
      let request := client.request .post "_search" (some document)
      let outcome := (client.search document).replay script
      (request, .answered response) ∈ outcome.exchanged → response.status < 400 →
        Json.read? response.body = some payload → HoldsHits payload hits →
          outcome.result = .ok ((hits.filterMap entries?).map sourceIn)) ∧
    (∀ hits : List Entries,
      (listing (hits.map .mapping) = .ok "No hits\n" ↔ hits = []) ∧
        (hits ≠ [] → listing (hits.map .mapping) =
          .ok (String.join (hits.mapIdx fun index hit => hitBlock (1 + index) hit)))) ∧
    (∀ rank hit, ∃ rest, hitBlock rank hit = intText rank ++ ". " ++ rest) ∧
    (∀ rank hits others, blocksFrom rank (hits ++ others) =
      blocksFrom rank hits ++ blocksFrom (rank + hits.length) others) ∧
    ∀ hits others : List Entries, listing ((hits ++ others).map .mapping) =
      if hits = [] then listing (others.map .mapping)
      else (listing (hits.map .mapping)).map (· ++ blocksFrom (hits.length + 1) others) := by
  refine ⟨?_, fun hits => ⟨?_, fun some => ?_⟩, exists_hitBlock,
    fun rank hits others => blocksFrom_append hits others rank, fun hits others => ?_⟩
  · intro client document payload script response hits request outcome got status read holds
    exact search_found got status read holds
  · rw [listing_objects]
    constructor
    · intro none
      by_contra some
      rw [if_neg some] at none
      -- There is no dot in what is said of no hits.
      have dot := dot_mem_blocksFrom some 1
      rw [Except.ok.inj none] at dot
      simp at dot
    · rintro rfl
      rfl
  · rw [listing_objects, if_neg some, blocksFrom]
  · split
    next none => rw [none, List.nil_append]
    next some =>
      rw [listing_objects, listing_objects, if_neg some, if_neg (by simp [some]),
        blocksFrom_append, Nat.add_comm 1]
      rfl

/-- Behind a busy backend a hit without a document is listed, and what is no hit is passed over. -/
theorem hits_listed_mixed :
    let client : Client := ⟨"http://localhost:9200", "books", .whole 10, 1, none⟩
    let emma : Value := .object [("title", .text "Emma")]
    let hits : List Value := [.null, .object [("_source", emma)], .object []]
    let payload : Value := .object [("hits", .object [("hits", .list hits)])]
    let response : Response := ⟨200, Json.render .compact payload⟩
    let script : Script := ⟨[.answered ⟨503, "busy"⟩, .answered response], fun _ => .zero⟩
    let outcome := (client.search (.object [])).replay script
    outcome.result = .ok [emma, .object []] ∧
      listing [emma, .object []] = .ok "1. Emma\n2. -\n" := by
  intro client emma hits payload response script outcome
  have each : ∀ hit ∈ hits, Json.IsDocument (some digitLimit) hit := by
    have named : Json.IsDocument (some digitLimit) emma :=
      .object (by simp) (by simpa using .text "Emma")
    simp only [hits, List.forall_mem_cons]
    exact ⟨.null, .object (by simp) (by simpa using named), .object (by simp) (by simp), by simp⟩
  have document : Json.IsDocument (some digitLimit) payload :=
    .object (by simp) (by simpa using .object (by simp) (by simpa using .list each))
  have read : Json.read? response.body = some payload := document.readWithin?_render .compact
  have got : (client.request .post "_search" (some (.object [])), .answered response) ∈
      outcome.exchanged := by
    have paused : pauseBehind 1 .zero = some (.ofHundredths 50) := by decide +kernel
    simp [outcome, client, script, paused, search_eq, Client.respond, attemptsFrom, attempt,
      pauseBefore, Reply.verdict, passingStatuses, response, Exchange.replay, Exchange.bind,
      Exchange.debug, Exchange.wait, Exchange.random, Exchange.ask, bind, pure, Script.reply,
      Script.draw, Outcome.after, Outcome.exchanged]
  obtain ⟨found, lists, -⟩ := hits_listed
  refine ⟨found client _ payload script response hits got (by decide) read ⟨rfl, rfl⟩, ?_⟩
  exact (lists [[(.text "title", .text "Emma")], []]).2 (by simp)

end BooleanSearch.Backend
