import BooleanSearch.Proofs.Query.Grammar

/-! The raw clauses that queries can express, and the texts that they are printed as. -/

namespace BooleanSearch.Query

/-- A value that terms can have behind an operator. -/
structure IsTermValue (operator : Option String) (value : String) : Prop where
  /-- There is something to look for. -/
  nonempty : value ≠ ""
  /-- Nothing in the value would end the term. -/
  plain : ∀ c ∈ value.toList, isSpace c = false ∧ c ≠ '"'
  /-- Without an operator nothing in the value is read as one. -/
  unsigned : operator = none → OpensUnsigned value.toList

/-- A value that phrases can have: words with single spaces between them, or no words at all. -/
def IsPhraseValue (value : String) : Prop :=
  ∃ words : List String,
    (∀ word ∈ words, word ≠ "" ∧ ∀ c ∈ word.toList, isSpace c = false ∧ c ≠ '"') ∧
      value = " ".intercalate words

/-- A raw clause that can stand in a query somewhere. -/
def RawClause.Possible (raw : RawClause) : Prop :=
  (raw.operator = none ∨ raw.operator = some "+" ∨ raw.operator = some "-") ∧
    match raw.kind with
    | .term => IsTermValue raw.operator raw.value
    | .phrase => IsPhraseValue raw.value
    | .decade => IsDecade raw.value.toList
    | .unknown _ => False

/-- A term that would be read as a decade if it ended its word. -/
def RawClause.Glued (raw : RawClause) : Prop :=
  raw.kind = .term ∧ DecadeShaped raw.value.toList

/-- The clause that comes next is a phrase without an operator. -/
def NextIsBarePhrase : List RawClause → Prop
  | [] => False
  | next :: _ => next.kind = .phrase ∧ next.operator = none

/-- Raw clauses that some query lists. -/
def Expressible : List RawClause → Prop
  | [] => True
  | raw :: rest => raw.Possible ∧ (raw.Glued → NextIsBarePhrase rest) ∧ Expressible rest

/-- Whether a run has the shape of a decade is found out by reading it as one. -/
instance (run : List Char) : Decidable (DecadeShaped run) :=
  decidable_of_iff (decadeOf? run ≠ none) (by rw [ne_eq, decadeOf?_eq_none_iff, Classical.not_not])

instance (raw : RawClause) : Decidable raw.Glued :=
  inferInstanceAs (Decidable (_ ∧ _))

/-- A raw clause as it is printed: phrases stand in quotes. -/
def RawClause.text (raw : RawClause) : String :=
  raw.operator.getD "" ++ match raw.kind with
    | .phrase => "\"" ++ raw.value ++ "\""
    | _ => raw.value

/-- What is printed between a raw clause and those behind it. -/
def gap (raw : RawClause) (rest : List RawClause) : String :=
  -- A space behind a term that looks like a decade would make it one.
  if rest.isEmpty ∨ raw.Glued then "" else " "

/-- Raw clauses as they are printed. -/
def printed : List RawClause → String
  | [] => ""
  | raw :: rest => raw.text ++ gap raw rest ++ printed rest

/-! ### Queries list expressible clauses -/

/-- The operator of a spelled clause is one of the three. -/
theorem operatorText_cases (sign : Option Sign) :
    operatorText sign = none ∨ operatorText sign = some "+" ∨ operatorText sign = some "-" := by
  rcases sign with _ | _ | _ <;> simp [operatorText]

/-- A clause without an operator is spelled without a sign. -/
theorem operatorText_eq_none_iff {sign : Option Sign} : operatorText sign = none ↔ sign = none := by
  rcases sign with _ | _ | _ <;> simp [operatorText]

/-- The words of a phrase have no white space, and no quotes either. -/
theorem isPhraseValue_of_inner {inner : List Char} (inside : IsInner inner) :
    IsPhraseValue (" ".intercalate (phraseTerms (String.ofList inner))) := by
  refine ⟨_, ?_, rfl⟩
  intro word member
  simp only [phraseTerms, String.toList_ofList, List.mem_map] at member
  obtain ⟨term, member, rfl⟩ := member
  -- Words are cut out of the phrase, which has no quote inside.
  obtain ⟨⟨nonempty, plain⟩, within⟩ := (wordsOf_terms inner).isWord term member
  refine ⟨by simpa using nonempty, ?_⟩
  intro c position
  rw [String.toList_ofList] at position
  exact ⟨plain c position, (isInner_iff.1 inside).1 c (within c position)⟩

/-- A spelled clause that fits stands for a possible raw clause. -/
theorem Body.Fits.possible {sign : Option Sign} {behind : List Char} {body : Body}
    (fits : body.Fits sign behind) (space : List Char) :
    (RawClause.ofSpelling ⟨sign, body, space⟩).Possible := by
  rw [ofSpelling_eq]
  refine ⟨operatorText_cases sign, ?_⟩
  -- What fits between its neighbours is possible on its own.
  cases fits with
  | phrase inside => exact isPhraseValue_of_inner inside
  | decade shape ends => simpa [RawClause.ofSpelling] using shape
  | @term run unquoted plain =>
    refine ⟨?_, ?_, ?_⟩
    · simpa [RawClause.ofSpelling] using unquoted.nonempty
    · intro c member
      exact isTermChar_iff.1 (unquoted.termChars c (by simpa [RawClause.ofSpelling] using member))
    · intro bare
      simpa [RawClause.ofSpelling] using unquoted.unsigned (operatorText_eq_none_iff.1 bare)

/-- Clauses that open with a quote open with a phrase that has no sign. -/
theorem WellSpelled.opensPhrase {spelled : List Spelling} (well : WellSpelled spelled)
    (quote : (spelledText spelled).head? = some '"') :
    NextIsBarePhrase (spelled.map RawClause.ofSpelling) := by
  cases spelled with
  | nil => simp [spelledText] at quote
  | cons spelling rest =>
    obtain ⟨sign, body, space⟩ := spelling
    have fits : body.Fits sign (space ++ spelledText rest) := well.1
    cases sign with
    | some sign =>
      -- No sign is a quote.
      cases sign <;> simp [spelledText, Spelling.text, signText, Sign.symbol] at quote
    | none =>
      -- Without a sign the text opens as the first body does.
      obtain ⟨c, tail, opening, _⟩ := fits.opens
      simp only [spelledText, Spelling.text, signText, List.flatMap_cons, Option.map_none,
        Option.toList_none, List.nil_append, opening, List.cons_append, List.head?_cons,
        Option.some.injEq] at quote
      subst quote
      -- A run without quotes does not open with one either.
      have noQuote : ∀ run, Unquoted none run (space ++ spelledText rest) → run ≠ '"' :: tail := by
        rintro _ unquoted rfl
        exact absurd (unquoted.termChars '"' (by simp)) (by decide)
      cases fits with
      | phrase inside => exact ⟨rfl, rfl⟩
      | @decade digits suffixed shape ends =>
        exact absurd opening (noQuote _ (shape.unquoted suffixed ends none))
      | @term run unquoted plain => exact absurd opening (noQuote _ unquoted)

/-- A term with the shape of a decade is followed directly by a quote. -/
theorem Body.Fits.quote_behind {sign : Option Sign} {behind run : List Char}
    (fits : (Body.term run).Fits sign behind) (shaped : DecadeShaped run) :
    behind.head? = some '"' := by
  cases fits with
  | term unquoted plain =>
    -- A word of that shape that ended there would be a decade.
    have unbroken : ¬ atBreak behind := fun ends => plain ⟨shaped, ends⟩
    have ends := unquoted.ends
    cases behind with
    | nil => exact absurd rfl unbroken
    | cons c rest =>
      rcases ends with space | rfl
      · exact absurd space unbroken
      · rfl

/-- What a query lists is expressible. -/
theorem WellSpelled.expressible {spelled : List Spelling} (well : WellSpelled spelled) :
    Expressible (spelled.map RawClause.ofSpelling) := by
  induction spelled with
  | nil => trivial
  | cons spelling rest ih =>
    obtain ⟨sign, body, space⟩ := spelling
    obtain ⟨fits, blank, others⟩ := well
    refine ⟨fits.possible space, ?_, ih others⟩
    rintro ⟨kind, shaped⟩
    -- Only terms can be glued to the phrase behind them.
    cases body with
    | phrase inner => simp [RawClause.ofSpelling] at kind
    | decade digits suffixed => simp [RawClause.ofSpelling] at kind
    | term run =>
      have quote := fits.quote_behind (by simpa [RawClause.ofSpelling] using shaped)
      dsimp only at quote blank
      cases space with
      | nil => exact others.opensPhrase quote
      -- White space in front of the quote would have ended the word.
      | cons c tail =>
        obtain rfl : c = '"' := by simpa using quote
        exact absurd (blank '"' (by simp)) (by decide)

/-! ### Expressible clauses are printed as queries that list them -/

/-- The sign that an operator is printed as. -/
theorem exists_sign {operator : Option String}
    (known : operator = none ∨ operator = some "+" ∨ operator = some "-") :
    ∃ sign, operatorText sign = operator ∧ (operator.getD "").toList = signText sign := by
  rcases known with rfl | rfl | rfl
  · exact ⟨none, rfl, rfl⟩
  · exact ⟨some .plus, rfl, rfl⟩
  · exact ⟨some .minus, rfl, rfl⟩

/-- Between parts that are joined there is nothing but separators. -/
theorem mem_intercalate {c : α} {separator : List α} {parts : List (List α)}
    (member : c ∈ separator.intercalate parts) : c ∈ separator ∨ ∃ part ∈ parts, c ∈ part := by
  -- A single part has no separator behind it.
  induction parts with
  | nil => simp at member
  | cons part rest ih =>
    cases rest with
    | nil => exact .inr ⟨part, by simp, by simpa using member⟩
    | cons next rest =>
      simp only [List.intercalate_cons_cons, List.mem_append] at member
      rcases member with (member | between) | member
      · exact .inr ⟨part, by simp, member⟩
      · exact .inl between
      · rcases ih member with between | ⟨other, among, inside⟩
        · exact .inl between
        · exact .inr ⟨other, by simp [among], inside⟩

/-- The value of a phrase can stand between quotes, and says itself there. -/
theorem IsPhraseValue.inner {value : String} (plain : IsPhraseValue value) :
    IsInner value.toList ∧ " ".intercalate (phraseTerms value) = value := by
  obtain ⟨words, plain, rfl⟩ := plain
  -- The words of a value are words as the reader finds them.
  have isWords : ∀ word ∈ words, IsWord word.toList := fun word member =>
    ⟨by simpa using (plain word member).1, fun c inside => ((plain word member).2 c inside).1⟩
  refine ⟨?_, by rw [phraseTerms_intercalate isWords]⟩
  have single : " ".toList = [' '] := rfl
  rw [String.toList_intercalate, single, isInner_iff]
  constructor
  · intro c member
    rcases mem_intercalate member with space | ⟨word, among, inside⟩
    · obtain rfl := List.mem_singleton.1 space
      decide
    · obtain ⟨text, listed, rfl⟩ := List.mem_map.1 among
      exact ((plain text listed).2 c inside).2
  · intro nonempty
    cases words with
    | nil => simp at nonempty
    | cons word rest =>
      -- The value opens as its first word does.
      obtain ⟨wordNonempty, wordPlain⟩ := isWords word (by simp)
      obtain ⟨c, tail, opening⟩ := List.exists_cons_of_ne_nil wordNonempty
      rw [opening] at wordPlain
      cases rest <;> simp [List.intercalate_cons_cons, opening, atBreak, wordPlain c (by simp)]

/-- A possible raw clause is spelled as it is printed, if it is followed as it has to be. -/
theorem RawClause.Possible.spelling {raw : RawClause} (possible : raw.Possible) :
    ∃ sign body, (∀ space, RawClause.ofSpelling ⟨sign, body, space⟩ = raw) ∧
      raw.text.toList = signText sign ++ body.text ∧
      ∀ behind, (raw.Glued → behind.head? = some '"') → (¬ raw.Glued → atBreak behind) →
        body.Fits sign behind := by
  obtain ⟨operator, kind, value⟩ := raw
  obtain ⟨known, fitting⟩ := possible
  obtain ⟨sign, rfl, written⟩ := exists_sign known
  -- The body is the value: in quotes for a phrase, and as it is otherwise.
  refine ⟨sign, ?_⟩
  cases kind with
  | unknown name => exact absurd fitting (by simp)
  | phrase =>
    have ⟨inside, same⟩ : IsInner value.toList ∧ _ := IsPhraseValue.inner fitting
    refine ⟨.phrase value.toList, fun space => ?_, ?_, fun _ _ _ => .phrase inside⟩
    · rw [ofSpelling_eq]
      simp [RawClause.ofSpelling, same]
    · simp [RawClause.text, written, Body.text]
  | decade =>
    refine ⟨.decade value.toList false, fun space => ?_, ?_, fun _ _ ends => .decade fitting ?_⟩
    · rw [ofSpelling_eq]
      simp [RawClause.ofSpelling]
    · simp [RawClause.text, written, Body.text]
    · exact ends (by simp [RawClause.Glued])
  | term =>
    have plain : IsTermValue (operatorText sign) value := fitting
    refine ⟨.term value.toList, fun space => ?_, ?_, fun behind quote ends => ?_⟩
    · rw [ofSpelling_eq]
      simp [RawClause.ofSpelling]
    · simp [RawClause.text, written, Body.text]
    · have nonempty : value.toList ≠ [] := by simpa using plain.nonempty
      have termChars : ∀ c ∈ value.toList, isTermChar c := fun c member =>
        isTermChar_iff.2 (plain.plain c member)
      have unsigned : sign = none → OpensUnsigned value.toList := fun bare =>
        plain.unsigned (operatorText_eq_none_iff.2 bare)
      by_cases shaped : DecadeShaped value.toList
      · -- The quote ends the run, but not the word.
        obtain ⟨rest, rfl⟩ : ∃ rest, behind = '"' :: rest := by
          simpa [List.head?_eq_some_iff] using quote ⟨rfl, shaped⟩
        exact .term ⟨nonempty, termChars, .inr rfl, unsigned⟩ fun decade => by
          simp [atBreak, isSpace] at decade
      · have broken := ends fun glued => shaped glued.2
        exact .term ⟨nonempty, termChars, .of_atBreak broken, unsigned⟩ fun decade =>
          shaped decade.1

/-- The gap behind a printed clause is white space. -/
theorem isSpace_of_mem_gap {raw : RawClause} {rest : List RawClause} :
    ∀ c ∈ (gap raw rest).toList, isSpace c := by
  unfold gap
  split <;> simp [isSpace]

/-- A phrase without an operator is printed behind nothing but its quote. -/
theorem printed_bare_phrase {raws : List RawClause} (next : NextIsBarePhrase raws) :
    (printed raws).toList.head? = some '"' := by
  cases raws with
  | nil => exact absurd next (by simp [NextIsBarePhrase])
  | cons raw rest =>
    -- Nothing is printed for a missing operator.
    obtain ⟨kind, bare⟩ := next
    simp [printed, RawClause.text, kind, bare]

/-- What is expressible is printed as well spelled clauses that stand for it. -/
theorem Expressible.spelled {raws : List RawClause} (expressible : Expressible raws) :
    ∃ spelled, WellSpelled spelled ∧ spelled.map RawClause.ofSpelling = raws ∧
      spelledText spelled = (printed raws).toList := by
  induction raws with
  | nil => exact ⟨[], trivial, rfl, rfl⟩
  | cons raw rest ih =>
    obtain ⟨possible, glued, others⟩ := expressible
    obtain ⟨spelled, well, rfl, same⟩ := ih others
    -- A clause is spelled in front of the others, which are spelled already.
    obtain ⟨sign, body, raw_eq, written, fits⟩ := possible.spelling
    refine ⟨⟨sign, body, (gap raw (spelled.map RawClause.ofSpelling)).toList⟩ :: spelled,
      ⟨fits _ ?_ ?_, isSpace_of_mem_gap, well⟩, by simp [raw_eq], ?_⟩
    · -- A term that looks like a decade is printed without a gap.
      intro isGlued
      dsimp only
      rw [same]
      simpa [gap, isGlued] using printed_bare_phrase (glued isGlued)
    · -- Behind all others there is a gap, unless the text ends there.
      intro notGlued
      cases spelled <;> simp [gap, notGlued, spelledText, atBreak, isSpace]
    · simp only [spelledText, List.flatMap_cons, Spelling.text, ← written] at same ⊢
      simp [printed, same]

/-- What a text lists is expressible. -/
theorem expressible_of_parse {text : String} {raws : List RawClause}
    (parsed : parse text = .ok raws) : Expressible raws := by
  obtain ⟨spelled, well, _, rfl⟩ := parse_eq_ok_iff.1 parsed
  exact well.expressible

/-- What is expressible is listed by the text that it is printed as. -/
theorem parse_printed {raws : List RawClause} (expressible : Expressible raws) :
    parse (printed raws) = .ok raws := by
  obtain ⟨spelled, well, raws_eq, same⟩ := expressible.spelled
  exact parse_eq_ok_iff.2 ⟨spelled, well, same, raws_eq⟩

-- Only the quote behind it keeps the first term from being a decade.
example : printed [⟨none, .term, "1990s"⟩, ⟨none, .phrase, "a b"⟩, ⟨some "-", .term, "c"⟩] =
    "1990s\"a b\" -c" := by decide

/--
Queries list exactly the expressible raw clauses, and printing these is undone by parsing.

Printing a query that was parsed therefore changes its spelling at most.
-/
theorem exists_parse_iff_expressible (raws : List RawClause) :
    ((∃ text, parse text = .ok raws) ↔ Expressible raws) ∧
      (Expressible raws ↔ parse (printed raws) = .ok raws) ∧
      ∀ text, parse text = .ok raws → parse (printed raws) = .ok raws := by
  -- The printed text is the witness that some text lists them.
  refine ⟨⟨?_, ?_⟩, ⟨parse_printed, expressible_of_parse⟩, ?_⟩
  · rintro ⟨text, parsed⟩
    exact expressible_of_parse parsed
  · intro expressible
    exact ⟨printed raws, parse_printed expressible⟩
  · intro text parsed
    exact parse_printed (expressible_of_parse parsed)

end BooleanSearch.Query
