import BooleanSearch.Proofs.Query.Stopping

/-! Reports point at the furthest offset up to which a text could still have become a query. -/

namespace BooleanSearch.Query

/-- A text that something can be written behind so that both together are a query. -/
def Extends (front : List Char) : Prop :=
  ∃ more raws, parse (String.ofList (front ++ more)) = .ok raws

/-- The clause at which the reading stops has an opening quote that nothing could be made of. -/
def DeadEnd (cs : List Char) (quote : Nat) : Prop :=
  -- White space stands behind the quote, and no later quote is there to close the phrase.
  ∃ offset sign c behind, Boundary cs offset (signText sign ++ '"' :: c :: behind) ∧ isSpace c ∧
    (∀ d ∈ behind, d ≠ '"') ∧ quote = offset + (signText sign).length

/-- What a body is, as an alternative to others. -/
def Body.alternative : Body → Alternative
  | .phrase _ => .phrase
  | .decade .. => .decade
  | .term _ => .term

/-- Some query starts with a text, and goes on with an alternative directly behind it. -/
inductive GoesOn (front : List Char) : Alternative → Prop
  /-- The text is a query itself. -/
  | endOfInput {spelled : List Spelling} (accepted : read (String.ofList front) = .ok spelled) :
      GoesOn front .endOfInput
  /-- The sign of a clause stands there. -/
  | operator {query : String} {before behind : List Spelling} {clause : Spelling}
      (accepted : read query = .ok (before ++ clause :: behind)) (signed : clause.sign ≠ none)
      (place : spelledText before = front) : GoesOn front .operator
  /-- The body of a clause stands there. -/
  | body {query : String} {before behind : List Spelling} {clause : Spelling}
      (accepted : read query = .ok (before ++ clause :: behind))
      (place : spelledText before ++ signText clause.sign = front) :
      GoesOn front clause.body.alternative
  /-- The closing quote of a phrase stands there, with the inside of the phrase in front of it. -/
  | closingQuote {query : String} {before behind : List Spelling} {clause : Spelling}
      {inner : List Char} (accepted : read query = .ok (before ++ clause :: behind))
      (phrase : clause.body = .phrase inner)
      (place : spelledText before ++ signText clause.sign ++ '"' :: inner = front) :
      GoesOn front .closingQuote
  /-- The first term of a phrase stands there, with the opening quote in front of it. -/
  | phraseTerm {query : String} {before behind : List Spelling} {clause : Spelling}
      {word more : List Char} {others : List (List Char)}
      (accepted : read query = .ok (before ++ clause :: behind))
      (phrase : clause.body = .phrase (word ++ more))
      (words : terms (word ++ more) = word :: others)
      (place : spelledText before ++ signText clause.sign ++ ['"'] = front) :
      GoesOn front .term

/-! ### Clauses in front of other text -/

/-- What a body fits in front of is told by the next character alone. -/
theorem Body.Fits.of_head? {sign : Option Sign} {behind other : List Char} {body : Body}
    (fits : body.Fits sign behind) (same : other.head? = behind.head?) : body.Fits sign other := by
  have runs : RunEnds behind → RunEnds other := by
    rw [runEnds_iff, runEnds_iff, same]
    exact id
  have breaks : atBreak other = atBreak behind := by
    rw [Bool.eq_iff_iff, atBreak_iff, atBreak_iff, same]
  cases fits with
  | phrase inside => exact .phrase inside
  | decade shape ends => exact .decade shape (breaks ▸ ends)
  | term unquoted plain =>
    exact .term ⟨unquoted.nonempty, unquoted.termChars, runs unquoted.ends, unquoted.unsigned⟩
      (breaks ▸ plain)

/-- Clauses stay complete in front of another text that opens with the same character. -/
theorem Complete.of_head? {behind other : List Char} {spelled : List Spelling}
    (complete : Complete behind spelled) (same : other.head? = behind.head?) :
    Complete other spelled := by
  induction spelled with
  | nil => trivial
  | cons spelling rest ih =>
    obtain ⟨fits, blank, others⟩ := complete
    refine ⟨fits.of_head? ?_, blank, ih others⟩
    simp only [List.head?_append, same]

/-- Clauses are complete together if each part is in front of what stands behind it. -/
theorem complete_append {behind : List Char} {spelled others : List Spelling} :
    Complete behind (spelled ++ others) ↔
      Complete (spelledText others ++ behind) spelled ∧ Complete behind others := by
  induction spelled with
  | nil => simp [Complete]
  | cons first rest ih => simp [Complete, ih, spelledText, and_assoc]

/-- Well spelled clauses are complete at the end of a text. -/
theorem wellSpelled_iff {spelled : List Spelling} : WellSpelled spelled ↔ Complete [] spelled := by
  induction spelled with
  | nil => rfl
  | cons first rest ih => simp [WellSpelled, Complete, ih]

/-- Complete clauses in front of well spelled ones are well spelled together with them. -/
theorem Complete.wellSpelled {spelled others : List Spelling}
    (complete : Complete (spelledText others) spelled) (well : WellSpelled others) :
    WellSpelled (spelled ++ others) := by
  rw [wellSpelled_iff] at well ⊢
  exact complete_append.2 ⟨by rwa [List.append_nil], well⟩

/-- A last clause in the place of what stood behind complete clauses makes a query of them. -/
theorem Complete.read {behind : List Char} {spelled : List Spelling}
    (complete : Complete behind spelled) (sign : Option Sign) {body : Body}
    (fits : body.Fits sign [])
    (same : (signText sign ++ body.text).head? = behind.head?) :
    Query.read (String.ofList (spelledText (spelled ++ [⟨sign, body, []⟩]))) =
      .ok (spelled ++ [⟨sign, body, []⟩]) := by
  have written : spelledText [⟨sign, body, []⟩] = signText sign ++ body.text := by
    simp [spelledText, Spelling.text]
  refine read_eq_ok_iff.2 ⟨Complete.wellSpelled (complete.of_head? (by rw [written, same])) ?_,
    by simp⟩
  exact ⟨by simpa [spelledText] using fits, by simp, trivial⟩

/-- A boundary stays where it is when the text is cut off behind the next character or later. -/
theorem Boundary.take {cs behind : List Char} {offset : Nat} (boundary : Boundary cs offset behind)
    (count : Nat) (positive : 0 < count) :
    Boundary (cs.take (offset + count)) offset (behind.take count) := by
  obtain ⟨spelled, complete, rfl, rfl⟩ := boundary
  refine ⟨spelled, complete.of_head? ?_, ?_, rfl⟩
  · rw [List.head?_take, if_neg (by omega)]
  · rw [List.take_length_add_append]

/-- A boundary stays where it is when more is written at the end of the text. -/
theorem Boundary.append {cs behind : List Char} {offset : Nat}
    (boundary : Boundary cs offset behind) (nonempty : behind ≠ []) (more : List Char) :
    Boundary (cs ++ more) offset (behind ++ more) := by
  obtain ⟨spelled, complete, rfl, rfl⟩ := boundary
  obtain ⟨c, rest, rfl⟩ := List.exists_cons_of_ne_nil nonempty
  exact ⟨spelled, complete.of_head? (by simp), by simp, rfl⟩

/-! ### Texts that cannot become queries -/

/-- A text with a flaw that nothing behind it mends cannot become a query. -/
theorem not_extends {front : List Char}
    (flawed : ∀ more, ∃ flaw position, HasFlaw (front ++ more) flaw position) :
    ¬ Extends front := by
  rintro ⟨more, raws, accepted⟩
  obtain ⟨flaw, position, flawed⟩ := flawed more
  exact flawed.parse_ne raws accepted

/-- White space behind an opening quote is a flaw, whatever follows. -/
theorem Boundary.exists_hasFlaw {cs : List Char} {offset : Nat} {sign : Option Sign} {c : Char}
    {behind : List Char} (boundary : Boundary cs offset (signText sign ++ '"' :: c :: behind))
    (space : isSpace c) : ∃ flaw position, HasFlaw cs flaw position := by
  by_cases closed : '"' ∈ behind
  · exact ⟨_, _, .blankPhrase boundary space closed⟩
  · refine ⟨_, _, .unclosedPhrase boundary ?_⟩
    -- White space is no quote either.
    rintro d member rfl
    rcases List.mem_cons.1 member with rfl | later
    · exact absurd space (by decide)
    · exact closed later

/-- No text that goes past white space behind an opening quote can become a query. -/
theorem Boundary.not_extends_take {cs : List Char} {offset length : Nat} {sign : Option Sign}
    {c : Char} {behind : List Char}
    (boundary : Boundary cs offset (signText sign ++ '"' :: c :: behind)) (space : isSpace c)
    (past : offset + (signText sign).length + 1 < length) : ¬ Extends (cs.take length) := by
  -- The sign, the quote and the white space are all in front of the cut.
  obtain ⟨rest, rfl⟩ : ∃ rest, length = offset + ((signText sign).length + 2 + rest) :=
    ⟨length - offset - (signText sign).length - 2, by omega⟩
  have kept : (signText sign ++ '"' :: c :: behind).take ((signText sign).length + 2 + rest) =
      signText sign ++ '"' :: c :: behind.take rest := by
    rw [Nat.add_assoc, List.take_length_add_append, Nat.add_comm 2 rest, List.take_succ_cons,
      List.take_succ_cons]
  have cut := boundary.take ((signText sign).length + 2 + rest) (by omega)
  rw [kept] at cut
  refine not_extends fun more => ?_
  have longer := cut.append (by simp) more
  rw [List.append_assoc, List.cons_append, List.cons_append] at longer
  exact longer.exists_hasFlaw space

/-- A text whose reading ends in a dead end cannot become a query. -/
theorem DeadEnd.not_extends {cs : List Char} {quote : Nat} (dead : DeadEnd cs quote) :
    ¬ Extends cs ∧ ∀ longer, quote + 1 < longer → ¬ Extends (cs.take longer) := by
  obtain ⟨offset, sign, c, behind, boundary, space, -, rfl⟩ := dead
  have past := fun longer (more : _ < longer) => boundary.not_extends_take space more
  refine ⟨?_, past⟩
  -- The whole text goes past the white space too.
  rw [← List.take_length (l := cs)]
  refine past _ ?_
  simp only [← boundary.length_eq, List.length_append, List.length_cons]
  omega

/-! ### Texts that can become queries -/

/-- A query is made of the clauses in front of a clause, of its parts, and of what follows it. -/
theorem spelledText_split (before behind : List Spelling) (clause : Spelling) :
    spelledText (before ++ clause :: behind) = spelledText before ++ signText clause.sign ++
      (clause.body.text ++ (clause.space ++ spelledText behind)) := by
  simp [spelledText, Spelling.text]

/-- A text that a query goes on behind can become a query. -/
theorem GoesOn.extends {front : List Char} {alternative : Alternative}
    (goesOn : GoesOn front alternative) : Extends front := by
  -- What the query spells behind the text is written behind it.
  have accepts : ∀ {query : String} {spelled : List Spelling} (more : List Char),
      Query.read query = .ok spelled → spelledText spelled = front ++ more → Extends front := by
    intro query spelled more accepted split
    obtain ⟨-, same⟩ := read_eq_ok_iff.1 accepted
    refine ⟨more, spelled.map RawClause.ofSpelling, ?_⟩
    rw [← split, same, String.ofList_toList]
    simp [parse, accepted]
  cases goesOn with
  | endOfInput accepted =>
    obtain ⟨-, same⟩ := read_eq_ok_iff.1 accepted
    exact accepts [] accepted (by simpa using same)
  | @operator query before behind clause accepted signed place =>
    subst place
    exact accepts (spelledText (clause :: behind)) accepted (by simp [spelledText])
  | body accepted place =>
    subst place
    exact accepts _ accepted (spelledText_split _ _ _)
  | @closingQuote query before behind clause inner accepted phrase place =>
    subst place
    refine accepts ('"' :: (clause.space ++ spelledText behind)) accepted ?_
    simp [spelledText_split, phrase, Body.text]
  | @phraseTerm query before behind clause word more others accepted phrase words place =>
    subst place
    refine accepts (word ++ more ++ '"' :: (clause.space ++ spelledText behind)) accepted ?_
    simp [spelledText_split, phrase, Body.text]

/-- Where clauses of all kinds can be read, a query goes on with each kind of body. -/
theorem goesOn_body {spelled : List Spelling} {sign : Option Sign}
    (accepts : ∀ body : Body, body.Fits sign [] →
      Query.read (String.ofList (spelledText (spelled ++ [⟨sign, body, []⟩]))) =
        .ok (spelled ++ [⟨sign, body, []⟩])) :
    GoesOn (spelledText spelled ++ signText sign) .phrase ∧
      GoesOn (spelledText spelled ++ signText sign) .decade ∧
        GoesOn (spelledText spelled ++ signText sign) .term := by
  -- One body of each kind is enough: `""`, `1990` and `a`.
  have phrase : (Body.phrase []).Fits sign [] := .phrase trivial
  have decade : (Body.decade ['1', '9', '9', '0'] false).Fits sign [] :=
    .decade ⟨'9', by decide, .inl rfl⟩ rfl
  have plain : Unquoted sign ['a'] [] :=
    ⟨by simp, List.forall_mem_singleton.2 rfl, trivial, fun _ => by simp [OpensUnsigned]⟩
  have term : (Body.term ['a']).Fits sign [] :=
    .term plain fun shaped => decadeOf?_eq_none_iff.1 rfl shaped.1
  exact ⟨.body (accepts _ phrase) rfl, .body (accepts _ decade) rfl, .body (accepts _ term) rfl⟩

/-- A phrase that was opened can be closed by a quote, if what is inside is the inside of one. -/
theorem Complete.goesOn_closingQuote {behind : List Char} {spelled : List Spelling}
    {sign : Option Sign} (complete : Complete (signText sign ++ '"' :: behind) spelled)
    {inner : List Char} (inside : IsInner inner) :
    GoesOn (spelledText spelled ++ signText sign ++ '"' :: inner) .closingQuote := by
  refine .closingQuote (complete.read sign (.phrase inside) ?_) rfl rfl
  cases sign <;> rfl

/-- At a flaw that is no dead end, some query goes on with everything that is expected there. -/
theorem HasFlaw.goesOn {cs : List Char} {flaw : Flaw} {position : Nat}
    (flawed : HasFlaw cs flaw position) (alive : ¬ ∃ quote, DeadEnd cs quote) :
    ∀ name ∈ flaw.expected, ∃ alternative : Alternative,
      alternative.name = name ∧ GoesOn (cs.take position) alternative := by
  cases flawed with
  | leadingSpace same space =>
    -- In front of all clauses everything can stand but white space.
    have accepts : ∀ (sign : Option Sign) (body : Body), body.Fits sign [] →
        Query.read (String.ofList (spelledText ([] ++ [⟨sign, body, []⟩]))) =
          .ok ([] ++ [⟨sign, body, []⟩]) := fun sign body fits =>
      have nothing : Complete (signText sign ++ body.text) [] := trivial
      nothing.read sign fits rfl
    obtain ⟨phrase, decade, term⟩ := goesOn_body (accepts none)
    have endOfInput : GoesOn [] .endOfInput :=
      .endOfInput (read_eq_ok_iff.2 ⟨trivial, rfl⟩ : Query.read (String.ofList []) = .ok [])
    have operator : GoesOn [] .operator :=
      .operator (accepts (some .plus) (.phrase []) (.phrase trivial)) (by simp) rfl
    simp only [Flaw.expected, List.forall_mem_cons, List.take_zero]
    exact ⟨⟨_, rfl, decade⟩, ⟨_, rfl, endOfInput⟩, ⟨_, rfl, operator⟩, ⟨_, rfl, phrase⟩,
      ⟨_, rfl, term⟩, by simp⟩
  | @bareSign offset sign behind boundary broken =>
    obtain ⟨spelled, complete, rfl, rfl⟩ := boundary
    -- The sign stays where it is, and a body is put behind it.
    obtain ⟨phrase, decade, term⟩ := goesOn_body fun body fits =>
      complete.read (some sign) fits rfl
    simp only [Flaw.expected, List.forall_mem_cons, List.take_length_add_append,
      List.take_succ_cons, List.take_zero]
    exact ⟨⟨_, rfl, decade⟩, ⟨_, rfl, phrase⟩, ⟨_, rfl, term⟩, by simp⟩
  | @unclosedPhrase offset sign behind boundary noQuote =>
    have inside : IsInner behind := by
      refine isInner_iff.2 ⟨noQuote, fun nonempty => ?_⟩
      obtain ⟨c, rest, rfl⟩ := List.exists_cons_of_ne_nil nonempty
      -- White space at the front of the phrase would make it a dead end.
      cases space : isSpace c with
      | false => exact space
      | true =>
        exact absurd ⟨_, offset, sign, c, rest, boundary, space,
          fun d member => noQuote d (by simp [member]), rfl⟩ alive
    obtain ⟨spelled, complete, rfl, rfl⟩ := boundary
    have closing := complete.goesOn_closingQuote inside
    rw [List.append_assoc] at closing
    simp only [Flaw.expected, List.forall_mem_cons, List.take_length]
    exact ⟨⟨_, rfl, closing⟩, by simp⟩
  | @blankPhrase offset sign c behind boundary space closed =>
    obtain ⟨spelled, complete, rfl, rfl⟩ := boundary
    have cut : (spelledText spelled ++ (signText sign ++ '"' :: c :: behind)).take
        ((spelledText spelled).length + (signText sign).length + 1) =
          spelledText spelled ++ signText sign ++ ['"'] := by
      rw [Nat.add_assoc, List.take_length_add_append, List.take_length_add_append,
        List.take_succ_cons, List.take_zero, List.append_assoc]
    have empty : IsInner [] := trivial
    have closing := complete.goesOn_closingQuote empty
    -- A phrase of one term is a phrase that goes on with a term.
    have inside : IsInner ['a'] := ⟨by decide, by simp⟩
    have accepted := complete.read sign (.phrase inside) (by cases sign <;> rfl)
    have words : terms (['a'] ++ []) = [['a']] := rfl
    have term : GoesOn (spelledText spelled ++ signText sign ++ ['"']) .term :=
      .phraseTerm accepted rfl words rfl
    simp only [Flaw.expected, List.forall_mem_cons, cut]
    exact ⟨⟨_, rfl, closing⟩, ⟨_, rfl, term⟩, by simp⟩

/-- One more character behind a flaw leaves a text that cannot become a query. -/
theorem HasFlaw.not_extends_take {cs : List Char} {flaw : Flaw} {position : Nat}
    (flawed : HasFlaw cs flaw position) (within : position < cs.length) :
    ¬ Extends (cs.take (position + 1)) := by
  cases flawed with
  | leadingSpace same space =>
    subst same
    exact not_extends fun more => ⟨_, _, .leadingSpace rfl space⟩
  | @bareSign offset sign behind boundary broken =>
    -- The character behind the sign is there, so that it is white space.
    cases behind with
    | nil =>
      simp [← boundary.length_eq] at within
    | cons c rest =>
      have cut := boundary.take 2 (by omega)
      exact not_extends fun more => ⟨_, _, .bareSign (cut.append (by simp) more) broken⟩
  | unclosedPhrase => exact absurd within (by omega)
  | blankPhrase boundary space closed => exact boundary.not_extends_take space (by omega)

/-- A dead end is a phrase that no quote closes, and it was none yet at its opening quote. -/
theorem DeadEnd.hasFlaw {cs : List Char} {quote : Nat} (dead : DeadEnd cs quote) :
    HasFlaw cs .unclosedPhrase cs.length ∧ Extends (cs.take (quote + 1)) := by
  obtain ⟨offset, sign, c, behind, boundary, space, noQuote, rfl⟩ := dead
  refine ⟨.unclosedPhrase boundary ?_, ?_⟩
  · exact List.forall_mem_cons.2 ⟨ne_quote_of_isSpace space, noQuote⟩
  · obtain ⟨spelled, complete, rfl, rfl⟩ := boundary
    have empty : IsInner [] := trivial
    have closing := complete.goesOn_closingQuote empty
    rw [Nat.add_assoc, List.take_length_add_append, List.take_length_add_append,
      List.take_succ_cons, List.take_zero, ← List.append_assoc]
    exact closing.extends

/--
The report on a text points at the furthest offset up to which the text could become a query.

Some query goes on there with everything that is expected.
Only in a dead end the report is further on, at the end of the text.
There nothing behind the opening quote could have become a query.
-/
theorem parse_error_furthest {text : String} {error : SyntaxError}
    (rejected : parse text = .error error) :
    ∃ position : Nat, error.position = position ∧
      ((¬ ∃ quote, DeadEnd text.toList quote) →
        Extends (text.toList.take position) ∧
        (position < text.length → ¬ Extends (text.toList.take (position + 1))) ∧
        ∀ name ∈ error.expected, ∃ alternative : Alternative, alternative.name = name ∧
          GoesOn (text.toList.take position) alternative) ∧
      ∀ quote, DeadEnd text.toList quote →
        ¬ Extends text.toList ∧ position = text.length ∧
        Extends (text.toList.take (quote + 1)) ∧
        ∀ longer, quote + 1 < longer → ¬ Extends (text.toList.take longer) := by
  obtain ⟨flaw, position, flawed, rfl⟩ := exists_hasFlaw rejected
  refine ⟨position, rfl, fun alive => ⟨?_, fun within => ?_, flawed.goesOn alive⟩,
    fun quote dead => ?_⟩
  · -- Something is expected at every flaw.
    obtain ⟨name, expected⟩ : ∃ name, name ∈ flaw.expected := by cases flaw <;> simp [Flaw.expected]
    obtain ⟨alternative, -, goesOn⟩ := flawed.goesOn alive name expected
    exact goesOn.extends
  · exact flawed.not_extends_take (by rwa [String.length_toList])
  · obtain ⟨unclosed, opened⟩ := dead.hasFlaw
    obtain ⟨whole, longer⟩ := dead.not_extends
    obtain ⟨-, atEnd⟩ := flawed.unique unclosed
    exact ⟨whole, by rw [atEnd, String.length_toList], opened, longer⟩

/-- A phrase that opens with white space could still become a query at its opening quote. -/
theorem parse_error_furthest_blank :
    parse "a \" b\"" = .error ⟨"a \" b\"", 3, ["closing quote", "term"]⟩ ∧
      Extends ['a', ' ', '"'] ∧ ¬ Extends ['a', ' ', '"', ' '] ∧ GoesOn ['a', ' ', '"'] .term := by
  have letter : (Body.term ['a']).Fits none (' ' :: '"' :: ' ' :: 'b' :: ['"']) :=
    .term ⟨by simp, List.forall_mem_singleton.2 rfl, .inl rfl, fun _ => by simp [OpensUnsigned]⟩
      fun shaped => decadeOf?_eq_none_iff.1 rfl shaped.1
  have boundary : Boundary "a \" b\"".toList 2 (signText none ++ '"' :: ' ' :: ['b', '"']) :=
    ⟨[⟨none, .term ['a'], [' ']⟩], ⟨letter, List.forall_mem_singleton.2 rfl, trivial⟩, by decide,
      rfl⟩
  have flawed : HasFlaw "a \" b\"".toList .blankPhrase 3 :=
    .blankPhrase boundary (by decide) (by decide)
  have rejected := flawed.parse
  -- The phrase is closed later on, so that the text is no dead end.
  have alive : ¬ ∃ quote, DeadEnd "a \" b\"".toList quote := by
    rintro ⟨quote, dead⟩
    have same := (flawed.unique dead.hasFlaw.1).1
    contradiction
  obtain ⟨position, placed, furthest, -⟩ := parse_error_furthest rejected
  obtain rfl : 3 = position := Int.ofNat.inj placed
  obtain ⟨opened, stuck, goesOn⟩ := furthest alive
  obtain ⟨alternative, named, term⟩ := goesOn "term" (by simp [Flaw.expected])
  have same : alternative = .term := by
    revert named
    cases alternative <;> decide
  exact ⟨rejected, opened, stuck (by decide), same ▸ term⟩

end BooleanSearch.Query
