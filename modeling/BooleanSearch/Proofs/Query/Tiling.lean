import BooleanSearch.Proofs.Query.Grammar
import BooleanSearch.Proofs.Text.Places
import BooleanSearch.Query.Token
import Mathlib.Data.List.Basic

/-! The tokens of a query stand side by side in its text, and their places are those of the text. -/

namespace BooleanSearch.Query

open Text (Place StartsLine)

variable {text : String}

/-- A place is that of an offset of a text, as reports on that offset give it too. -/
structure PlacedAt (text : String) (offset : Nat) (place : Place) : Prop where
  /-- The line counts the line feeds in front of the offset. -/
  line : place.line = 1 + (text.toList.take offset).count '\n'
  /-- The column counts from the start of the line. -/
  column : ∃ start, StartsLine text.toList offset start ∧ place.column = offset - start + 1
  /-- Reports tell the same line and the same column. -/
  reported : ∀ expected : List String,
    (SyntaxError.report text offset expected).line = place.line ∧
      (SyntaxError.report text offset expected).column = place.column

/-- A token is cut out of a text where it says that it stands. -/
structure Token.IsCut (text : String) (token : Token) : Prop where
  nonempty : token.start < token.stop
  within : token.stop ≤ text.length
  value : token.value = Text.between text token.start token.stop
  startPlace : PlacedAt text token.start token.startPlace
  stopPlace : PlacedAt text token.stop token.stopPlace

/-- The tokens of one clause, which reach from an offset up to another one. -/
inductive ClauseSpan : List Token → Nat → Nat → Prop
  | bare {payload : Token} (kind : payload.kind ≠ .operator) :
      ClauseSpan [payload] payload.start payload.stop
  /-- The operator ends where what it is bound to starts. -/
  | signed {operator payload : Token} (sign : operator.kind = .operator)
      (kind : payload.kind ≠ .operator) (touching : operator.stop = payload.start) :
      ClauseSpan [operator, payload] operator.start payload.stop

/-- The tokens of clauses fill a text from an offset on, but for white space behind each clause. -/
inductive Tiles (text : String) : Nat → List (List Token) → Prop
  | nil : Tiles text text.length []
  | cons {start stop next : Nat} {clause : List Token} {rest : List (List Token)}
      (span : ClauseSpan clause start stop) (forward : stop ≤ next)
      (blank : ∀ c ∈ Text.between text stop next, isSpace c) (others : Tiles text next rest) :
      Tiles text start (clause :: rest)

/-- What a token stands for in a raw clause, by its kind. -/
inductive Token.Means : Token → Kind → String → Prop
  /-- A phrase stands for the words between its quotes. -/
  | phrase {token : Token} {inner : List Char} {words : List (List Char)}
      (kind : token.kind = .phrase) (quoted : token.value = '"' :: inner ++ ['"'])
      (split : WordsOf inner words) :
      Means token .phrase (" ".intercalate (words.map String.ofList))
  /-- A decade stands for its digits, with the suffix or without. -/
  | decade {token : Token} {digits : List Char} (kind : token.kind = .decade)
      (shape : IsDecade digits) (written : token.value = digits ∨ token.value = digits ++ ['s']) :
      Means token .decade (String.ofList digits)
  /-- A term stands for itself. -/
  | term {token : Token} (kind : token.kind = .term) : Means token .term (String.ofList token.value)

/-- The raw clause that the tokens of a clause stand for. -/
inductive TokensMean : List Token → RawClause → Prop
  | bare {payload : Token} {kind : Kind} {value : String} (meaning : payload.Means kind value) :
      TokensMean [payload] ⟨none, kind, value⟩
  | signed {operator payload : Token} {kind : Kind} {value : String}
      (sign : operator.kind = .operator) (meaning : payload.Means kind value) :
      TokensMean [operator, payload] ⟨some (String.ofList operator.value), kind, value⟩

/-! ### Places -/

/-- The place that is counted up to an offset is the one that reports tell. -/
theorem placedAt_placeOf {offset : Nat} (within : offset ≤ text.length) :
    PlacedAt text offset (Text.placeOf text offset) := by
  have inside : offset ≤ text.toList.length := by rwa [String.length_toList]
  have length : (text.toList.take offset).length = offset := List.length_take_of_le inside
  -- Not more characters stand on the line of the offset than in front of the offset.
  have shorter : ((text.toList.take offset).reverse.takeWhile (· != '\n')).length ≤ offset := by
    have prefixed := List.takeWhile_prefix (l := (text.toList.take offset).reverse) (· != '\n')
    simpa [length] using prefixed.length_le
  refine ⟨Place.line_afterAll _ _, ⟨_, Text.startsLine_take inside, ?_⟩, fun expected => ⟨?_, ?_⟩⟩
  · rw [Text.placeOf, Place.column_afterAll]
    omega
  · rw [Text.placeOf, Place.line_afterAll, SyntaxError.line, SyntaxError.report,
      Text.before_natCast, Nat.add_comm]
    rfl
  · simp only [Text.placeOf, Place.column_afterAll, SyntaxError.column, SyntaxError.lineStart,
      SyntaxError.report, Text.before_natCast, length]
    omega

/-- The cursor behind a front of a text is at the end of that front, and has its place. -/
theorem placedAt_advance {front behind : List Char} (same : front ++ behind = text.toList) :
    PlacedAt text front.length (Cursor.start.advance front).place := by
  have length : front.length ≤ text.length := by
    rw [← String.length_toList, ← same, List.length_append]
    omega
  have placed := placedAt_placeOf length
  rwa [Text.placeOf, ← same, List.take_left] at placed

/-! ### Tokens -/

/-- A run of characters stands between the offsets of its two ends. -/
theorem between_append {front run behind : List Char}
    (same : front ++ run ++ behind = text.toList) :
    Text.between text front.length (front ++ run).length = run := by
  rw [Text.between_natCast, ← same, List.take_left, List.drop_left]

/-- A cursor that advances twice is behind both runs of characters. -/
theorem Cursor.advance_append (cursor : Cursor) (front behind : List Char) :
    cursor.advance (front ++ behind) = (cursor.advance front).advance behind := by
  rw [advance, advance, advance, Place.afterAll_append, List.length_append, Nat.add_assoc]

/-- The token that a run of characters is behind the front of a text. -/
def tokenBehind (front : List Char) (kind : TokenKind) (run : List Char) : Token :=
  (Cursor.start.advance front).token kind run

section

variable (front : List Char) (kind : TokenKind) (run : List Char)

@[simp] theorem value_tokenBehind : (tokenBehind front kind run).value = run := rfl

@[simp] theorem start_tokenBehind : (tokenBehind front kind run).start = front.length :=
  Nat.zero_add _

@[simp] theorem stop_tokenBehind : (tokenBehind front kind run).stop = (front ++ run).length := by
  rw [tokenBehind, Cursor.token, ← Cursor.advance_append]
  exact Nat.zero_add _

end

/-- A run of characters is a token of the text that it stands in. -/
theorem isCut_tokenBehind {front run behind : List Char}
    (same : front ++ run ++ behind = text.toList) (nonempty : run ≠ []) (kind : TokenKind) :
    (tokenBehind front kind run).IsCut text := by
  have positive := List.length_pos_iff.2 nonempty
  have length := congrArg List.length same
  simp only [List.length_append, String.length_toList] at length
  -- The offsets are lengths of fronts, and their places those of cursors behind these fronts.
  constructor
  case nonempty =>
    rw [start_tokenBehind, stop_tokenBehind, List.length_append]
    omega
  case within =>
    rw [stop_tokenBehind, List.length_append]
    omega
  case value =>
    rw [value_tokenBehind, start_tokenBehind, stop_tokenBehind, between_append same]
  case startPlace =>
    rw [start_tokenBehind]
    exact placedAt_advance (by rw [← same, List.append_assoc])
  case stopPlace =>
    rw [stop_tokenBehind, tokenBehind, Cursor.token, ← Cursor.advance_append]
    exact placedAt_advance same

/-! ### Clauses -/

/-- A clause without a sign is one token. -/
theorem clauseTokens_none (front : List Char) (body : Body) (space : List Char) :
    clauseTokens (Cursor.start.advance front) ⟨none, body, space⟩ =
      [tokenBehind front body.tokenKind body.text] := rfl

/-- A clause with a sign is two tokens, of which the second one stands behind the sign. -/
theorem clauseTokens_some (front : List Char) (sign : Sign) (body : Body) (space : List Char) :
    clauseTokens (Cursor.start.advance front) ⟨some sign, body, space⟩ =
      [tokenBehind front .operator [sign.symbol],
        tokenBehind (front ++ [sign.symbol]) body.tokenKind body.text] := by
  rw [tokenBehind, tokenBehind, Cursor.advance_append]
  rfl

/-- Bodies are no operators. -/
theorem Body.tokenKind_ne_operator (body : Body) : body.tokenKind ≠ .operator := by
  cases body <;> simp [tokenKind]

/-- The tokens of a clause reach from its start up to the white space behind it. -/
theorem clauseSpan_clauseTokens (front : List Char) (spelling : Spelling) :
    ClauseSpan (clauseTokens (Cursor.start.advance front) spelling) front.length
      (front ++ (signText spelling.sign ++ spelling.body.text)).length := by
  obtain ⟨sign, body, space⟩ := spelling
  have kind := body.tokenKind_ne_operator
  cases sign with
  | none =>
    have span : ClauseSpan [tokenBehind front body.tokenKind body.text] _ _ := .bare kind
    rwa [start_tokenBehind, stop_tokenBehind] at span
  | some sign =>
    have span : ClauseSpan [tokenBehind front .operator [sign.symbol],
        tokenBehind (front ++ [sign.symbol]) body.tokenKind body.text] _ _ :=
      .signed rfl kind (by rw [start_tokenBehind, stop_tokenBehind])
    rw [start_tokenBehind, stop_tokenBehind, List.append_assoc] at span
    rwa [clauseTokens_some]

/-- The tokens of a clause are cut out of the text that the clause stands in. -/
theorem isCut_clauseTokens {front behind : List Char} {spelling : Spelling}
    (same : front ++ (signText spelling.sign ++ spelling.body.text) ++ behind = text.toList)
    (nonempty : spelling.body.text ≠ []) :
    ∀ token ∈ clauseTokens (Cursor.start.advance front) spelling, token.IsCut text := by
  obtain ⟨sign, body, space⟩ := spelling
  cases sign with
  | none =>
    rw [clauseTokens_none, List.forall_mem_singleton]
    exact isCut_tokenBehind same nonempty _
  | some sign =>
    rw [clauseTokens_some, List.forall_mem_cons, List.forall_mem_singleton]
    have signed : front ++ [sign.symbol] ++ (body.text ++ behind) = text.toList := by
      rw [← same]
      simp [signText]
    have bodied : front ++ [sign.symbol] ++ body.text ++ behind = text.toList := by
      rw [← signed]
      simp
    exact ⟨isCut_tokenBehind signed (by simp) _, isCut_tokenBehind bodied nonempty _⟩

/-- A token of a body that fits stands for what the raw clause of its spelling holds. -/
theorem Body.Fits.tokenMeans {sign : Option Sign} {behind : List Char} {body : Body}
    (fits : body.Fits sign behind) (space : List Char) {token : Token}
    (kind : token.kind = body.tokenKind) (value : token.value = body.text) :
    token.Means (RawClause.ofSpelling ⟨sign, body, space⟩).kind
      (RawClause.ofSpelling ⟨sign, body, space⟩).value := by
  cases fits with
  | @phrase inner inside =>
    -- The terms of a phrase are the words between its quotes, and there is one way to split them.
    simp only [RawClause.ofSpelling, phraseTerms, String.toList_ofList]
    exact .phrase kind value (wordsOf_iff.2 rfl)
  | @decade digits suffixed shape ends =>
    refine .decade kind shape ?_
    cases suffixed <;> simp [value, Body.text]
  | @term run unquoted plain =>
    obtain rfl : token.value = run := value
    exact .term kind

/-- The tokens of a clause stand for its raw clause. -/
theorem Body.Fits.tokensMean {sign : Option Sign} {behind : List Char} {body : Body}
    (fits : body.Fits sign behind) (front space : List Char) :
    TokensMean (clauseTokens (Cursor.start.advance front) ⟨sign, body, space⟩)
      (RawClause.ofSpelling ⟨sign, body, space⟩) := by
  rw [ofSpelling_eq]
  cases sign with
  | none =>
    rw [clauseTokens_none]
    exact .bare (fits.tokenMeans space rfl rfl)
  | some sign =>
    rw [clauseTokens_some]
    cases sign
    · exact .signed rfl (fits.tokenMeans space rfl rfl)
    · exact .signed rfl (fits.tokenMeans space rfl rfl)

/-! ### Queries -/

/-- The tokens of clauses behind the front of a text, with the raw clauses that they stand for. -/
structure Tokenized (text : String) (offset : Nat) (clauses : List (List Token))
    (raws : List RawClause) : Prop where
  tiles : Tiles text offset clauses
  cut : ∀ token ∈ clauses.flatten, token.IsCut text
  meaning : List.Forall₂ TokensMean clauses raws

/-- Well spelled clauses are cut into tokens one after another, wherever they stand in a text. -/
theorem tokenized_tokensFrom {spelled : List Spelling} (well : WellSpelled spelled) :
    ∀ front, front ++ spelledText spelled = text.toList →
      Tokenized text front.length (tokensFrom (Cursor.start.advance front) spelled)
        (spelled.map RawClause.ofSpelling) := by
  -- The clauses that are left stand behind a front that grows by one clause with each step.
  induction spelled with
  | nil =>
    intro front same
    have whole : front.length = text.length := by
      rw [← String.length_toList, ← same]
      simp [spelledText]
    rw [whole]
    exact ⟨.nil, by simp [tokensFrom], .nil⟩
  | cons spelling rest ih =>
    intro front same
    obtain ⟨fits, blank, others⟩ := well
    obtain ⟨c, tail, opening, -⟩ := fits.opens
    -- The clause stands behind the front, and the other clauses behind its white space.
    have parts : front ++ spelling.text =
        front ++ (signText spelling.sign ++ spelling.body.text) ++ spelling.space := by
      simp [Spelling.text]
    have later : front ++ spelling.text ++ spelledText rest = text.toList := by
      rw [← same]
      simp [spelledText]
    obtain ⟨tiles, cut, meaning⟩ := ih others (front ++ spelling.text) later
    rw [parts] at later
    rw [tokensFrom, ← Cursor.advance_append]
    refine ⟨.cons (clauseSpan_clauseTokens front spelling) ?_ ?_ tiles, ?_,
      .cons (fits.tokensMean front spelling.space) meaning⟩
    · simp only [parts, List.length_append]
      omega
    · rw [parts, between_append later]
      exact blank
    · rw [List.flatten_cons, List.forall_mem_append]
      rw [List.append_assoc] at later
      exact ⟨isCut_clauseTokens later (by simp [opening]), cut⟩

/-- The tokens of a clause stand one behind the other within its span. -/
theorem ClauseSpan.pairwise {clause : List Token} {start stop : Nat}
    (span : ClauseSpan clause start stop) (forward : ∀ token ∈ clause, token.start < token.stop) :
    start < stop ∧ clause.Pairwise (fun token next => token.stop ≤ next.start) ∧
      ∀ token ∈ clause, start ≤ token.start ∧ token.stop ≤ stop := by
  cases span with
  | bare kind => simpa using forward
  | signed sign kind touching =>
    simp only [List.forall_mem_cons] at forward
    obtain ⟨first, second, -⟩ := forward
    refine ⟨by omega, by simp [touching], ?_⟩
    rw [List.forall_mem_cons, List.forall_mem_singleton]
    exact ⟨⟨Nat.le_refl _, by omega⟩, by omega, Nat.le_refl _⟩

/-- Every offset within the span of a clause belongs to one of its tokens. -/
theorem ClauseSpan.covers {clause : List Token} {start stop i : Nat}
    (span : ClauseSpan clause start stop) (lower : start ≤ i) (upper : i < stop) :
    ∃ token ∈ clause, token.start ≤ i ∧ i < token.stop := by
  cases span with
  | bare kind => exact ⟨_, by simp, lower, upper⟩
  | @signed operator payload sign kind touching =>
    -- No offset is between the two tokens, since the operator touches what it is bound to.
    by_cases inside : i < operator.stop
    · exact ⟨operator, by simp, lower, inside⟩
    · exact ⟨payload, by simp, by omega, upper⟩

/-- Tokens that tile a text stand one behind the other. -/
theorem Tiles.pairwise {start : Nat} {clauses : List (List Token)}
    (tiles : Tiles text start clauses)
    (forward : ∀ token ∈ clauses.flatten, token.start < token.stop) :
    clauses.flatten.Pairwise (fun token next => token.stop ≤ next.start) ∧
      ∀ token ∈ clauses.flatten, start ≤ token.start := by
  induction tiles with
  | nil => simp
  | @cons start stop next clause rest span behind blank others ih =>
    rw [List.flatten_cons, List.forall_mem_append] at forward
    obtain ⟨positive, pairs, inside⟩ := span.pairwise forward.1
    obtain ⟨otherPairs, later⟩ := ih forward.2
    rw [List.flatten_cons, List.pairwise_append, List.forall_mem_append]
    refine ⟨⟨pairs, otherPairs, ?_⟩, fun token member => (inside token member).1, ?_⟩
    · -- The white space between two clauses keeps their tokens apart.
      intro token member other otherMember
      have stops := (inside token member).2
      have starts := later other otherMember
      omega
    · intro token member
      have starts := later token member
      omega

/-- What tokens that tile a text leave out is white space. -/
theorem Tiles.covers {start : Nat} {clauses : List (List Token)}
    (tiles : Tiles text start clauses) :
    ∀ i c, start ≤ i → text.toList[i]? = some c → isSpace c = false →
      ∃ token ∈ clauses.flatten, token.start ≤ i ∧ i < token.stop := by
  induction tiles with
  | nil =>
    intro i c lower found
    -- No character stands behind the end of the text.
    rw [List.getElem?_eq_none (by rwa [String.length_toList])] at found
    contradiction
  | @cons start stop next clause rest span forward blank others ih =>
    intro i c lower found plain
    simp only [List.flatten_cons, List.mem_append]
    by_cases upper : i < stop
    · obtain ⟨token, member, inside⟩ := span.covers lower upper
      exact ⟨token, .inl member, inside⟩
    · by_cases gap : i < next
      · -- The gap behind a clause is white space.
        have member : c ∈ Text.between text stop next := by
          rw [Text.between_natCast]
          refine List.mem_of_getElem? (i := i - stop) ?_
          rw [List.getElem?_drop, List.getElem?_take_of_lt (by omega), ← found]
          congr 1
          omega
        rw [blank c member] at plain
        contradiction
      · obtain ⟨token, member, inside⟩ := ih i c (by omega) found plain
        exact ⟨token, .inr member, inside⟩

/-- The first of the tokens that tile a text from an offset on starts there. -/
theorem Tiles.start_head? {start : Nat} {clauses : List (List Token)}
    (tiles : Tiles text start clauses) : ∀ token ∈ clauses.flatten.head?, token.start = start := by
  cases tiles with
  | nil => simp
  | cons span => cases span <;> simp

/--
The tokens of a query fill its text but for the white space behind its clauses.

Each is what stands between its offsets, and its places are those that reports give to the offsets.
No two tokens share a character, and there is one raw clause for the tokens of each clause.
-/
theorem tokens_tile {raws : List RawClause} (accepted : parse text = .ok raws) :
    ∃ clauses, tokens text = .ok clauses ∧ Tiles text 0 clauses ∧
      (∀ token ∈ clauses.flatten.head?, token.start = 0) ∧
      (∀ token ∈ clauses.flatten, token.IsCut text) ∧
      clauses.flatten.Pairwise (fun token next => token.stop ≤ next.start) ∧
      (∀ i c, text.toList[i]? = some c → isSpace c = false →
        ∃ token ∈ clauses.flatten, token.start ≤ i ∧ i < token.stop) ∧
      List.Forall₂ TokensMean clauses raws := by
  obtain ⟨spelled, well, same, rfl⟩ := parse_eq_ok_iff.1 accepted
  obtain ⟨tiles, cut, meaning⟩ := tokenized_tokensFrom well [] same
  refine ⟨_, ?_, tiles, tiles.start_head?, cut, ?_, fun i c => tiles.covers i c (Nat.zero_le i),
    meaning⟩
  · rw [tokens, read_eq_ok_iff.2 ⟨well, same⟩]
    rfl
  · exact (tiles.pairwise fun token member => (cut token member).nonempty).1

/-- Behind a phrase of two lines the places of an abutting clause are on the second line. -/
theorem tokens_tile_lines :
    parse "-\"a\nb\"c\n" = .ok [⟨some "-", .phrase, "a b"⟩, ⟨none, .term, "c"⟩] ∧
      ∃ clauses, clauses = [[⟨.operator, ['-'], 0, 1, ⟨1, 1⟩, ⟨1, 2⟩⟩,
          ⟨.phrase, ['"', 'a', '\n', 'b', '"'], 1, 6, ⟨1, 2⟩, ⟨2, 3⟩⟩],
          [⟨.term, ['c'], 6, 7, ⟨2, 3⟩, ⟨2, 4⟩⟩]] ∧
        tokens "-\"a\nb\"c\n" = .ok clauses ∧ Tiles "-\"a\nb\"c\n" 0 clauses := by
  have accepted : parse "-\"a\nb\"c\n" =
      .ok [⟨some "-", .phrase, "a b"⟩, ⟨none, .term, "c"⟩] := by cbv
  obtain ⟨clauses, found, tiles, -⟩ := tokens_tile accepted
  refine ⟨accepted, clauses, Except.ok.inj (found.symm.trans ?_), found, tiles⟩
  cbv

end BooleanSearch.Query
