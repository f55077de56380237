import BooleanSearch.Proofs.Query.Grammar

/-! Texts that are no queries have one of four flaws, and the report tells which one and where. -/

namespace BooleanSearch.Query

open Text

/-- Complete clauses in a row, each of them spelled as what stands behind it allows. -/
def Complete (behind : List Char) : List Spelling → Prop
  | [] => True
  | spelling :: rest =>
    -- A body without quotes goes on as far as it can, up to `behind` if need be.
    spelling.body.Fits spelling.sign (spelling.space ++ (spelledText rest ++ behind)) ∧
      (∀ c ∈ spelling.space, isSpace c) ∧ Complete behind rest

/-- Complete clauses lead from the front of a text to an offset, and `behind` stands there. -/
def Boundary (cs : List Char) (offset : Nat) (behind : List Char) : Prop :=
  ∃ spelled, Complete behind spelled ∧ spelledText spelled ++ behind = cs ∧
    (spelledText spelled).length = offset

/-- What can be wrong with a text that is no query. -/
inductive Flaw
  | leadingSpace
  | bareSign
  | unclosedPhrase
  | blankPhrase
deriving Repr, DecidableEq

/-- What could have stood where a flaw is reported, in order. -/
def Flaw.expected : Flaw → List String
  | .leadingSpace => ["decade", "end of input", "operator", "phrase", "term"]
  | .bareSign => ["decade", "phrase", "term"]
  | .unclosedPhrase => ["closing quote"]
  | .blankPhrase => ["closing quote", "term"]

/-- A text has a flaw that is reported at some offset. -/
inductive HasFlaw (cs : List Char) : Flaw → Nat → Prop
  /-- The text opens with white space. -/
  | leadingSpace {c : Char} {rest : List Char} (text : cs = c :: rest) (space : isSpace c) :
      HasFlaw cs .leadingSpace 0
  /-- Where a clause starts, a sign has white space or nothing behind it. -/
  | bareSign {offset : Nat} {sign : Sign} {behind : List Char}
      (boundary : Boundary cs offset (sign.symbol :: behind)) (broken : atBreak behind) :
      HasFlaw cs .bareSign (offset + 1)
  /-- Where a clause starts, perhaps behind its sign, a quote has no later quote. -/
  | unclosedPhrase {offset : Nat} {sign : Option Sign} {behind : List Char}
      (boundary : Boundary cs offset (signText sign ++ '"' :: behind))
      (noQuote : ∀ c ∈ behind, c ≠ '"') : HasFlaw cs .unclosedPhrase cs.length
  /-- Where a clause starts, perhaps behind its sign, a quote has white space behind it. -/
  | blankPhrase {offset : Nat} {sign : Option Sign} {c : Char} {behind : List Char}
      (boundary : Boundary cs offset (signText sign ++ '"' :: c :: behind)) (space : isSpace c)
      (closed : '"' ∈ behind) :
      HasFlaw cs .blankPhrase (offset + (signText sign).length + 1)

/-! ### Bodies and clauses that cannot be read -/

/-- What stands in front of a body behind a sign, if there is one. -/
def Front.behind (front : Front) : Option Sign → Front
  | none => front
  | some _ => .signed

/-- Where the reading of one clause stops, by what it finds there. -/
inductive StopsAt (front : Front) : List Char → Stop → Prop
  | blank {cs : List Char} (broken : atBreak cs) : StopsAt front cs (.blank 0)
  | strayOperator {sign : Sign} {behind : List Char} (broken : atBreak behind) :
      StopsAt front (sign.symbol :: behind) (.strayOperator 0 behind.isEmpty)
  | unclosed (sign : Option Sign) {behind : List Char} (noQuote : ∀ c ∈ behind, c ≠ '"') :
      StopsAt front (signText sign ++ '"' :: behind)
        (.unclosed (front.behind sign) (signText sign).length
          ((signText sign).length + (behind.length + 1)))
  | blankPhrase (sign : Option Sign) {c : Char} {behind : List Char} (space : isSpace c)
      (closed : '"' ∈ behind) :
      StopsAt front (signText sign ++ '"' :: c :: behind)
        (.blankPhrase (front.behind sign) (signText sign).length)

/-- White space is no quote. -/
theorem ne_quote_of_isSpace {c : Char} (space : isSpace c) : c ≠ '"' := by
  rintro rfl
  exact absurd space (by decide)

/-- A text is at a break exactly if nothing but white space can be its next character. -/
theorem atBreak_iff {cs : List Char} : atBreak cs = true ↔ ∀ c ∈ cs.head?, isSpace c = true := by
  cases cs <;> simp [atBreak]

/-- Without a later quote a phrase stays open. -/
theorem takePhrase_unclosed {front : Front} {cs : List Char} (noQuote : ∀ c ∈ cs, c ≠ '"') :
    takePhrase front cs = .error (.unclosed front 0 (cs.length + 1)) := by
  -- All characters are dropped in the search for a quote.
  have dropped : cs.dropWhile (· != '"') = [] :=
    List.dropWhile_eq_nil_iff.2 (by simpa using noQuote)
  simp [takePhrase, dropped]

/-- White space behind the opening quote is refused if the phrase is closed later on. -/
theorem takePhrase_blank {front : Front} {c : Char} {cs : List Char} (space : isSpace c)
    (closed : '"' ∈ cs) : takePhrase front (c :: cs) = .error (.blankPhrase front 0) := by
  have plain := ne_quote_of_isSpace space
  -- The search for a quote goes past the white space, and ends later on.
  have found : (c :: cs).dropWhile (· != '"') ≠ [] := by
    rw [ne_eq, List.dropWhile_eq_nil_iff]
    intro all
    exact absurd (all '"' (by simp [closed])) (by decide)
  obtain ⟨quote, rest, dropped⟩ := List.exists_cons_of_ne_nil found
  simp [takePhrase, dropped, plain, atBreak, space]

/-- A phrase is refused only for its open end or for the white space at its front. -/
theorem takePhrase_error {front : Front} {cs : List Char} {stop : Stop}
    (failed : takePhrase front cs = .error stop) :
    ((∀ c ∈ cs, c ≠ '"') ∧ stop = .unclosed front 0 (cs.length + 1)) ∨
      ∃ c rest, cs = c :: rest ∧ isSpace c ∧ '"' ∈ rest ∧ stop = .blankPhrase front 0 := by
  by_cases closed : '"' ∈ cs
  · right
    -- Of closed phrases only one with white space at its front is refused.
    cases cs with
    | nil => simp at closed
    | cons c rest =>
      cases space : isSpace c with
      | true =>
        have later : '"' ∈ rest := by simpa [(ne_quote_of_isSpace space).symm] using closed
        rw [takePhrase_blank space later] at failed
        exact ⟨c, rest, rfl, space, later, by simpa using failed.symm⟩
      | false =>
        -- What stands in front of the first quote is the inside of a phrase.
        have parts := List.takeWhile_append_dropWhile (p := (· != '"')) (l := c :: rest)
        have stops := dropWhile_head? (· != '"') (c :: rest)
        cases left : (c :: rest).dropWhile (· != '"') with
        | nil => exact absurd (List.dropWhile_eq_nil_iff.1 left '"' closed) (by decide)
        | cons quote behind =>
          rw [left] at parts stops
          obtain rfl : quote = '"' := by simpa using stops quote (by simp)
          have inside : IsInner ((c :: rest).takeWhile (· != '"')) := by
            refine isInner_iff.2 ⟨fun d member => by simpa using List.mem_takeWhile_imp member, ?_⟩
            by_cases quote : c = '"' <;> simp [quote, atBreak, space]
          rw [← parts, takePhrase_inner inside] at failed
          simp at failed
  · left
    have noQuote : ∀ c ∈ cs, c ≠ '"' := by
      rintro c member rfl
      exact closed member
    rw [takePhrase_unclosed noQuote] at failed
    exact ⟨noQuote, by simpa using failed.symm⟩

/-- A body is refused for white space in its place, or as a phrase. -/
theorem takeBody_error {front : Front} {cs : List Char} {stop : Stop}
    (failed : takeBody front cs = .error stop) :
    (atBreak cs ∧ stop = .blank 0) ∨
      ∃ rest, cs = '"' :: rest ∧ takePhrase front rest = .error stop := by
  cases cs with
  | nil => exact .inl ⟨rfl, by simpa [takeBody] using failed.symm⟩
  | cons c rest =>
    by_cases quote : c = '"'
    · subst quote
      exact .inr ⟨rest, rfl, by simpa [takeBody] using failed⟩
    · cases space : isSpace c with
      | true => exact .inl ⟨space, by simpa [takeBody, quote, space] using failed.symm⟩
      | false =>
        -- Anything else opens a run without quotes, which is always read.
        obtain ⟨run, behind, parts, unquoted⟩ := exists_unquoted (isTermChar_iff.2 ⟨space, quote⟩)
        rw [parts, takeBody_unquoted (unquoted (some .plus) (by simp))] at failed
        simp at failed

/-- Nothing but white space or the end can stand in the place of a body that is missing. -/
theorem takeBody_blank {front : Front} {cs : List Char} (broken : atBreak cs) :
    takeBody front cs = .error (.blank 0) := by
  cases cs with
  | nil => rfl
  | cons c rest =>
    have space : isSpace c = true := broken
    simp [takeBody, ne_quote_of_isSpace space, space]

/-- The reading of a clause stops exactly where neither a clause nor the end of the text is. -/
theorem takeClause_eq_error_iff {front : Front} {cs : List Char} {stop : Stop} :
    takeClause front cs = .error stop ↔ StopsAt front cs stop := by
  constructor
  · intro failed
    -- The sign is taken off first, and what is left is no body.
    have parts := signText_takeSign cs
    unfold takeClause at failed
    split at failed <;> rename_i rest signed <;> rw [signed] at parts <;> dsimp only at parts
    · have unread : takeBody front rest = .error stop := by
        cases read : takeBody front rest with
        | error other => simpa [read] using failed
        | ok found => simp [read] at failed
      rw [← parts, signText, Option.map_none, Option.toList_none, List.nil_append]
      rcases takeBody_error unread with ⟨broken, rfl⟩ | ⟨phrase, rfl, unread⟩
      · exact .blank broken
      · rcases takePhrase_error unread with ⟨noQuote, rfl⟩ | ⟨c, tail, rfl, space, closed, rfl⟩
        · have stops : StopsAt front ('"' :: phrase) _ := .unclosed none noQuote
          simpa [signText, Front.behind] using stops
        · exact .blankPhrase none space closed
    · rename_i sign
      rw [← parts, signText, Option.map_some, Option.toList_some, List.singleton_append]
      cases read : takeBody .signed rest with
      | ok found => simp [read] at failed
      | error other =>
        -- Offsets behind the sign count it too.
        rcases takeBody_error read with ⟨broken, rfl⟩ | ⟨phrase, rfl, unread⟩
        · obtain rfl : Stop.strayOperator 0 rest.isEmpty = stop := by simpa [read] using failed
          exact .strayOperator broken
        · rcases takePhrase_error unread with ⟨noQuote, rfl⟩ | ⟨c, tail, rfl, space, closed, rfl⟩
          · obtain rfl : Stop.unclosed .signed 1 (1 + (phrase.length + 1)) = stop := by
              simpa [read, Stop.shift] using failed
            exact .unclosed (some sign) noQuote
          · obtain rfl : Stop.blankPhrase .signed 1 = stop := by
              simpa [read, Stop.shift] using failed
            exact .blankPhrase (some sign) space closed
  · -- A quote is no sign, so that a phrase is looked for behind the sign that is there.
    have opened : ∀ (sign : Option Sign) (rest : List Char),
        takeSign (signText sign ++ '"' :: rest) = (sign, '"' :: rest) := fun sign rest =>
      takeSign_signText fun _ => by simp [OpensUnsigned]
    rintro (broken | broken | ⟨sign, noQuote⟩ | ⟨sign, space, closed⟩)
    · have unsigned : takeSign cs = (none, cs) := by
        have opens : OpensUnsigned cs := by
          intro c first
          have space := atBreak_iff.1 broken c first
          constructor <;> rintro rfl <;> exact absurd space (by decide)
        have bare : takeSign (signText none ++ cs) = (none, cs) := takeSign_signText fun _ => opens
        exact bare
      simp [takeClause, unsigned, takeBody_blank broken]
    · simp [takeClause, takeSign, takeBody_blank broken]
    · rw [takeClause, opened]
      cases sign <;>
        simp [takeBody, takePhrase_unclosed noQuote, Stop.shift, signText, Front.behind]
    · rw [takeClause, opened]
      cases sign <;>
        simp [takeBody, takePhrase_blank space closed, Stop.shift, signText, Front.behind]

/-! ### Texts that cannot be read -/

/-- What stands in front of the clause behind complete clauses. -/
def Front.behindAll (front : Front) : List Spelling → Front
  | [] => front
  | spelling :: rest => Front.behindAll (if spelling.space.isEmpty then .glued else .fresh) rest

/-- Offsets are shifted once by the sum of two shifts. -/
theorem Stop.shift_shift (count other : Nat) (stop : Stop) :
    (stop.shift other).shift count = stop.shift (count + other) := by
  cases stop <;> simp [shift, Nat.add_assoc]

/-- Where a clause cannot be read, the reading stops. -/
theorem spellings_stopped {front : Front} {cs : List Char} {stop : Stop}
    (stopped : StopsAt front cs stop) (nonempty : cs ≠ []) :
    spellings front cs = .error stop := by
  obtain ⟨c, rest, rfl⟩ := List.exists_cons_of_ne_nil nonempty
  have failed := takeClause_eq_error_iff.2 stopped
  rw [spellings]
  split <;> rename_i found <;> rw [failed] at found
  · simpa using found.symm
  · contradiction

/-- Behind a clause the reading goes on with what follows its white space. -/
theorem spellings_next {front : Front} {cs : List Char} {sign : Option Sign} {body : Body}
    {behind : List Char} (taken : takeClause front cs = .ok (sign, body, behind)) :
    spellings front cs =
      ((spellings (if (behind.takeWhile isSpace).isEmpty then .glued else .fresh)
        (behind.dropWhile isSpace)).map (⟨sign, body, behind.takeWhile isSpace⟩ :: ·)).mapError
          (Stop.shift (cs.length - (behind.dropWhile isSpace).length)) := by
  cases cs with
  | nil => simp [takeClause, takeSign, takeBody] at taken
  | cons c rest =>
    rw [spellings]
    split
    · rename_i failed
      rw [failed] at taken
      contradiction
    · rename_i found
      rw [found] at taken
      obtain ⟨rfl, rfl, rfl⟩ : _ = sign ∧ _ = body ∧ _ = behind := by simpa using taken
      dsimp only
      split <;> rename_i others <;> rw [others] <;> rfl

/-- Complete clauses in front of a text do not open with white space if that text does not. -/
theorem Complete.opens {behind : List Char} {spelled : List Spelling}
    (complete : Complete behind spelled) (opens : ∀ c ∈ behind.head?, isSpace c = false) :
    ∀ c ∈ (spelledText spelled ++ behind).head?, isSpace c = false := by
  cases spelled with
  | nil => simpa [spelledText] using opens
  | cons spelling rest =>
    obtain ⟨c, tail, opening, noSpace, _⟩ := complete.1.opens
    obtain ⟨sign, body, space⟩ := spelling
    dsimp only at opening
    -- A clause opens with its sign or with its body, and neither is white space.
    cases sign <;> simp [spelledText, Spelling.text, signText, opening, noSpace]

/-- Complete clauses are read as they are spelled, and then the text behind them is read. -/
theorem spellings_append {behind : List Char} {spelled : List Spelling}
    (complete : Complete behind spelled) (opens : ∀ c ∈ behind.head?, isSpace c = false) :
    ∀ front, spellings front (spelledText spelled ++ behind) =
      ((spellings (front.behindAll spelled) behind).map (spelled ++ ·)).mapError
        (Stop.shift (spelledText spelled).length) := by
  induction spelled with
  | nil =>
    intro front
    -- Nothing stands in front, so that nothing is put there and no offset moves.
    have unmoved : Stop.shift 0 = id := by
      funext stop
      cases stop <;> simp [Stop.shift]
    simp only [spelledText, List.flatMap_nil, List.nil_append, List.length_nil, unmoved,
      Front.behindAll]
    cases spellings front behind <;> rfl
  | cons spelling rest ih =>
    intro front
    obtain ⟨sign, body, space⟩ := spelling
    obtain ⟨fits, blank, others⟩ := complete
    have written : spelledText (⟨sign, body, space⟩ :: rest) ++ behind =
        signText sign ++ body.text ++ (space ++ (spelledText rest ++ behind)) := by
      simp [spelledText, Spelling.text]
    have taken : takeClause front _ = .ok _ := takeClause_eq_ok_iff.2 ⟨written, fits⟩
    -- The white space is taken as a whole, since what follows does not open with any.
    have spaceTaken := takeWhile_append_stop blank (others.opens opens)
    have spaceLeft := dropWhile_append_stop blank (others.opens opens)
    rw [spellings_next taken, spaceTaken, spaceLeft, ih others, Front.behindAll]
    have passed : (spelledText (⟨sign, body, space⟩ :: rest) ++ behind).length -
        (spelledText rest ++ behind).length + (spelledText rest).length =
          (spelledText (⟨sign, body, space⟩ :: rest)).length := by
      simp [spelledText, Spelling.text]
      omega
    cases spellings (Front.behindAll (if space.isEmpty then .glued else .fresh) rest) behind with
    | ok found => rfl
    | error stop => simp only [Except.map, Except.mapError, Stop.shift_shift, passed]

/-- A text that cannot be read has complete clauses at its front, and no clause behind them. -/
theorem exists_stopsAt {front : Front} {cs : List Char} {stop : Stop}
    (failed : spellings front cs = .error stop) :
    ∃ spelled behind inner, Complete behind spelled ∧ spelledText spelled ++ behind = cs ∧
      behind ≠ [] ∧ (spelled ≠ [] → ∀ c ∈ behind.head?, isSpace c = false) ∧
      StopsAt (front.behindAll spelled) behind inner ∧
      stop = inner.shift (spelledText spelled).length := by
  -- Each clause leaves less to read.
  fun_induction spellings front cs generalizing stop with
  | case1 front => simp at failed
  | case2 front c rest inner taken =>
    obtain rfl : inner = stop := by simpa using failed
    refine ⟨[], c :: rest, inner, trivial, rfl, by simp, by simp,
      takeClause_eq_error_iff.1 taken, ?_⟩
    cases inner <;> simp [Stop.shift, spelledText]
  | case3 front c rest sign body behind taken space next shorter others read => simp at failed
  | case4 front c rest sign body behind taken space next shorter inner read =>
    rename_i ih
    obtain ⟨spelled, left, last, complete, same, nonempty, opens, stopped, rfl⟩ := ih read
    obtain ⟨written, fits⟩ := takeClause_eq_ok_iff.1 taken
    -- White space and what follows it are together what the clause has left.
    have parts : space ++ next = behind := List.takeWhile_append_dropWhile
    have nextOpens : ∀ d ∈ next.head?, isSpace d = false := dropWhile_head? isSpace behind
    obtain rfl : Stop.shift ((c :: rest).length - next.length) (last.shift _) = stop := by
      simpa using failed
    have text : spelledText (⟨sign, body, space⟩ :: spelled) ++ left = c :: rest := by
      rw [written, ← parts, ← same]
      simp [spelledText, Spelling.text]
    refine ⟨⟨sign, body, space⟩ :: spelled, left, last,
      ⟨by simpa only [same, parts] using fits, fun d member => List.mem_takeWhile_imp member,
        complete⟩, text, nonempty, fun _ => ?_, stopped, ?_⟩
    · cases spelled with
      | nil => simpa [spelledText, ← same] using nextOpens
      | cons first more => exact opens (by simp)
    · rw [Stop.shift_shift, ← text, ← same]
      congr 1
      simp [spelledText, Spelling.text]
      omega

/-! ### Reports -/

/-- The flaw for which a reading stops. -/
def Stop.flaw : Stop → Flaw
  | .blank _ => .leadingSpace
  | .strayOperator .. => .bareSign
  | .unclosed .. => .unclosedPhrase
  | .blankPhrase .. => .blankPhrase

/-- A stop moves together with the offset that is reported for it. -/
@[simp] theorem Stop.position_shift (count : Nat) (stop : Stop) :
    (stop.shift count).position = count + stop.position := by
  cases stop <;> simp [shift, position, Nat.add_assoc]

/-- A stop has the same reason wherever it is. -/
@[simp] theorem Stop.flaw_shift (count : Nat) (stop : Stop) :
    (stop.shift count).flaw = stop.flaw := by
  cases stop <;> rfl

/-- The report on a stop names what its flaw lets expect, in order. -/
theorem Stop.report_eq (text : String) (stop : Stop) :
    stop.report text = ⟨text, stop.position, stop.flaw.expected⟩ := by
  -- Whatever the offsets are, the names are the same.
  have sorted : Text.sortedTexts (stop.expected.map Alternative.name) = stop.flaw.expected := by
    cases stop <;> simp only [expected, flaw] <;> decide
  rw [report, SyntaxError.report, sorted]

/-- A boundary is as far from the end of the text as what stands behind it is long. -/
theorem Boundary.length_eq {cs behind : List Char} {offset : Nat}
    (boundary : Boundary cs offset behind) : offset + behind.length = cs.length := by
  obtain ⟨spelled, -, rfl, rfl⟩ := boundary
  rw [List.length_append]

/-- A clause that cannot be read where complete clauses end is what is reported. -/
theorem Boundary.parse {text : String} {offset : Nat} {behind : List Char} {flaw : Flaw}
    {position : Nat} (boundary : Boundary text.toList offset behind)
    (opens : ∀ c ∈ behind.head?, isSpace c = false) (nonempty : behind ≠ [])
    (stopped : ∀ front, ∃ stop, StopsAt front behind stop ∧ stop.flaw = flaw ∧
      offset + stop.position = position) :
    Query.parse text = .error ⟨text, position, flaw.expected⟩ := by
  obtain ⟨spelled, complete, same, rfl⟩ := boundary
  -- The complete clauses are read, and the reading stops at the one behind them.
  obtain ⟨stop, stopsAt, rfl, rfl⟩ := stopped (Front.fresh.behindAll spelled)
  have stops := spellings_append complete opens .fresh
  rw [spellings_stopped stopsAt nonempty, same] at stops
  simp [Query.parse, read, stops, Except.map, Except.mapError, Stop.report_eq]

/-- A text that opens with a sign or a quote does not open with white space. -/
theorem opens_signText (sign : Option Sign) {c : Char} (plain : isSpace c = false)
    (rest : List Char) : ∀ d ∈ (signText sign ++ c :: rest).head?, isSpace d = false := by
  cases sign <;> simp [signText, plain]

/-- A flaw is reported at its offset. -/
theorem HasFlaw.parse {text : String} {flaw : Flaw} {position : Nat}
    (flawed : HasFlaw text.toList flaw position) :
    Query.parse text = .error ⟨text, position, flaw.expected⟩ := by
  have plain : isSpace '"' = false := by decide
  cases flawed with
  | @leadingSpace c rest same space =>
    -- The first clause of all is the only one that white space can stand in front of.
    have stops : spellings .fresh (c :: rest) = .error (.blank 0) :=
      spellings_stopped (.blank space) (by simp)
    rw [← same] at stops
    simp [Query.parse, read, stops, Stop.report_eq, Stop.position, Stop.flaw]
  | bareSign boundary broken =>
    exact boundary.parse (by simp) (by simp) fun front => ⟨_, .strayOperator broken, rfl, rfl⟩
  | @unclosedPhrase offset sign behind boundary noQuote =>
    refine boundary.parse (opens_signText sign plain behind) (by simp) fun front =>
      ⟨_, .unclosed sign noQuote, rfl, ?_⟩
    -- The phrase stays open up to the end of the text.
    simp [← boundary.length_eq, Stop.position]
  | @blankPhrase offset sign c behind boundary space closed =>
    exact boundary.parse (opens_signText sign plain (c :: behind)) (by simp) fun front =>
      ⟨_, .blankPhrase sign space closed, rfl, by simp [Stop.position, Nat.add_assoc]⟩

/-- A text with a flaw is no query. -/
theorem HasFlaw.parse_ne {cs : List Char} {flaw : Flaw} {position : Nat}
    (flawed : HasFlaw cs flaw position) (raws : List RawClause) :
    Query.parse (String.ofList cs) ≠ .ok raws := by
  have rejected : Query.parse (String.ofList cs) = _ :=
    HasFlaw.parse (by rwa [String.toList_ofList])
  simp [rejected]

/-- A report is on the stop of the reader. -/
theorem exists_stop {text : String} {error : SyntaxError} (failed : parse text = .error error) :
    ∃ stop, read text = .error stop ∧ error = stop.report text := by
  cases found : read text with
  | ok spelled => simp [parse, found] at failed
  | error stop =>
    obtain rfl : stop.report text = error := by simpa [parse, found] using failed
    exact ⟨stop, rfl, rfl⟩

/-- What is reported is a flaw of the text. -/
theorem exists_hasFlaw {text : String} {error : SyntaxError} (failed : parse text = .error error) :
    ∃ flaw position, HasFlaw text.toList flaw position ∧
      error = ⟨text, position, flaw.expected⟩ := by
  obtain ⟨stop, found, rfl⟩ := exists_stop failed
  obtain ⟨spelled, behind, inner, complete, same, nonempty, opens, stopped, rfl⟩ :=
    exists_stopsAt found
  rw [Stop.report_eq, Stop.position_shift, Stop.flaw_shift]
  have boundary : Boundary text.toList (spelledText spelled).length behind :=
    ⟨spelled, complete, same, rfl⟩
  cases stopped with
  | blank broken =>
    obtain ⟨c, rest, rfl⟩ := List.exists_cons_of_ne_nil nonempty
    have space : isSpace c = true := broken
    -- Behind a clause all white space has been passed over.
    cases spelled with
    | nil => exact ⟨_, _, .leadingSpace same.symm space, rfl⟩
    | cons first more =>
      have plain := opens (by simp) c (by simp)
      rw [space] at plain
      contradiction
  | strayOperator broken => exact ⟨_, _, .bareSign boundary broken, rfl⟩
  | unclosed sign noQuote =>
    refine ⟨_, _, .unclosedPhrase boundary noQuote, ?_⟩
    simp [← same, Stop.position, Stop.flaw]
  | blankPhrase sign space closed =>
    refine ⟨_, _, .blankPhrase boundary space closed, ?_⟩
    simp [Stop.position, Stop.flaw, Nat.add_assoc]

/-- A text has one flaw at most, and that at one offset. -/
theorem HasFlaw.unique {text : String} {flaw other : Flaw} {position otherPosition : Nat}
    (flawed : HasFlaw text.toList flaw position)
    (otherFlawed : HasFlaw text.toList other otherPosition) :
    flaw = other ∧ position = otherPosition := by
  -- Both are what is reported, and different flaws let expect different things.
  have same := flawed.parse.symm.trans otherFlawed.parse
  have distinct : ∀ left right : Flaw, left.expected = right.expected → left = right := by
    intro left right
    cases left <;> cases right <;> decide
  simp only [Except.error.injEq, SyntaxError.mk.injEq, true_and, Int.natCast_inj] at same
  exact ⟨distinct _ _ same.2, same.1⟩

/-- A flaw is reported within its text, or at the end of it. -/
theorem HasFlaw.position_le {cs : List Char} {flaw : Flaw} {position : Nat}
    (flawed : HasFlaw cs flaw position) : position ≤ cs.length := by
  cases flawed with
  | leadingSpace => exact Nat.zero_le _
  | unclosedPhrase => exact Nat.le_refl _
  | bareSign boundary =>
    rw [← boundary.length_eq, List.length_cons]
    omega
  | blankPhrase boundary =>
    rw [← boundary.length_eq, List.length_append, List.length_cons]
    omega

/--
A text is rejected exactly if it has one of the four flaws, and it never has more than one.

The report gives the offset of the flaw and the names of what could have stood there.
-/
theorem parse_eq_error_iff (text : String) :
    ((∃ error, parse text = .error error) ↔
      ∃! flaw, ∃ position, HasFlaw text.toList flaw position) ∧
    (∀ flaw position, HasFlaw text.toList flaw position →
      parse text = .error ⟨text, position, flaw.expected⟩ ∧ position ≤ text.length) ∧
    (∀ error, parse text = .error error → ∃ flaw position, HasFlaw text.toList flaw position ∧
      error = ⟨text, position, flaw.expected⟩) := by
  refine ⟨⟨?_, ?_⟩, fun flaw position flawed => ⟨flawed.parse, ?_⟩, fun error => exists_hasFlaw⟩
  · rintro ⟨error, failed⟩
    obtain ⟨flaw, position, flawed, -⟩ := exists_hasFlaw failed
    refine ⟨flaw, ⟨position, flawed⟩, ?_⟩
    rintro other ⟨otherPosition, otherFlawed⟩
    exact (otherFlawed.unique flawed).1
  · rintro ⟨flaw, ⟨position, flawed⟩, -⟩
    exact ⟨_, flawed.parse⟩
  · rw [← String.length_toList]
    exact flawed.position_le

end BooleanSearch.Query
