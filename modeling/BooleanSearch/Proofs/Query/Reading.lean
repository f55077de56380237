import BooleanSearch.Proofs.Text.Runs
import BooleanSearch.Query.Reading
import Mathlib.Data.List.TakeWhile

/-! The reading of a text finds exactly the well spelled clauses that the text is made of. -/

namespace BooleanSearch.Query

open Text

/-- The inside of a phrase is empty, or it is a term character with no quote behind it. -/
def IsInner : List Char → Prop
  | [] => True
  | c :: rest => isTermChar c ∧ ∀ d ∈ rest, d ≠ '"'

/-- Four digits that open a decade of the twentieth or the twenty-first century. -/
def IsDecade (digits : List Char) : Prop :=
  -- Only ASCII digits count, as everywhere in queries.
  ∃ c : Char, c.isDigit ∧ (digits = ['1', '9', c, '0'] ∨ digits = ['2', '0', c, '0'])

/-- A run that could be a decade: its four digits, and perhaps the suffix. -/
def DecadeShaped (run : List Char) : Prop :=
  ∃ digits, IsDecade digits ∧ (run = digits ∨ run = digits ++ ['s'])

/-- A run of term characters goes on up to white space, a quote or the end of the text. -/
def RunEnds : List Char → Prop
  | [] => True
  | c :: _ => isSpace c ∨ c = '"'

/-- A text does not open with a sign. -/
def OpensUnsigned (cs : List Char) : Prop :=
  -- An empty text opens with nothing, and so with no sign.
  ∀ c ∈ cs.head?, c ≠ '+' ∧ c ≠ '-'

/-- A run that may be the body of a clause without quotes, by what stands around it. -/
structure Unquoted (sign : Option Sign) (run behind : List Char) : Prop where
  /-- There is something to look for. -/
  nonempty : run ≠ []
  /-- All of the run could stand in a term. -/
  termChars : ∀ c ∈ run, isTermChar c
  /-- Nothing behind the run could belong to it. -/
  ends : RunEnds behind
  /-- Without a sign in front, the run does not open with one. -/
  unsigned : sign = none → OpensUnsigned run

/-- The bodies that a clause may have, by the sign in front and by what follows. -/
inductive Body.Fits (sign : Option Sign) (behind : List Char) : Body → Prop
  | phrase {inner : List Char} (inside : IsInner inner) : Fits sign behind (.phrase inner)
  /-- A decade ends its word. -/
  | decade {digits : List Char} {suffixed : Bool} (shape : IsDecade digits)
      (ends : atBreak behind) : Fits sign behind (.decade digits suffixed)
  /-- A term is a run that is no decade. -/
  | term {run : List Char} (unquoted : Unquoted sign run behind)
      (plain : ¬ (DecadeShaped run ∧ atBreak behind)) : Fits sign behind (.term run)

/-- The characters of spelled clauses in a row. -/
def spelledText (spelled : List Spelling) : List Char :=
  spelled.flatMap Spelling.text

/-- Clauses in a row, each of which is spelled as its neighbours allow. -/
def WellSpelled : List Spelling → Prop
  | [] => True
  | spelling :: rest =>
    -- What stands behind the body decides how far the body goes.
    spelling.body.Fits spelling.sign (spelling.space ++ spelledText rest) ∧
      (∀ c ∈ spelling.space, isSpace c) ∧ WellSpelled rest

/-! ### Signs -/

/-- The two signs are the only characters that stand for one. -/
theorem ofChar?_eq_none_iff {c : Char} : Sign.ofChar? c = none ↔ c ≠ '+' ∧ c ≠ '-' := by
  -- The reader names both signs, and takes every other character for none.
  unfold Sign.ofChar?
  split <;> simp_all

/-- A sign is read from its own character. -/
@[simp] theorem ofChar?_symbol (sign : Sign) : Sign.ofChar? sign.symbol = some sign := by
  cases sign <;> rfl

/-- Signs are no white space. -/
@[simp] theorem isSpace_symbol (sign : Sign) : isSpace sign.symbol = false := by
  cases sign <;> rfl

/-- The character that a sign is read from is the one it is written as. -/
theorem symbol_of_ofChar? {c : Char} {sign : Sign} (found : Sign.ofChar? c = some sign) :
    sign.symbol = c := by
  unfold Sign.ofChar? at found
  split at found <;> cases found <;> rfl

/-- A written sign is taken off, and without one nothing may be mistaken for a sign. -/
theorem takeSign_signText {sign : Option Sign} {behind : List Char}
    (unsigned : sign = none → OpensUnsigned behind) :
    takeSign (signText sign ++ behind) = (sign, behind) := by
  cases sign with
  | some sign => simp [signText, takeSign]
  | none =>
    cases behind with
    | nil => rfl
    | cons c rest =>
      -- Its first character is no sign, so that nothing is taken off.
      have plain := ofChar?_eq_none_iff.2 (unsigned rfl c (by simp))
      simp [signText, takeSign, plain]

/-- Nothing is lost when a sign is taken off. -/
theorem signText_takeSign (cs : List Char) :
    signText (takeSign cs).1 ++ (takeSign cs).2 = cs := by
  -- Either the first character is put back, or nothing was taken off.
  cases cs with
  | nil => rfl
  | cons c rest =>
    cases found : Sign.ofChar? c with
    | none => simp [takeSign, found, signText]
    | some sign => simp [takeSign, found, signText, symbol_of_ofChar? found]

/-- A text from which no sign is taken off does not open with one. -/
theorem takeSign_none (cs : List Char) (untaken : (takeSign cs).1 = none) :
    OpensUnsigned (takeSign cs).2 := by
  cases cs with
  | nil => simp [takeSign, OpensUnsigned]
  | cons c rest =>
    cases found : Sign.ofChar? c with
    | none => simpa [takeSign, found, OpensUnsigned] using ofChar?_eq_none_iff.1 found
    | some sign => simp [takeSign, found] at untaken

/-! ### Decades -/

/-- A run is read as a decade exactly if it is spelled as one. -/
theorem decadeOf?_eq_some_iff {run : List Char} {body : Body} :
    decadeOf? run = some body ↔
      ∃ digits suffixed, IsDecade digits ∧ body = .decade digits suffixed ∧ run = body.text := by
  constructor
  · -- The patterns of the reader leave four digits and at most one suffix.
    intro found
    unfold decadeOf? at found
    split at found
    · rename_i a b c suffix
      split at found
      · rename_i century
        simp only [isCentury, Bool.and_eq_true, Bool.or_eq_true, beq_iff_eq] at century
        have shape : IsDecade [a, b, c, '0'] := by
          refine ⟨c, century.2, ?_⟩
          rcases century.1 with ⟨rfl, rfl⟩ | ⟨rfl, rfl⟩ <;> simp
        split at found <;> simp only [Option.some.injEq, reduceCtorEq] at found
        · exact ⟨_, false, shape, found.symm, by simp [← found, Body.text]⟩
        · exact ⟨_, true, shape, found.symm, by simp [← found, Body.text]⟩
      · simp at found
    · simp at found
  · -- In both centuries the reader finds the four digits, with the suffix or without.
    rintro ⟨digits, suffixed, ⟨c, digit, rfl | rfl⟩, rfl, rfl⟩ <;> cases suffixed <;>
      simp [decadeOf?, Body.text, isCentury, digit]

/-- A run is shaped as a decade exactly if it is the text of one. -/
theorem decadeShaped_iff {run : List Char} :
    DecadeShaped run ↔
      ∃ digits suffixed, IsDecade digits ∧ run = (Body.decade digits suffixed).text := by
  constructor
  · rintro ⟨digits, shape, rfl | rfl⟩
    · exact ⟨run, false, shape, by simp [Body.text]⟩
    · exact ⟨digits, true, shape, by simp [Body.text]⟩
  · rintro ⟨digits, suffixed, shape, rfl⟩
    refine ⟨digits, shape, ?_⟩
    cases suffixed <;> simp [Body.text]

/-- A run that is not read as a decade does not have the shape of one. -/
theorem decadeOf?_eq_none_iff {run : List Char} : decadeOf? run = none ↔ ¬ DecadeShaped run := by
  rw [decadeShaped_iff]
  -- A run is read as some decade or as none, and the shape decides which.
  cases found : decadeOf? run with
  | none =>
    simp only [true_iff]
    rintro ⟨digits, suffixed, shape, rfl⟩
    rw [decadeOf?_eq_some_iff.2 ⟨digits, suffixed, shape, rfl, rfl⟩] at found
    cases found
  | some body =>
    obtain ⟨digits, suffixed, shape, rfl, written⟩ := decadeOf?_eq_some_iff.1 found
    simp only [reduceCtorEq, false_iff]
    exact fun plain => plain ⟨digits, suffixed, shape, written⟩

/-! ### Bodies -/

/-- A character of a term is neither white space nor a quote. -/
theorem isTermChar_iff {c : Char} : isTermChar c = true ↔ isSpace c = false ∧ c ≠ '"' := by
  simp [isTermChar]

/-- The inside of a phrase is told by its quotes and by its first character alone. -/
theorem isInner_iff {inner : List Char} :
    IsInner inner ↔ (∀ d ∈ inner, d ≠ '"') ∧ (inner ≠ [] → atBreak inner = false) := by
  cases inner with
  | nil => simp [IsInner]
  | cons c rest =>
    simp only [IsInner, isTermChar_iff, List.mem_cons, forall_eq_or_imp, atBreak]
    -- The first character is a term character, which is no quote and no white space.
    constructor
    · rintro ⟨⟨plain, noQuote⟩, others⟩
      exact ⟨⟨noQuote, others⟩, fun _ => plain⟩
    · rintro ⟨⟨noQuote, others⟩, plain⟩
      exact ⟨⟨plain (by simp), noQuote⟩, others⟩

/-- A run goes on no further exactly if no term character follows. -/
theorem runEnds_iff {behind : List Char} :
    RunEnds behind ↔ ∀ c ∈ behind.head?, isTermChar c = false := by
  cases behind with
  | nil => simp [RunEnds]
  -- A character that is neither white space nor a quote would lengthen the run.
  | cons c rest => cases space : isSpace c <;> simp [RunEnds, isTermChar, space]

/-- White space or the end of the text ends every run. -/
theorem RunEnds.of_atBreak {behind : List Char} (ends : atBreak behind) : RunEnds behind := by
  cases behind with
  | nil => trivial
  | cons c rest => exact .inl ends

/-- A phrase is read up to its closing quote. -/
theorem takePhrase_inner {front : Front} {inner behind : List Char} (inside : IsInner inner) :
    takePhrase front (inner ++ '"' :: behind) = .ok (.phrase inner, behind) := by
  -- The first quote behind the opening one is the closing one.
  obtain ⟨noQuote, opens⟩ := isInner_iff.1 inside
  have holds : ∀ d ∈ inner, (d != '"') = true := by simpa using noQuote
  have stops : ∀ d ∈ ('"' :: behind).head?, (d != '"') = false := by simp
  -- No white space follows the opening quote.
  have noBlank : (!inner.isEmpty && atBreak inner) = false := by
    cases inner with
    | nil => rfl
    | cons c rest => simpa using opens
  simp [takePhrase, dropWhile_append_stop holds stops, takeWhile_append_stop holds stops, noBlank]

/-- What is read as a phrase is an inside with its closing quote. -/
theorem takePhrase_eq_ok {front : Front} {cs behind : List Char} {body : Body}
    (taken : takePhrase front cs = .ok (body, behind)) :
    ∃ inner, body = .phrase inner ∧ cs = inner ++ '"' :: behind ∧ IsInner inner := by
  unfold takePhrase at taken
  -- What is read is split at the first quote.
  have parts := List.takeWhile_append_dropWhile (p := (· != '"')) (l := cs)
  have stops := dropWhile_head? (· != '"') cs
  split at taken
  · simp at taken
  · rename_i quote rest found
    rw [found] at parts stops
    obtain rfl : quote = '"' := by simpa using stops quote (by simp)
    dsimp only at taken
    split at taken
    · simp at taken
    · rename_i noBlank
      simp only [Except.ok.injEq, Prod.mk.injEq] at taken
      obtain ⟨rfl, rfl⟩ := taken
      refine ⟨_, rfl, parts.symm, isInner_iff.2 ⟨?_, ?_⟩⟩
      · -- Everything in front of the first quote is no quote.
        intro d member
        simpa using List.mem_takeWhile_imp member
      · -- The reader refuses white space behind the opening quote.
        intro nonempty
        simpa [nonempty] using noBlank

/-- Digits can stand in a term. -/
theorem isTermChar_of_isDigit {c : Char} (digit : c.isDigit) : isTermChar c := by
  -- None of the seven characters that cannot is a digit.
  rw [isTermChar_iff]
  constructor
  · cases space : isSpace c with
    | false => rfl
    | true =>
      simp only [isSpace, Bool.or_eq_true, beq_iff_eq] at space
      rcases space with ((((rfl | rfl) | rfl) | rfl) | rfl) | rfl <;> revert digit <;> decide
  · rintro rfl
    revert digit
    decide

/-- All characters of a decade can stand in a term, and none of them is a sign. -/
theorem DecadeShaped.unquoted {run behind : List Char} (shaped : DecadeShaped run)
    (ends : RunEnds behind) (sign : Option Sign) : Unquoted sign run behind := by
  obtain ⟨digits, ⟨c, digit, written⟩, suffix⟩ := shaped
  have plain := isTermChar_of_isDigit digit
  have fixed : isTermChar '1' ∧ isTermChar '2' ∧ isTermChar '9' ∧ isTermChar '0' ∧
      isTermChar 's' := by decide
  -- There are four spellings: two centuries, each with a suffix or without.
  rcases suffix with rfl | rfl <;> rcases written with rfl | rfl <;>
    exact ⟨by simp, by simp [plain, fixed], ends, by simp [OpensUnsigned]⟩

/-- A decade that ends its word may stand wherever a body without quotes may. -/
theorem IsDecade.unquoted {digits behind : List Char} (shape : IsDecade digits) (suffixed : Bool)
    (ends : atBreak behind) (sign : Option Sign) :
    Unquoted sign (Body.decade digits suffixed).text behind :=
  (decadeShaped_iff.2 ⟨digits, suffixed, shape, rfl⟩).unquoted (.of_atBreak ends) sign

/-- The body that a run without quotes is, by what follows it. -/
def unquotedBody (run behind : List Char) : Body :=
  -- A run has to end its word to be a decade.
  (if atBreak behind then decadeOf? run else none).getD (.term run)

/-- A run is written as it is, whatever body it is. -/
theorem unquotedBody_text (run behind : List Char) : (unquotedBody run behind).text = run := by
  -- A decade is written as its digits and its suffix, a term as it is.
  unfold unquotedBody
  cases found : if atBreak behind then decadeOf? run else none with
  | none => rfl
  | some body =>
    split at found
    · obtain ⟨_, _, _, rfl, written⟩ := decadeOf?_eq_some_iff.1 found
      exact written.symm
    · simp at found

/-- A run that is a decade and ends its word is that decade. -/
theorem unquotedBody_decade {digits behind : List Char} (suffixed : Bool) (shape : IsDecade digits)
    (ends : atBreak behind) :
    unquotedBody (Body.decade digits suffixed).text behind = .decade digits suffixed := by
  simp [unquotedBody, ends, decadeOf?_eq_some_iff.2 ⟨digits, suffixed, shape, rfl, rfl⟩]

/-- A run that is no decade, or does not end its word, is a term. -/
theorem unquotedBody_term {run behind : List Char} (plain : ¬ (DecadeShaped run ∧ atBreak behind)) :
    unquotedBody run behind = .term run := by
  unfold unquotedBody
  split
  · rename_i ends
    rw [decadeOf?_eq_none_iff.2 fun shaped => plain ⟨shaped, ends⟩]
    rfl
  · rfl

/-- A run without quotes is a body that fits where the run stands. -/
theorem Unquoted.fits {sign : Option Sign} {run behind : List Char}
    (unquoted : Unquoted sign run behind) : (unquotedBody run behind).Fits sign behind := by
  -- The two kinds of bodies without quotes share no run.
  by_cases decade : DecadeShaped run ∧ atBreak behind
  · obtain ⟨digits, suffixed, shape, rfl⟩ := decadeShaped_iff.1 decade.1
    rw [unquotedBody_decade suffixed shape decade.2]
    exact .decade shape decade.2
  · rw [unquotedBody_term decade]
    exact .term unquoted decade

/-- A run without quotes is read as a whole. -/
theorem takeBody_unquoted {front : Front} {sign : Option Sign} {run behind : List Char}
    (unquoted : Unquoted sign run behind) :
    takeBody front (run ++ behind) = .ok (unquotedBody run behind, behind) := by
  have stops := runEnds_iff.1 unquoted.ends
  have taken := takeWhile_append_stop unquoted.termChars stops
  have left := dropWhile_append_stop unquoted.termChars stops
  obtain ⟨c, tail, rfl⟩ := List.exists_cons_of_ne_nil unquoted.nonempty
  -- The first character is a term character, so neither a phrase nor a blank comes first.
  obtain ⟨noSpace, noQuote⟩ := isTermChar_iff.1 (unquoted.termChars c (by simp))
  rw [List.cons_append] at taken left ⊢
  simp only [takeBody, beq_iff_eq, noQuote, if_false, noSpace, Bool.false_eq_true, taken, left,
    unquotedBody]
  cases (if atBreak behind then decadeOf? (c :: tail) else none) <;> rfl

/-- A text that opens with a term character opens with a run without quotes. -/
theorem exists_unquoted {c : Char} {rest : List Char} (first : isTermChar c) :
    ∃ run behind, c :: rest = run ++ behind ∧ ∀ sign : Option Sign,
      (sign = none → OpensUnsigned (c :: rest)) → Unquoted sign run behind := by
  -- The run is as long as can be, and its first character is the one at hand.
  have opens : ((c :: rest).takeWhile isTermChar).head? = some c := by simp [first]
  refine ⟨(c :: rest).takeWhile isTermChar, (c :: rest).dropWhile isTermChar,
    List.takeWhile_append_dropWhile.symm, fun sign unsigned => ⟨?_, ?_, ?_, ?_⟩⟩
  · intro empty
    simp [empty] at opens
  · exact fun d member => List.mem_takeWhile_imp member
  · exact runEnds_iff.2 (dropWhile_head? _ _)
  · -- The run opens as the text does.
    intro bare
    simpa [OpensUnsigned, opens] using unsigned bare

/-- A body that fits is read back in front of what it fits. -/
theorem takeBody_text {front : Front} {sign : Option Sign} {body : Body} {behind : List Char}
    (fits : body.Fits sign behind) : takeBody front (body.text ++ behind) = .ok (body, behind) := by
  -- Each kind of body was read back on its own above.
  cases fits with
  | @phrase inner inside => simpa [takeBody, Body.text] using takePhrase_inner inside
  | @decade digits suffixed shape ends =>
    rw [takeBody_unquoted (shape.unquoted suffixed ends sign),
      unquotedBody_decade suffixed shape ends]
  | @term run unquoted plain =>
    rw [Body.text, takeBody_unquoted unquoted, unquotedBody_term plain]

/-- What is read as a body is the text of a body that fits. -/
theorem takeBody_eq_ok {front : Front} {cs behind : List Char} {body : Body}
    (taken : takeBody front cs = .ok (body, behind)) (sign : Option Sign)
    (unsigned : sign = none → OpensUnsigned cs) :
    cs = body.text ++ behind ∧ body.Fits sign behind := by
  cases cs with
  | nil => simp [takeBody] at taken
  | cons c rest =>
    -- The first character decides between a phrase and a run without quotes.
    by_cases quote : c = '"'
    · subst quote
      obtain ⟨inner, rfl, rfl, inside⟩ := takePhrase_eq_ok (by simpa [takeBody] using taken)
      exact ⟨by simp [Body.text], .phrase inside⟩
    · cases space : isSpace c with
      | true => simp [takeBody, quote, space] at taken
      | false =>
        -- A run without quotes is all that is left to be read.
        obtain ⟨run, left, parts, unquoted⟩ := exists_unquoted (isTermChar_iff.2 ⟨space, quote⟩)
        rw [parts, takeBody_unquoted (unquoted sign unsigned)] at taken
        simp only [Except.ok.injEq, Prod.mk.injEq] at taken
        obtain ⟨rfl, rfl⟩ := taken
        exact ⟨by rw [unquotedBody_text, parts], (unquoted sign unsigned).fits⟩

/-! ### Clauses -/

/-- A body that fits opens with a character that is no white space, and with no stray sign. -/
theorem Body.Fits.opens {sign : Option Sign} {body : Body} {behind : List Char}
    (fits : body.Fits sign behind) :
    ∃ c rest, body.text = c :: rest ∧ isSpace c = false ∧ (sign = none → c ≠ '+' ∧ c ≠ '-') := by
  -- A body without quotes opens as its run does.
  have run : ∀ run, Unquoted sign run behind →
      ∃ c rest, run = c :: rest ∧ isSpace c = false ∧ (sign = none → c ≠ '+' ∧ c ≠ '-') := by
    intro run unquoted
    obtain ⟨c, rest, rfl⟩ := List.exists_cons_of_ne_nil unquoted.nonempty
    exact ⟨c, rest, rfl, (isTermChar_iff.1 (unquoted.termChars c (by simp))).1,
      fun bare => unquoted.unsigned bare c (by simp)⟩
  cases fits with
  | phrase inside => exact ⟨'"', _, rfl, rfl, fun _ => by decide⟩
  | @decade digits suffixed shape ends => exact run _ (shape.unquoted suffixed ends sign)
  | term unquoted plain => exact run _ unquoted

/-- A clause is read exactly where a sign and a body stand that fits. -/
theorem takeClause_eq_ok_iff {front : Front} {cs behind : List Char} {sign : Option Sign}
    {body : Body} :
    takeClause front cs = .ok (sign, body, behind) ↔
      cs = signText sign ++ body.text ++ behind ∧ body.Fits sign behind := by
  constructor
  · intro taken
    -- Taking off the sign leaves the body, which was dealt with above.
    have parts := signText_takeSign cs
    have untaken := takeSign_none cs
    unfold takeClause at taken
    split at taken <;> rename_i rest signed <;> rw [signed] at parts untaken
    · cases read : takeBody front rest with
      | error stop => simp [read] at taken
      | ok found =>
        simp only [read, Except.ok.injEq, Prod.mk.injEq] at taken
        obtain ⟨rfl, rfl, rfl⟩ := taken
        obtain ⟨rfl, fits⟩ := takeBody_eq_ok read none (fun _ => untaken rfl)
        exact ⟨by simpa using parts.symm, fits⟩
    · cases read : takeBody .signed rest with
      | error stop => cases stop <;> simp [read] at taken
      | ok found =>
        rename_i sign
        simp only [read, Except.ok.injEq, Prod.mk.injEq] at taken
        obtain ⟨rfl, rfl, rfl⟩ := taken
        obtain ⟨rfl, fits⟩ := takeBody_eq_ok read (some sign) (by simp)
        exact ⟨by simpa using parts.symm, fits⟩
  · -- A body never opens with a sign that could be taken for that of its clause.
    rintro ⟨rfl, fits⟩
    obtain ⟨c, rest, opening, _, unsigned⟩ := fits.opens
    have signed : takeSign (signText sign ++ (body.text ++ behind)) = (sign, body.text ++ behind) :=
      takeSign_signText fun bare => by simpa [OpensUnsigned, opening] using unsigned bare
    cases sign <;> simp [takeClause, signed, takeBody_text fits]

/-- Well spelled clauses do not open with white space. -/
theorem WellSpelled.opens {spelled : List Spelling} (well : WellSpelled spelled) :
    ∀ c ∈ (spelledText spelled).head?, isSpace c = false := by
  cases spelled with
  | nil => simp [spelledText]
  | cons spelling rest =>
    obtain ⟨c, tail, opening, noSpace, _⟩ := well.1.opens
    obtain ⟨sign, body, space⟩ := spelling
    dsimp only at opening
    -- A clause opens with its sign or with its body, and neither is white space.
    cases sign <;> simp [spelledText, Spelling.text, signText, opening, noSpace]

/-- Clauses are read one at a time, each with the white space behind it. -/
theorem spellings_cons {front : Front} {c : Char} {rest : List Char} {sign : Option Sign}
    {body : Body} {behind : List Char} {others : List Spelling}
    (taken : takeClause front (c :: rest) = .ok (sign, body, behind))
    (read : spellings (if (behind.takeWhile isSpace).isEmpty then .glued else .fresh)
      (behind.dropWhile isSpace) = .ok others) :
    spellings front (c :: rest) = .ok (⟨sign, body, behind.takeWhile isSpace⟩ :: others) := by
  -- The reader looks at the first clause before it looks at the others.
  rw [spellings]
  split
  · rename_i failed
    rw [failed] at taken
    contradiction
  · rename_i found
    rw [found] at taken
    obtain ⟨rfl, rfl, rfl⟩ : _ = sign ∧ _ = body ∧ _ = behind := by simpa using taken
    simp only [read]

/-- Reading well spelled clauses gives them back. -/
theorem spellings_spelledText {spelled : List Spelling} (well : WellSpelled spelled) :
    ∀ front, spellings front (spelledText spelled) = .ok spelled := by
  induction spelled with
  | nil => intro front; rw [spelledText, List.flatMap_nil, spellings]
  | cons spelling rest ih =>
    intro front
    obtain ⟨sign, body, space⟩ := spelling
    obtain ⟨fits, blank, others⟩ := well
    -- The first clause is taken off, and the hypothesis reads the others.
    have written : spelledText (⟨sign, body, space⟩ :: rest) =
        signText sign ++ body.text ++ (space ++ spelledText rest) := by
      simp [spelledText, Spelling.text]
    have taken : takeClause front _ = .ok _ := takeClause_eq_ok_iff.2 ⟨written, fits⟩
    -- The white space is taken as a whole, since the next clause does not open with any.
    have spaceTaken := takeWhile_append_stop blank others.opens
    have spaceLeft := dropWhile_append_stop blank others.opens
    cases text : spelledText (⟨sign, body, space⟩ :: rest) with
    | nil => simp [text, takeClause, takeSign, takeBody] at taken
    | cons c tail =>
      rw [text] at taken
      rw [spellings_cons taken (spaceLeft ▸ ih others _), spaceTaken]

/-- What is read from a text are well spelled clauses, and all of the text. -/
theorem wellSpelled_of_spellings {front : Front} {cs : List Char} {spelled : List Spelling}
    (found : spellings front cs = .ok spelled) :
    WellSpelled spelled ∧ spelledText spelled = cs := by
  -- Each clause leaves less to read.
  fun_induction spellings front cs generalizing spelled with
  | case1 front =>
    obtain rfl : [] = spelled := by simpa using found
    exact ⟨trivial, rfl⟩
  | case2 front c rest stop taken => simp at found
  | case3 front c rest sign body behind taken space next shorter others read =>
    rename_i ih
    obtain rfl : ⟨sign, body, space⟩ :: others = spelled := by simpa using found
    obtain ⟨well, same⟩ := ih read
    obtain ⟨written, fits⟩ := takeClause_eq_ok_iff.1 taken
    -- White space and what follows it are together what the clause has left.
    have parts : space ++ next = behind := List.takeWhile_append_dropWhile
    refine ⟨⟨by simpa only [same, parts] using fits,
      fun d member => List.mem_takeWhile_imp member, well⟩, ?_⟩
    rw [written, ← parts, ← same]
    simp [spelledText, Spelling.text]
  -- A clause in error leaves no list of clauses.
  | case4 front c rest sign body behind taken space next shorter stop read => simp at found

/-- The clauses read from a text are the well spelled ones that the text is made of. -/
theorem read_eq_ok_iff {text : String} {spelled : List Spelling} :
    read text = .ok spelled ↔ WellSpelled spelled ∧ spelledText spelled = text.toList := by
  constructor
  · exact wellSpelled_of_spellings
  · rintro ⟨well, same⟩
    rw [read, ← same]
    exact spellings_spelledText well .fresh

/-- A text is made of well spelled clauses in one way at most. -/
theorem WellSpelled.unique {left right : List Spelling} (wellLeft : WellSpelled left)
    (wellRight : WellSpelled right) (same : spelledText left = spelledText right) :
    left = right := by
  -- Both are what is read from the text.
  have readLeft := spellings_spelledText wellLeft .fresh
  rw [same, spellings_spelledText wellRight .fresh] at readLeft
  simpa using readLeft.symm

end BooleanSearch.Query
