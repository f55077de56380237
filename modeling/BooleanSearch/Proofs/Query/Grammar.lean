import BooleanSearch.Proofs.Query.Reading
import BooleanSearch.Proofs.Query.Terms

/-! Queries are exactly the texts that the grammar of clauses derives, each in one way only. -/

namespace BooleanSearch.Query

/-- A clause as three runs of characters, of which the first is a sign at most. -/
structure Written where
  /-- The sign in front of the body. -/
  sign : Option Sign
  /-- The body, with its quotes or its suffix. -/
  body : List Char
  /-- The white space between the clause and the next one. -/
  space : List Char
deriving Repr, DecidableEq

/-- The characters of a clause. -/
def Written.text (clause : Written) : List Char :=
  signText clause.sign ++ clause.body ++ clause.space

/-- The characters of clauses in a row. -/
def writtenText (clauses : List Written) : List Char :=
  clauses.flatMap Written.text

/-- The operator that raw clauses hold for a sign. -/
def operatorText : Option Sign → Option String
  | none => none
  | some .plus => some "+"
  | some .minus => some "-"

/-- What a body says, by the sign in front of it and by what stands behind it. -/
inductive Means (sign : Option Sign) (behind : List Char) : List Char → Kind → String → Prop
  /-- A phrase says its words; how they are set apart does not count. -/
  | phrase {inner : List Char} {words : List (List Char)} (inside : IsInner inner)
      (split : WordsOf inner words) :
      Means sign behind ('"' :: inner ++ ['"']) .phrase
        (" ".intercalate (words.map String.ofList))
  /-- A decade ends its word, and its suffix does not count. -/
  | decade {run digits : List Char} (unquoted : Unquoted sign run behind) (shape : IsDecade digits)
      (written : run = digits ∨ run = digits ++ ['s']) (ends : atBreak behind) :
      Means sign behind run .decade (String.ofList digits)
  /-- Any other run is a term as it stands. -/
  | term {run : List Char} (unquoted : Unquoted sign run behind)
      (plain : ¬ (DecadeShaped run ∧ atBreak behind)) :
      Means sign behind run .term (String.ofList run)

/-- Clauses in a row that the grammar allows, with the raw clauses that they stand for. -/
inductive Lists : List Written → List RawClause → Prop
  | nil : Lists [] []
  | cons {clause : Written} {rest : List Written} {kind : Kind} {value : String}
      {raws : List RawClause}
      (meaning : Means clause.sign (clause.space ++ writtenText rest) clause.body kind value)
      (blank : ∀ c ∈ clause.space, isSpace c) (others : Lists rest raws) :
      Lists (clause :: rest) (⟨operatorText clause.sign, kind, value⟩ :: raws)

/-- A spelled clause as runs of characters. -/
def Spelling.written (spelling : Spelling) : Written :=
  ⟨spelling.sign, spelling.body.text, spelling.space⟩

/-- Spelled clauses and their runs are made of the same characters. -/
theorem writtenText_map (spelled : List Spelling) :
    writtenText (spelled.map Spelling.written) = spelledText spelled := by
  rw [writtenText, spelledText, List.flatMap_map]
  rfl

/-- Raw clauses name the operator of a sign by its character. -/
theorem operatorText_eq (sign : Option Sign) :
    operatorText sign = sign.map fun sign => String.ofList [sign.symbol] := by
  rcases sign with _ | _ | _ <;> rfl

/-- A body that fits says what the raw clause of its spelling holds. -/
theorem Body.Fits.means {sign : Option Sign} {behind : List Char} {body : Body}
    (fits : body.Fits sign behind) (space : List Char) :
    Means sign behind body.text (RawClause.ofSpelling ⟨sign, body, space⟩).kind
      (RawClause.ofSpelling ⟨sign, body, space⟩).value := by
  -- Spellings keep the suffix of a decade apart, and raw clauses drop it.
  cases fits with
  | @phrase inner inside =>
    simp only [RawClause.ofSpelling, phraseTerms, String.toList_ofList]
    exact .phrase inside (wordsOf_iff.2 rfl)
  | @decade digits suffixed shape ends =>
    refine .decade (shape.unquoted suffixed ends sign) shape ?_ ends
    cases suffixed <;> simp [Body.text]
  | term unquoted plain => exact .term unquoted plain

/-- What a run says is what the raw clause of a fitting body with that text holds. -/
theorem Means.fits {sign : Option Sign} {behind run : List Char} {kind : Kind} {value : String}
    (meaning : Means sign behind run kind value) (space : List Char) :
    ∃ body : Body, body.Fits sign behind ∧ body.text = run ∧
      RawClause.ofSpelling ⟨sign, body, space⟩ = ⟨operatorText sign, kind, value⟩ := by
  rw [operatorText_eq]
  -- Each way to mean something comes from one kind of body.
  cases meaning with
  | @phrase inner words inside split =>
    have terms_eq : phraseTerms (String.ofList inner) = words.map String.ofList := by
      rw [phraseTerms, String.toList_ofList, wordsOf_iff.1 split]
    exact ⟨.phrase inner, .phrase inside, rfl, by simp only [RawClause.ofSpelling, terms_eq]⟩
  | @decade run digits unquoted shape written ends =>
    rcases written with rfl | rfl
    · exact ⟨.decade run false, .decade shape ends, by simp [Body.text], rfl⟩
    · exact ⟨.decade digits true, .decade shape ends, rfl, rfl⟩
  | term unquoted plain => exact ⟨.term run, .term unquoted plain, rfl, rfl⟩

/-- The raw clause of a spelling holds the operator of its sign. -/
theorem ofSpelling_eq (spelling : Spelling) :
    RawClause.ofSpelling spelling = ⟨operatorText spelling.sign,
      (RawClause.ofSpelling spelling).kind, (RawClause.ofSpelling spelling).value⟩ := by
  obtain ⟨sign, body, space⟩ := spelling
  rw [operatorText_eq]
  cases body <;> rfl

/-- Well spelled clauses are derived by the grammar, and list their raw clauses. -/
theorem WellSpelled.lists {spelled : List Spelling} (well : WellSpelled spelled) :
    Lists (spelled.map Spelling.written) (spelled.map RawClause.ofSpelling) := by
  induction spelled with
  | nil => exact .nil
  | cons spelling rest ih =>
    obtain ⟨fits, blank, others⟩ := well
    -- What stands behind a clause is spelled by the clauses behind it.
    have meaning := fits.means spelling.space
    rw [← writtenText_map] at meaning
    rw [List.map_cons, List.map_cons, ofSpelling_eq]
    exact .cons meaning blank (ih others)

/-- Clauses that the grammar derives are the runs of well spelled ones. -/
theorem Lists.spelled {clauses : List Written} {raws : List RawClause}
    (listed : Lists clauses raws) :
    ∃ spelled, WellSpelled spelled ∧ spelled.map Spelling.written = clauses ∧
      spelled.map RawClause.ofSpelling = raws := by
  induction listed with
  | nil => exact ⟨[], trivial, rfl, rfl⟩
  | @cons clause rest kind value raws meaning blank others ih =>
    -- The clauses behind are spelled first, since the first body stands in front of them.
    obtain ⟨spelled, well, rfl, rfl⟩ := ih
    obtain ⟨body, fits, written, raw⟩ := meaning.fits clause.space
    rw [writtenText_map] at fits
    refine ⟨⟨clause.sign, body, clause.space⟩ :: spelled, ⟨fits, blank, well⟩, ?_, ?_⟩
    · simp [Spelling.written, written]
    · simp [raw]

/-- The raw clauses of a text are those of the well spelled clauses that it is made of. -/
theorem parse_eq_ok_iff {text : String} {raws : List RawClause} :
    parse text = .ok raws ↔ ∃ spelled, WellSpelled spelled ∧ spelledText spelled = text.toList ∧
      spelled.map RawClause.ofSpelling = raws := by
  constructor
  · intro parsed
    -- The parser names the clauses that the reader found.
    cases found : read text with
    | error stop => simp [parse, found] at parsed
    | ok spelled =>
      obtain ⟨well, same⟩ := read_eq_ok_iff.1 found
      exact ⟨spelled, well, same, by simpa [parse, found] using parsed⟩
  · rintro ⟨spelled, well, same, rfl⟩
    simp [parse, read_eq_ok_iff.2 ⟨well, same⟩]

/--
A text is parsed exactly as the grammar derives it, and the grammar derives it in one way.

A derivation accounts for every character of the text, with the white space between clauses.
So nothing is dropped, and a text that the grammar does not derive is an error.
-/
theorem parse_eq_ok_iff_lists (text : String) :
    (∀ raws, parse text = .ok raws ↔
      ∃ clauses, writtenText clauses = text.toList ∧ Lists clauses raws) ∧
    (∀ clauses others raws otherRaws, writtenText clauses = text.toList → Lists clauses raws →
      writtenText others = text.toList → Lists others otherRaws →
      clauses = others ∧ raws = otherRaws) := by
  constructor
  · -- Derivations and well spelled clauses stand for each other.
    intro raws
    rw [parse_eq_ok_iff]
    constructor
    · rintro ⟨spelled, well, same, rfl⟩
      exact ⟨_, by rw [writtenText_map, same], well.lists⟩
    · rintro ⟨clauses, same, listed⟩
      obtain ⟨spelled, well, rfl, raws_eq⟩ := listed.spelled
      exact ⟨spelled, well, by rw [← writtenText_map, same], raws_eq⟩
  · -- Both ways of writing the text are read as the same spelled clauses.
    intro clauses others raws otherRaws same listed otherSame otherListed
    obtain ⟨spelled, well, rfl, rfl⟩ := listed.spelled
    obtain ⟨otherSpelled, otherWell, rfl, rfl⟩ := otherListed.spelled
    rw [writtenText_map] at same otherSame
    rw [well.unique otherWell (same.trans otherSame.symm)]
    exact ⟨rfl, rfl⟩

end BooleanSearch.Query
