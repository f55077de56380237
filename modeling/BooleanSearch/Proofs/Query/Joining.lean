import BooleanSearch.Proofs.Query.Furthest
import Mathlib.Data.List.Basic

/-! Texts in a row are read one after the other, and a flaw of the second one is only moved. -/

namespace BooleanSearch.Query

/-- White space between two texts behind which the clauses of the first one stay what they are. -/
structure Seam (front space behind : List Char) : Prop where
  /-- Nothing but white space stands between the texts. -/
  blank : ∀ c ∈ space, isSpace c
  /-- Only behind white space or a quote the texts may touch each other. -/
  parted : space = [] → ∃ c ∈ front.getLast?, isSpace c ∨ c = '"'
  /-- The white space is all in front of the second text. -/
  opens : ∀ c ∈ behind.head?, isSpace c = false

variable {front space behind : List Char} {spelled others : List Spelling}

/-! ### Clauses in a row -/

/-- A body at the end of a text stays what it is if white space is written behind it. -/
theorem Body.Fits.before_space {sign : Option Sign} {body : Body} (fits : body.Fits sign [])
    (nonempty : space ≠ []) (blank : ∀ c ∈ space, isSpace c) :
    body.Fits sign (space ++ behind) := by
  obtain ⟨c, rest, rfl⟩ := List.exists_cons_of_ne_nil nonempty
  have first : isSpace c := blank c (by simp)
  -- White space ends a word just as the end of the text does.
  cases fits with
  | phrase inside => exact .phrase inside
  | decade shape ends => exact .decade shape first
  | term unquoted plain =>
    refine .term ⟨unquoted.nonempty, unquoted.termChars, .inl first, unquoted.unsigned⟩ ?_
    exact fun shaped => plain ⟨shaped.1, rfl⟩

/-- Of all bodies only a phrase ends with white space or with a quote. -/
theorem Body.Fits.of_closed {sign : Option Sign} {body : Body} (fits : body.Fits sign front)
    (ends : ∃ c ∈ body.text.getLast?, isSpace c ∨ c = '"') : body.Fits sign behind := by
  -- A run without quotes consists of other characters alone.
  have unquoted (run : List Char) (plain : Unquoted sign run front) :
      ¬ ∃ c ∈ run.getLast?, isSpace c ∨ c = '"' := by
    rintro ⟨c, last, broken⟩
    obtain ⟨noSpace, noQuote⟩ := isTermChar_iff.1 (plain.termChars c (List.mem_of_getLast? last))
    rcases broken with space | quote
    · rw [noSpace] at space
      contradiction
    · exact noQuote quote
  cases fits with
  | phrase inside => exact .phrase inside
  | @decade digits suffixed shape broken =>
    exact absurd ends (unquoted _ (shape.unquoted suffixed broken sign))
  | term plain _ => exact absurd ends (unquoted _ plain)

/-- The white space of a seam goes to the last clause in front of it, which says what it said. -/
theorem WellSpelled.joined (well : WellSpelled spelled) (nonempty : spelled ≠ [])
    (seam : Seam (spelledText spelled) space behind) :
    ∃ joined, Complete behind joined ∧ spelledText joined = spelledText spelled ++ space ∧
      joined.map RawClause.ofSpelling = spelled.map RawClause.ofSpelling := by
  obtain ⟨init, ⟨sign, body, gap⟩, rfl⟩ : ∃ init last, spelled = init ++ [last] :=
    ⟨_, _, (List.dropLast_append_getLast nonempty).symm⟩
  obtain ⟨before, fits, blank, -⟩ := complete_append.1 (wellSpelled_iff.1 well)
  dsimp only at fits blank
  obtain ⟨c, tail, opening, -⟩ := fits.opens
  refine ⟨init ++ [⟨sign, body, gap ++ space⟩],
    complete_append.2 ⟨before.of_head? ?_, ?_, ?_, trivial⟩, ?_, ?_⟩
  · -- The last clause opens as before, with its sign or with its body.
    cases sign <;> simp [spelledText, Spelling.text, signText, opening]
  · dsimp only
    cases gap with
    | cons d more => exact fits.of_head? (by simp)
    | nil =>
      by_cases touching : space = []
      · -- Without white space the text in front ends with the last body.
        subst touching
        refine fits.of_closed ?_
        simpa [spelledText, Spelling.text, opening] using seam.parted rfl
      · exact fits.before_space touching seam.blank
  · -- Behind the last clause stand its own white space and that of the seam.
    exact List.forall_mem_append.2 ⟨blank, seam.blank⟩
  · simp [spelledText, Spelling.text]
  · -- White space says nothing.
    cases body <;> simp [RawClause.ofSpelling]

/-- A boundary of a text is one of all texts that have complete clauses in front of it. -/
theorem Boundary.moved {cs : List Char} {offset : Nat} (boundary : Boundary cs offset behind)
    (complete : Complete cs spelled) :
    Boundary (spelledText spelled ++ cs) ((spelledText spelled).length + offset) behind := by
  obtain ⟨others, between, rfl, rfl⟩ := boundary
  -- The clauses in front of the boundary come behind those of the other text.
  exact ⟨spelled ++ others, complete_append.2 ⟨complete, between⟩, by simp [spelledText],
    by simp [spelledText]⟩

/-- A flaw other than white space at the start stays behind complete clauses, as far as they go. -/
theorem HasFlaw.moved {cs : List Char} {flaw : Flaw} {position : Nat}
    (flawed : HasFlaw cs flaw position) (complete : Complete cs spelled)
    (opens : ∀ c ∈ cs.head?, isSpace c = false) :
    HasFlaw (spelledText spelled ++ cs) flaw ((spelledText spelled).length + position) := by
  cases flawed with
  | @leadingSpace c rest same space =>
    -- This flaw is excluded, as it would be none behind other clauses.
    subst same
    rw [opens c (by simp)] at space
    contradiction
  | bareSign boundary broken => exact .bareSign (boundary.moved complete) broken
  | unclosedPhrase boundary noQuote =>
    -- The phrase is still open at the end of the longer text.
    rw [← List.length_append]
    exact .unclosedPhrase (boundary.moved complete) noQuote
  | blankPhrase boundary space closed =>
    rw [← Nat.add_assoc, ← Nat.add_assoc]
    exact .blankPhrase (boundary.moved complete) space closed

/--
A text behind a query, with a seam between them, is read as it is read on its own.

Its clauses come behind those of the query, and a report on it is moved by what stands in front.
-/
theorem parse_append {front space behind : String} {raws : List RawClause}
    (accepted : parse front = .ok raws) (nonempty : raws ≠ [])
    (seam : Seam front.toList space.toList behind.toList) :
    (∀ others, parse behind = .ok others →
      parse (front ++ space ++ behind) = .ok (raws ++ others)) ∧
    (∀ error, parse behind = .error error →
      parse (front ++ space ++ behind) = .error ⟨front ++ space ++ behind,
        front.length + space.length + error.position, error.expected⟩) := by
  obtain ⟨spelled, well, same, rfl⟩ := parse_eq_ok_iff.1 accepted
  rw [← same] at seam
  -- The query is read as complete clauses in front of whatever stands behind the seam.
  obtain ⟨joined, complete, written, raws_eq⟩ := well.joined (by simpa using nonempty) seam
  have text : (front ++ space ++ behind).toList = spelledText joined ++ behind.toList := by
    rw [written, same, String.toList_append, String.toList_append]
  constructor
  · intro others acceptedBehind
    obtain ⟨rest, wellBehind, sameBehind, rfl⟩ := parse_eq_ok_iff.1 acceptedBehind
    rw [← sameBehind] at complete
    refine parse_eq_ok_iff.2 ⟨joined ++ rest, complete.wellSpelled wellBehind, ?_, ?_⟩
    · simp [text, ← sameBehind, spelledText]
    · rw [List.map_append, raws_eq]
  · intro error rejected
    obtain ⟨flaw, position, flawed, rfl⟩ := exists_hasFlaw rejected
    have moved := flawed.moved complete seam.opens
    rw [← text] at moved
    have length : (spelledText joined).length = front.length + space.length := by
      rw [written, same, List.length_append, String.length_toList, String.length_toList]
    rw [moved.parse, length]
    simp

/-- A phrase may be touched by a decade, and a report on a text behind a gap counts the gap too. -/
theorem parse_append_phrase :
    parse ("1990s\"a\"" ++ "" ++ "1990s") =
        .ok [⟨none, .term, "1990s"⟩, ⟨none, .phrase, "a"⟩, ⟨none, .decade, "1990"⟩] ∧
      parse ("1990s\"a\"" ++ " \t" ++ "\" b\"") =
        .error ⟨"1990s\"a\"" ++ " \t" ++ "\" b\"", 11, ["closing quote", "term"]⟩ := by
  have accepted : parse "1990s\"a\"" = .ok [⟨none, .term, "1990s"⟩, ⟨none, .phrase, "a"⟩] := by cbv
  have nonempty : [RawClause.mk none .term "1990s", ⟨none, .phrase, "a"⟩] ≠ [] := by simp
  have touching : Seam "1990s\"a\"".toList "".toList "1990s".toList :=
    ⟨by simp, fun _ => ⟨'"', by decide, .inr rfl⟩, by simp [isSpace]⟩
  have parted : Seam "1990s\"a\"".toList " \t".toList "\" b\"".toList :=
    ⟨by simp [isSpace], fun empty => absurd empty (by decide), by simp [isSpace]⟩
  constructor
  · exact (parse_append accepted nonempty touching).1 [⟨none, .decade, "1990"⟩] (by cbv)
  · exact (parse_append accepted nonempty parted).2
      ⟨"\" b\"", 1, ["closing quote", "term"]⟩ (by cbv)

end BooleanSearch.Query
