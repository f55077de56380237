import BooleanSearch.Query.RawClause

/-! The terms of a phrase are its words; words joined by single spaces are split as they were. -/

namespace BooleanSearch.Query

/-- A word is a run without white space that is not empty. -/
def IsWord (word : List Char) : Prop :=
  word ≠ [] ∧ ∀ c ∈ word, isSpace c = false

/-- A character that is no white space is a word on its own. -/
theorem isWord_single {c : Char} (plain : isSpace c = false) : IsWord [c] :=
  ⟨by simp, by simpa using plain⟩

/-- The words that a text is made of, each of them ended by white space or by the end. -/
inductive WordsOf : List Char → List (List Char) → Prop
  | nil : WordsOf [] []
  /-- White space around words does not count. -/
  | space {c : Char} {rest : List Char} {words : List (List Char)} (blank : isSpace c)
      (others : WordsOf rest words) : WordsOf (c :: rest) words
  /-- A word goes on as far as it can. -/
  | word {word rest : List Char} {words : List (List Char)} (plain : IsWord word)
      (ends : atBreak rest) (others : WordsOf rest words) : WordsOf (word ++ rest) (word :: words)

/-- White space in front of a text starts no term. -/
theorem terms_space {c : Char} (space : isSpace c) (rest : List Char) :
    terms (c :: rest) = terms rest := by
  simp [terms, space]

/-- A word in front of a break is a term of its own. -/
theorem terms_word {word : List Char} (plain : IsWord word) {rest : List Char}
    (ends : atBreak rest) : terms (word ++ rest) = word :: terms rest := by
  -- Each character joins the term behind it, except for the last one of the word.
  obtain ⟨nonempty, plain⟩ := plain
  induction word with
  | nil => contradiction
  | cons c tail ih =>
    have first : isSpace c = false := plain c (by simp)
    cases tail with
    | nil =>
      -- The break keeps the last character of the word apart from the term behind it.
      cases rest with
      | nil => simp [terms, first]
      | cons next behind =>
        have space : isSpace next := ends
        cases split : terms behind <;> simp [terms, first, space, split]
    | cons next tail =>
      have second : isSpace next = false := plain next (by simp)
      have inner := ih (by simp) fun d member => plain d (by simp [member])
      rw [List.cons_append] at inner ⊢
      simp [terms.eq_2 c, first, inner, second]

/-- The words of a text are its terms. -/
theorem WordsOf.terms_eq {cs : List Char} {words : List (List Char)} (split : WordsOf cs words) :
    terms cs = words := by
  induction split with
  | nil => rfl
  | space blank _ ih => rw [terms_space blank, ih]
  | word plain ends _ ih => rw [terms_word plain ends, ih]

/-- A character in front of a word makes the word longer. -/
theorem WordsOf.cons {c next : Char} {rest first : List Char} {words : List (List Char)}
    (plain : isSpace c = false) (joined : isSpace next = false)
    (split : WordsOf (next :: rest) (first :: words)) :
    WordsOf (c :: next :: rest) ((c :: first) :: words) := by
  -- The first word starts with the first character, as this is no white space.
  generalize text : next :: rest = cs at split
  cases split with
  | space blank others =>
    obtain ⟨rfl, rfl⟩ := List.cons.inj text
    rw [joined] at blank
    contradiction
  | @word _ behind _ word ends others =>
    have longer : IsWord (c :: first) := ⟨by simp, List.forall_mem_cons.2 ⟨plain, word.2⟩⟩
    exact .word longer ends others

/-- A text without words is empty or opens with white space. -/
theorem WordsOf.atBreak {cs : List Char} (split : WordsOf cs []) : Query.atBreak cs := by
  cases split with
  | nil => rfl
  | space blank _ => exact blank

/-- The terms of a text are its words. -/
theorem wordsOf_terms (cs : List Char) : WordsOf cs (terms cs) := by
  -- A term is one of those behind the first character, or it starts with that character.
  fun_induction terms cs with
  | case1 => exact .nil
  | case2 c rest space ih => exact .space space ih
  | case3 c rest space next first behind split opens blank ih =>
    obtain ⟨tail, rfl⟩ := List.head?_eq_some_iff.1 opens
    rw [split] at ih
    exact .word (isWord_single (by simpa using space)) blank ih
  | case4 c rest space next first behind split opens joined ih =>
    obtain ⟨tail, rfl⟩ := List.head?_eq_some_iff.1 opens
    rw [split] at ih
    exact ih.cons (by simpa using space) (by simpa using joined)
  | case5 c rest space apart ih =>
    have ends : atBreak rest := by
      -- Behind the character there is nothing, or nothing but white space.
      cases rest with
      | nil => rfl
      | cons next tail =>
        cases split : terms (next :: tail) with
        | nil => exact (split ▸ ih).atBreak
        | cons term behind => exact (apart next term behind rfl split).elim
    exact .word (isWord_single (by simpa using space)) ends ih

/-- The words of a text are its terms, so that a text has its words in one way only. -/
theorem wordsOf_iff {cs : List Char} {words : List (List Char)} :
    WordsOf cs words ↔ terms cs = words := by
  constructor
  · exact WordsOf.terms_eq
  · rintro rfl
    exact wordsOf_terms cs

/-- Words are made of characters of their text. -/
theorem WordsOf.isWord {cs : List Char} {words : List (List Char)} (split : WordsOf cs words) :
    ∀ word ∈ words, IsWord word ∧ ∀ c ∈ word, c ∈ cs := by
  -- The induction is on how the text was split.
  induction split with
  | nil => simp
  | space _ _ ih =>
    intro word member
    obtain ⟨isWord, within⟩ := ih word member
    exact ⟨isWord, fun c inside => List.mem_cons_of_mem _ (within c inside)⟩
  | word plain _ _ ih =>
    refine List.forall_mem_cons.2 ⟨⟨plain, fun c inside => List.mem_append_left _ inside⟩, ?_⟩
    intro word member
    obtain ⟨isWord, within⟩ := ih word member
    exact ⟨isWord, fun c inside => List.mem_append_right _ (within c inside)⟩

/-- Words with single spaces between them are split into the same words. -/
theorem terms_intercalate {words : List (List Char)} (plain : ∀ word ∈ words, IsWord word) :
    terms ([' '].intercalate words) = words := by
  induction words with
  | nil => rfl
  | cons word rest ih =>
    have others := ih fun other member => plain other (by simp [member])
    cases rest with
    | nil =>
      -- Nothing follows the last word.
      have alone : terms (word ++ []) = [word] := terms_word (plain word (by simp)) rfl
      simpa using alone
    | cons next rest =>
      rw [List.intercalate_cons_cons, List.append_assoc, terms_word (plain word (by simp)) rfl,
        List.singleton_append, terms_space rfl, others]

/-- The words of a phrase, joined by single spaces, are the words of the phrase again. -/
theorem phraseTerms_intercalate {words : List String}
    (plain : ∀ word ∈ words, IsWord word.toList) :
    phraseTerms (" ".intercalate words) = words := by
  -- Strings are split and joined as the lists of their characters are.
  have split : terms ([' '].intercalate (words.map String.toList)) = words.map String.toList :=
    terms_intercalate (by simpa using plain)
  have single : " ".toList = [' '] := rfl
  rw [phraseTerms, String.toList_intercalate, single, split, List.map_map]
  simp [Function.comp_def]

end BooleanSearch.Query
