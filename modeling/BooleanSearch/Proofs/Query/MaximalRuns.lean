import BooleanSearch.Proofs.Query.Terms

/-! The terms of a phrase are the maximal runs without white space, each of them where it stands. -/

namespace BooleanSearch.Query

/-- A run of characters, and the offset at which it starts. -/
structure Run where
  /-- The offset of the first character. -/
  start : Nat
  /-- The characters of the run. -/
  chars : List Char

/-- The offset behind the last character of a run. -/
def Run.stop (run : Run) : Nat := run.start + run.chars.length

/-- An offset is one of those that a run reaches over. -/
def Run.Covers (run : Run) (offset : Nat) : Prop := run.start ≤ offset ∧ offset < run.stop

/-- A word stands in a text at its offset, and goes on as far as it can on both sides. -/
inductive Run.IsMaximal : List Char → Run → Prop
  | intro {front word behind : List Char} (isWord : IsWord word) (opens : atBreak front.reverse)
      (ends : atBreak behind) : IsMaximal (front ++ word ++ behind) ⟨front.length, word⟩

/-- Runs are all the words that a text has from an offset on. -/
structure RunsFrom (cs : List Char) (offset : Nat) (runs : List Run) : Prop where
  maximal : ∀ run ∈ runs, run.IsMaximal cs
  behind : ∀ run ∈ runs, offset ≤ run.start
  /-- They stand one behind the other. -/
  ordered : runs.Pairwise fun run later => run.stop ≤ later.start
  /-- Nothing but white space is left outside of them. -/
  covers : ∀ i, offset ≤ i → ∀ c ∈ cs[i]?, isSpace c = false → ∃ run ∈ runs, run.Covers i

variable {cs front rest word : List Char} {words : List (List Char)} {runs : List Run} {run : Run}

/-! ### White space between words -/

/-- Words of a text that ends at a break are followed by those of the text behind it. -/
theorem WordsOf.append {others : List (List Char)} (split : WordsOf cs words)
    (behind : WordsOf rest others) (ends : Query.atBreak rest) :
    WordsOf (cs ++ rest) (words ++ others) := by
  -- The induction is on how the text in front was split; its last word must not go on behind it.
  induction split with
  | nil => exact behind
  | space blank _ ih => exact .space blank ih
  | @word word tail words plain stops _ ih =>
    rw [List.append_assoc, List.cons_append]
    refine .word plain ?_ ih
    -- It ends where it did, or at the break that the text behind begins with.
    cases tail with
    | nil => exact ends
    | cons c tail => exact stops

/-- The words of a text have all of its characters but the white space, in their order. -/
theorem WordsOf.flatten_eq (split : WordsOf cs words) :
    words.flatten = cs.filter (!isSpace ·) := by
  -- A word is kept as a whole, and what stands around it is dropped.
  induction split with
  | nil => rfl
  | space blank _ ih => simp [blank, ih]
  | @word word rest words plain _ _ ih =>
    have kept : word.filter (!isSpace ·) = word :=
      List.filter_eq_self.2 fun c inside => by simp [plain.2 c inside]
    rw [List.flatten_cons, List.filter_append, kept, ih]

/-- However much white space stands in front of a text, it starts no term. -/
theorem terms_blank_append {space : List Char} (blank : ∀ c ∈ space, isSpace c)
    (rest : List Char) : terms (space ++ rest) = terms rest := by
  induction space with
  | nil => rfl
  | cons c space ih =>
    obtain ⟨first, others⟩ := List.forall_mem_cons.1 blank
    rw [List.cons_append, terms_space first, ih others]

/-- White space between two texts parts their terms. -/
theorem terms_append_space {space : List Char} (nonempty : space ≠ [])
    (blank : ∀ c ∈ space, isSpace c) (cs rest : List Char) :
    terms (cs ++ (space ++ rest)) = terms cs ++ terms rest := by
  -- The first text is cut off at the white space, which starts no term of the second one.
  have ends : atBreak (space ++ rest) := by
    obtain ⟨c, more, rfl⟩ := List.exists_cons_of_ne_nil nonempty
    exact blank c (by simp)
  rw [← terms_blank_append blank rest]
  exact ((wordsOf_terms cs).append (wordsOf_terms _) ends).terms_eq

/-! ### Where words stand -/

/-- There is no white space under a maximal run. -/
theorem Run.IsMaximal.plain (maximal : run.IsMaximal cs) {offset : Nat}
    (covers : run.Covers offset) : ∃ c ∈ cs[offset]?, isSpace c = false := by
  cases maximal with
  | @intro front word behind isWord _ _ =>
    obtain ⟨lower, upper⟩ := covers
    simp only [Run.stop] at lower upper
    -- Counted from the start of the run, the offset is one of the word.
    have inside : offset - front.length < word.length := by omega
    refine ⟨word[offset - front.length], ?_, isWord.2 _ (List.getElem_mem inside)⟩
    rw [List.append_assoc, List.getElem?_append_right lower, List.getElem?_append_left inside,
      List.getElem?_eq_getElem inside]
    rfl

/-- Directly behind a maximal run there is white space, or nothing. -/
theorem Run.IsMaximal.blank (maximal : run.IsMaximal cs) : ∀ c ∈ cs[run.stop]?, isSpace c := by
  cases maximal with
  | @intro front word behind _ _ ends =>
    intro c found
    -- The offset is that of the first character behind the word, if there is one.
    rw [Run.stop, ← List.length_append, List.getElem?_append_right (Nat.le_refl _),
      Nat.sub_self] at found
    cases behind with
    | nil => simp at found
    | cons next tail =>
      obtain rfl : next = c := by simpa using found
      exact ends

/-- The words of a text stand behind any front of it that does not join the first of them. -/
theorem WordsOf.exists_runs (split : WordsOf rest words) : ∀ front : List Char,
    (Query.atBreak front.reverse ∨ Query.atBreak rest) →
      ∃ runs, runs.map Run.chars = words ∧ RunsFrom (front ++ rest) front.length runs := by
  -- What has been split goes over to the front, which therefore stays quantified over.
  induction split with
  | nil =>
    intro front _
    -- Behind the front there is no offset left.
    refine ⟨[], rfl, by simp, by simp, .nil, fun i lower c found => ?_⟩
    rw [List.append_nil, List.getElem?_eq_none lower] at found
    contradiction
  | @space c rest words blank _ ih =>
    intro front _
    obtain ⟨runs, same, inner⟩ := ih (front ++ [c]) (.inl (by simpa [Query.atBreak] using blank))
    rw [List.append_assoc, List.singleton_append, List.length_append, List.length_singleton]
      at inner
    refine ⟨runs, same, inner.maximal,
      fun run member => Nat.le_of_succ_le (inner.behind run member), inner.ordered, ?_⟩
    intro i lower d found plain
    obtain rfl | above := Nat.eq_or_lt_of_le lower
    · -- The character itself is white space.
      obtain rfl : c = d := by simpa using found
      rw [blank] at plain
      contradiction
    · exact inner.covers i above d found plain
  | @word word rest words plain ends _ ih =>
    intro front opens
    -- The word itself is no break, so that there is one in front of it.
    have broken : Query.atBreak front.reverse := by
      obtain broken | broken := opens
      · exact broken
      · obtain ⟨c, tail, rfl⟩ := List.exists_cons_of_ne_nil plain.1
        have first : isSpace c = false := plain.2 c (by simp)
        rw [List.cons_append, Query.atBreak, first] at broken
        contradiction
    obtain ⟨runs, same, inner⟩ := ih (front ++ word) (.inr ends)
    rw [List.length_append] at inner
    rw [← List.append_assoc]
    -- The word is the first run, and all others are behind it.
    refine ⟨⟨front.length, word⟩ :: runs, by rw [List.map_cons, same], ?_, ?_, ?_, ?_⟩
    · exact List.forall_mem_cons.2 ⟨.intro plain broken ends, inner.maximal⟩
    · exact List.forall_mem_cons.2 ⟨Nat.le_refl _,
        fun run member => Nat.le_of_add_right_le (inner.behind run member)⟩
    · exact .cons inner.behind inner.ordered
    · intro i lower d found blank
      by_cases within : i < front.length + word.length
      · exact ⟨_, List.mem_cons_self, lower, within⟩
      · obtain ⟨run, member, covers⟩ := inner.covers i (by omega) d found blank
        exact ⟨run, List.mem_cons_of_mem _ member, covers⟩

/-- One of all the runs of a text covers two offsets exactly if no white space is between them. -/
theorem RunsFrom.exists_covers_iff (all : RunsFrom cs 0 runs) {i j : Nat} (le : i ≤ j)
    (within : j < cs.length) : (∃ run ∈ runs, run.Covers i ∧ run.Covers j) ↔
      ∀ k, i ≤ k → k ≤ j → ∀ c ∈ cs[k]?, isSpace c = false := by
  constructor
  · rintro ⟨run, member, first, last⟩ k lower upper c found
    -- What lies between two offsets of a run belongs to the run.
    have covered : run.Covers k :=
      ⟨Nat.le_trans first.1 lower, Nat.lt_of_le_of_lt upper last.2⟩
    obtain ⟨d, same, plain⟩ := (all.maximal run member).plain covered
    obtain rfl : d = c := Option.some.inj (same.symm.trans found)
    exact plain
  · intro plain
    -- The first character is no white space, so that some run covers it.
    have present := List.getElem?_eq_getElem (Nat.lt_of_le_of_lt le within)
    obtain ⟨run, member, covers⟩ :=
      all.covers i (Nat.zero_le _) _ present (plain i (Nat.le_refl _) le _ present)
    refine ⟨run, member, covers, Nat.le_trans covers.1 le, ?_⟩
    obtain inside | beyond := Nat.lt_or_ge j run.stop
    · exact inside
    · -- The white space behind the run would stand between the two offsets.
      have found := List.getElem?_eq_getElem (Nat.lt_of_le_of_lt beyond within)
      have none := plain run.stop (Nat.le_of_lt covers.2) beyond _ found
      rw [(all.maximal run member).blank _ found] at none
      contradiction

/-- Joined without anything between them, the terms are the body without its white space. -/
theorem join_phraseTerms (body : String) :
    String.join (phraseTerms body) = String.ofList (body.toList.filter (!isSpace ·)) := by
  -- Joining strings is joining the lists of their characters.
  rw [← (wordsOf_terms body.toList).flatten_eq, ← String.toList_inj, String.toList_ofList]
  simp [phraseTerms, List.flatMap_map, List.flatMap_id']

/-- There are six characters of white space, and blanks of other scripts are not among them. -/
theorem isSpace_iff {c : Char} :
    isSpace c = true ↔ c ∈ [' ', '\t', '\n', '\r', '\x0b', '\x0c'] := by
  simp [isSpace, or_assoc]

/--
The terms of the body of a phrase are its maximal runs without white space, in their order.

Two characters belong to one term exactly if from the one to the other no white space is met.
How much white space parts two terms, and where else there is some, does not count.
-/
theorem phraseTerms_runs (body : String) :
    (∀ c, isSpace c = true ↔ c ∈ [' ', '\t', '\n', '\r', '\x0b', '\x0c']) ∧
    (∀ term ∈ phraseTerms body, term ≠ "" ∧ ∀ c ∈ term.toList, isSpace c = false) ∧
    String.join (phraseTerms body) = String.ofList (body.toList.filter (!isSpace ·)) ∧
    (∃ runs : List Run, runs.map (fun run => String.ofList run.chars) = phraseTerms body ∧
      RunsFrom body.toList 0 runs ∧
      ∀ i j, i ≤ j → j < body.length →
        ((∃ run ∈ runs, run.Covers i ∧ run.Covers j) ↔
          ∀ k, i ≤ k → k ≤ j → ∀ c ∈ body.toList[k]?, isSpace c = false)) ∧
    phraseTerms (" ".intercalate (phraseTerms body)) = phraseTerms body ∧
    ∀ space behind : String, space ≠ "" → (∀ c ∈ space.toList, isSpace c) →
      phraseTerms (body ++ space ++ behind) = phraseTerms body ++ phraseTerms behind := by
  have isWords : ∀ term ∈ phraseTerms body, IsWord term.toList := by
    simp only [phraseTerms, List.forall_mem_map, String.toList_ofList]
    exact fun word member => ((wordsOf_terms body.toList).isWord word member).1
  refine ⟨fun c => isSpace_iff, fun term member => ?_, join_phraseTerms body, ?_,
    phraseTerms_intercalate isWords, fun space behind nonempty blank => ?_⟩
  · obtain ⟨nonempty, plain⟩ := isWords term member
    exact ⟨fun empty => nonempty (String.toList_eq_nil_iff.2 empty), plain⟩
  · obtain ⟨runs, same, all⟩ := (wordsOf_terms body.toList).exists_runs [] (.inl rfl)
    rw [List.nil_append, List.length_nil] at all
    refine ⟨runs, by rw [phraseTerms, ← same, List.map_map]; rfl, all, fun i j le within => ?_⟩
    exact all.exists_covers_iff le (by rwa [String.length_toList])
  · have someSpace : space.toList ≠ [] := fun none => nonempty (String.toList_eq_nil_iff.1 none)
    have parted := terms_append_space someSpace blank
    simp only [phraseTerms, String.toList_append, List.append_assoc, parted, List.map_append]

/-- Blanks of other scripts stay inside of terms, and white space at the ends of a body is none. -/
theorem phraseTerms_runs_blanks :
    let body := " the\tcat\u00a0in "
    phraseTerms body = ["the", "cat\u00a0in"] ∧ (∀ c ∈ "cat\u00a0in".toList, isSpace c = false) ∧
      String.join (phraseTerms body) = "thecat\u00a0in" ∧
      (∃ runs : List Run, runs.map (fun run => String.ofList run.chars) = phraseTerms body ∧
        (∃ run ∈ runs, run.Covers 5 ∧ run.Covers 10) ∧
          ¬ ∃ run ∈ runs, run.Covers 3 ∧ run.Covers 5) ∧
      "\r\n" ≠ "" ∧ (∀ c ∈ "\r\n".toList, isSpace c) ∧
        phraseTerms (body ++ "\r\n" ++ "\u3000hat") = ["the", "cat\u00a0in", "\u3000hat"] := by
  intro body
  obtain ⟨-, bare, joined, ⟨runs, same, -, together⟩, -, parted⟩ := phraseTerms_runs body
  have nonempty : "\r\n" ≠ "" := by decide
  have blank : ∀ c ∈ "\r\n".toList, isSpace c := List.all_eq_true.1 (by decide)
  have first : phraseTerms body = ["the", "cat\u00a0in"] := by decide
  have second : phraseTerms "\u3000hat" = ["\u3000hat"] := by decide
  have inner := together 5 10 (by decide) (by decide)
  have outer := together 3 5 (by decide) (by decide)
  have plain : ∀ k < 11, 5 ≤ k → body.toList[k]?.all (!isSpace ·) := by decide
  refine ⟨first, (bare _ (by simp [first])).2, joined.trans (by decide),
    ⟨runs, same, inner.2 ?_, fun covered => ?_⟩, nonempty, blank, ?_⟩
  · intro k lower upper c found
    have inside := plain k (Nat.lt_succ_of_le upper) lower
    rw [Option.mem_def.1 found] at inside
    simpa using inside
  · -- Between the two words there is a tab.
    have tab := outer.1 covered 4 (by decide) (by decide) '\t' (by decide)
    exact absurd tab (by decide)
  · rw [parted _ _ nonempty blank, first, second]
    rfl

end BooleanSearch.Query
