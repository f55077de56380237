import BooleanSearch.Proofs.Query.Explanation

/-! The characters of explanations: those of the text, and besides them no controls but breaks. -/

namespace BooleanSearch.Query

open Number

variable {c : Char} {text : String} {raw : RawClause} {clause : Clause} {query : Buckets}

/-! ### Raw clauses -/

/-- The value of a raw clause is spelled in its body, but for the spaces between words. -/
theorem mem_value_ofSpelling {spelling : Spelling}
    (member : c ∈ (RawClause.ofSpelling spelling).value.toList) :
    c = ' ' ∨ c ∈ spelling.body.text := by
  obtain ⟨sign, body, space⟩ := spelling
  cases body with
  | phrase inner =>
    simp only [RawClause.ofSpelling, String.toList_intercalate] at member
    rcases mem_intercalate member with between | ⟨word, among, inside⟩
    · exact .inl (List.mem_singleton.1 between)
    · -- The words of a phrase are those that stand between its quotes.
      simp only [phraseTerms, String.toList_ofList, List.map_map, List.mem_map,
        Function.comp_apply] at among
      obtain ⟨term, listed, rfl⟩ := among
      obtain ⟨-, within⟩ := (wordsOf_terms inner).isWord term listed
      exact .inr (List.mem_cons_of_mem _ (List.mem_append_left _ (within c inside)))
  | decade digits suffixed =>
    exact .inr (List.mem_append_left _ (by simpa [RawClause.ofSpelling] using member))
  | term run => exact .inr (by simpa [RawClause.ofSpelling, Body.text] using member)

/-- The values of raw clauses are made of characters of the text, and of spaces. -/
theorem mem_value_of_parse {raws : List RawClause} (parsed : parse text = .ok raws)
    (among : raw ∈ raws) (member : c ∈ raw.value.toList) : c = ' ' ∨ c ∈ text.toList := by
  obtain ⟨spelled, -, same, rfl⟩ := parse_eq_ok_iff.1 parsed
  obtain ⟨spelling, listed, rfl⟩ := List.mem_map.1 among
  refine (mem_value_ofSpelling member).imp_right fun inside => ?_
  rw [← same, spelledText]
  exact List.mem_flatMap.2 ⟨spelling, listed,
    List.mem_append_left _ (List.mem_append_right _ inside)⟩

/-! ### Clauses -/

/-- What one of two related lists holds is related to a member of the other one. -/
theorem exists_of_forall₂ {related : α → β → Prop} {items : List α} {others : List β} {other : β}
    (pairs : List.Forall₂ related items others) (among : other ∈ others) :
    ∃ item ∈ items, related item other := by
  induction pairs with
  | nil => simp at among
  | cons first _ ih =>
    rcases List.mem_cons.1 among with rfl | later
    · exact ⟨_, by simp, first⟩
    · obtain ⟨item, listed, holds⟩ := ih later
      exact ⟨item, by simp [listed], holds⟩

/-- Each clause of a query stands for a raw clause of its text. -/
theorem exists_raw (asked : Buckets.ofText text = .ok query) {operator : Operator}
    (among : clause ∈ query.bucket operator) :
    ∃ raws raw, parse text = .ok raws ∧ raw ∈ raws ∧ StandsFor raw clause := by
  unfold Buckets.ofText at asked
  cases parsed : parse text with
  | error error => simp [parsed] at asked
  | ok raws =>
    cases classified : classifyAll raws with
    | error error => simp [parsed, classified] at asked
    | ok clauses =>
      obtain rfl : Buckets.ofClauses clauses = query := by simpa [parsed, classified] using asked
      rw [Buckets.bucket_ofClauses] at among
      obtain ⟨raw, listed, stands⟩ :=
        exists_of_forall₂ (classifyAll_eq_ok_iff.1 classified) (List.mem_filter.1 among).1
      exact ⟨raws, raw, rfl, listed, stands⟩

/-- The label of a clause is made of the value of its raw clause and of no controls. -/
theorem mem_label (stands : StandsFor raw clause) (member : c ∈ clause.label.toList) :
    0x20 ≤ c.toNat ∨ c ∈ raw.value.toList := by
  have opening : Json.NoControls "term ".toList ∧ Json.NoControls "phrase \"".toList ∧
      Json.NoControls "years ".toList := by decide
  have closing : Json.NoControls "\"".toList ∧ Json.NoControls "-".toList := by decide
  -- What a label puts around a value depends on the kind, which also tells how the value is held.
  obtain ⟨operator, content⟩ := clause
  obtain ⟨symbol, kind, value⟩ := raw
  cases stands.2 with
  | term =>
    rw [Clause.label, String.toList_append, List.mem_append] at member
    exact member.imp_left (opening.1 c)
  | phrase =>
    simp only [Clause.label, String.toList_append, List.mem_append] at member
    obtain (quoted | inside) | quoted := member
    · exact .inl (opening.2.1 c quoted)
    · exact .inr inside
    · exact .inl (closing.1 c quoted)
  | decade spelled =>
    -- Years are made of digits, and of a sign at most.
    simp only [Clause.label, String.toList_append, List.mem_append] at member
    obtain ((named | first) | dash) | last := member
    · exact .inl (opening.2.2 c named)
    · exact .inl (Json.noControls_intText _ c first)
    · exact .inl (closing.2 c dash)
    · exact .inl (Json.noControls_intText _ c last)

/-- The labels of a query are made of characters of the text and of no controls. -/
theorem mem_label_of_query (asked : Buckets.ofText text = .ok query) {operator : Operator}
    (among : clause ∈ query.bucket operator) (member : c ∈ clause.label.toList) :
    0x20 ≤ c.toNat ∨ c ∈ text.toList := by
  obtain ⟨raws, raw, parsed, listed, stands⟩ := exists_raw asked among
  obtain plain | valued := mem_label stands member
  · exact .inl plain
  · -- A value is cut out of the text, but for the blanks that it is joined with.
    obtain rfl | inText := mem_value_of_parse parsed listed valued
    · exact .inl (by decide)
    · exact .inr inText

/-! ### Explanations -/

/-- The lines of an explanation are made of characters of the text and of no controls. -/
theorem mem_lines (asked : Buckets.ofText text = .ok query) {line : String}
    (among : line ∈ query.lines) (member : c ∈ line.toList) :
    0x20 ≤ c.toNat ∨ c ∈ text.toList := by
  have indent : Json.NoControls "   ".toList := by decide
  have dash : Json.NoControls "-".toList := by decide
  obtain ⟨operator, -, inside⟩ := List.mem_flatMap.1 among
  rw [Buckets.sectionLines_eq, List.mem_cons] at inside
  obtain rfl | labelled := inside
  · -- Headings are the same for all queries.
    have heading : Json.NoControls (operator.section ++ ":").toList := by cases operator <;> decide
    exact .inl (heading c member)
  · obtain ⟨label, listed, rfl⟩ := List.mem_map.1 labelled
    rw [String.toList_append, List.mem_append] at member
    obtain blank | shown := member
    · exact .inl (indent c blank)
    · -- A dash stands for an empty bucket, and all other labels are those of clauses.
      obtain ⟨-, labels⟩ | labels := query.labels_cases operator
      · rw [labels] at listed
        obtain rfl := List.mem_singleton.1 listed
        exact .inl (dash c shown)
      · rw [labels] at listed
        obtain ⟨clause, held, rfl⟩ := List.mem_map.1 listed
        exact mem_label_of_query asked held shown

/-- An explanation is made of characters of the text, of breaks, and of no other controls. -/
theorem mem_explanation (asked : Buckets.ofText text = .ok query)
    (member : c ∈ query.explanation.toList) : 0x20 ≤ c.toNat ∨ c = '\n' ∨ c ∈ text.toList := by
  rw [Buckets.explanation, String.toList_append, List.mem_append,
    String.toList_intercalate] at member
  obtain inside | last := member
  · -- Breaks stand between the lines, and what a line holds is known.
    obtain between | ⟨line, among, held⟩ := mem_intercalate inside
    · exact .inr (.inl (List.mem_singleton.1 between))
    · obtain ⟨shown, listed, rfl⟩ := List.mem_map.1 among
      exact (mem_lines asked listed held).imp_right .inr
  · exact .inr (.inl (List.mem_singleton.1 last))

end BooleanSearch.Query
