import BooleanSearch.Proofs.Number.Decimals
import BooleanSearch.Proofs.Query.Classifying
import BooleanSearch.Proofs.Query.Rendering
import BooleanSearch.Proofs.Query.Sections
import BooleanSearch.Query.Explanation
import Mathlib.Data.List.Basic

/-! Queries are told apart by their explanations just as they are by their documents. -/

namespace BooleanSearch.Query

open Number

variable {fields : FieldNames}

/-! ### Queries of texts -/

/-- What stands on one line, with years that have no sign. -/
def Content.Plain : Content → Prop
  | .term text => '\n' ∉ text.toList
  | .phrase text => '\n' ∉ text.toList
  | .years decade => 0 ≤ decade.first

/-- Clauses in the buckets of their operators, each of which stands on one line. -/
structure Buckets.Plain (query : Buckets) : Prop where
  operators : ∀ operator, ∀ clause ∈ query.bucket operator, clause.operator = operator
  contents : ∀ operator, ∀ clause ∈ query.bucket operator, clause.content.Plain

/-- The value of a phrase stands on one line, as its words do. -/
theorem IsPhraseValue.newline_notMem {value : String} (fitting : IsPhraseValue value) :
    '\n' ∉ value.toList := by
  obtain ⟨words, plain, rfl⟩ := fitting
  intro member
  rw [String.toList_intercalate] at member
  obtain space | ⟨word, among, inside⟩ := mem_intercalate member
  · exact absurd space (by decide)
  · obtain ⟨text, listed, rfl⟩ := List.mem_map.1 among
    exact absurd ((plain text listed).2 _ inside).1 (by decide)

/-- A raw clause that can stand in a query stands for a clause that stands on one line. -/
theorem RawClause.Possible.plain {raw : RawClause} {clause : Clause} (possible : raw.Possible)
    (stands : StandsFor raw clause) : clause.content.Plain := by
  obtain ⟨operator, content⟩ := clause
  obtain ⟨symbol, kind, value⟩ := raw
  obtain ⟨-, fitting⟩ := possible
  -- The operator has no part in what is looked for.
  cases stands.2 with
  | term =>
    have term : IsTermValue symbol value := fitting
    -- A term ends before any white space.
    intro member
    exact absurd (term.plain _ member).1 (by decide)
  | phrase => exact IsPhraseValue.newline_notMem fitting
  | decade spelled =>
    obtain ⟨year, reads, -, -, first, -⟩ := IsDecade.exists_year fitting
    rw [String.ofList_toList, integerOfText?_eq_some_iff.2 spelled] at reads
    obtain rfl := Option.some.inj reads
    exact Int.le_trans (by decide) first

theorem Expressible.plain {raws : List RawClause} {clauses : List Clause}
    (expressible : Expressible raws) (stand : List.Forall₂ StandsFor raws clauses) :
    ∀ clause ∈ clauses, clause.content.Plain := by
  induction stand with
  | nil => simp
  | cons first _ ih =>
    obtain ⟨possible, -, others⟩ := expressible
    exact List.forall_mem_cons.2 ⟨possible.plain first, ih others⟩

/-- A text that is parsed has a query, and each clause of it stands on one line. -/
theorem exists_plain_query {text : String} {raws : List RawClause}
    (accepted : parse text = .ok raws) :
    ∃ query : Buckets, Buckets.ofText text = .ok query ∧ query.Plain := by
  have expressible : Expressible raws := expressible_of_parse accepted
  obtain ⟨clauses, classified, -⟩ := expressible.classifyAll .standard
  refine ⟨.ofClauses clauses, by simp [Buckets.ofText, accepted, classified],
    Buckets.filed_ofClauses clauses, ?_⟩
  intro operator clause member
  rw [Buckets.bucket_ofClauses] at member
  exact expressible.plain (classifyAll_eq_ok_iff.1 classified) clause (List.mem_filter.1 member).1

/-- Buckets are the same if something that tells their contents apart is. -/
theorem Buckets.Plain.bucket_eq {query other : Buckets} (plain : query.Plain)
    (otherPlain : other.Plain) {tell : Clause → β} {operator : Operator}
    (tells : ∀ {a b : Clause}, a.content.Plain → b.content.Plain → tell a = tell b →
      a.content = b.content)
    (same : (query.bucket operator).map tell = (other.bucket operator).map tell) :
    query.bucket operator = other.bucket operator := by
  have operators := plain.operators operator
  have contents := plain.contents operator
  have otherOperators := otherPlain.operators operator
  have otherContents := otherPlain.contents operator
  generalize query.bucket operator = clauses at *
  generalize other.bucket operator = others at *
  induction clauses generalizing others with
  | nil => exact (List.map_eq_nil_iff.1 same.symm).symm
  | cons clause rest ih =>
    -- What is told of the first clause is told of the first clause of the other bucket.
    obtain ⟨next, behind, rfl, first, later⟩ := List.map_eq_cons_iff.1 same.symm
    simp only [List.forall_mem_cons] at operators contents otherOperators otherContents
    -- Both clauses have the operator of the bucket.
    have content := tells contents.1 otherContents.1 first.symm
    have own : clause.operator = next.operator := operators.1.trans otherOperators.1.symm
    have head : clause = next := by
      obtain ⟨operator, text⟩ := clause
      obtain ⟨nextOperator, nextText⟩ := next
      obtain rfl : operator = nextOperator := own
      obtain rfl : text = nextText := content
      rfl
    rw [head, ih operators.2 contents.2 behind otherOperators.2 otherContents.2 later.symm]

/-! ### Labels -/

/-- No label is the dash that stands for an empty bucket. -/
theorem Clause.label_ne_dash (clause : Clause) : clause.label ≠ "-" := by
  intro same
  have chars := congrArg String.toList same
  obtain ⟨operator, text | text | decade⟩ := clause <;> simp [Clause.label] at chars

/-- A dash ends the first of two years. -/
theorem first_eq_of_years {first last otherFirst otherLast : Nat}
    (same : intText first ++ "-" ++ intText last = intText otherFirst ++ "-" ++ intText otherLast) :
    first = otherFirst := by
  have noDash (number : Nat) : '-' ∉ (intText number).toList := notMem_intText rfl number
  have chars : (intText first).toList ++ '-' :: (intText last).toList =
      (intText otherFirst).toList ++ '-' :: (intText otherLast).toList := by
    simpa using congrArg String.toList same
  -- Neither number holds a dash of its own.
  have firsts := (List.append_cons_inj_of_notMem (noDash first) (noDash last)).1 chars
  exact intText_injective (String.toList_inj.1 firsts.1)

/-- A label tells what its clause looks for. -/
theorem Clause.content_eq_of_label {a b : Clause} (plain : a.content.Plain)
    (otherPlain : b.content.Plain) (same : a.label = b.label) : a.content = b.content := by
  obtain ⟨operator, content⟩ := a
  obtain ⟨other, otherContent⟩ := b
  cases content <;> cases otherContent
  case term.term text other =>
    have texts : text = other := (String.append_right_inj "term ").1 same
    rw [texts]
  case phrase.phrase text other =>
    have opened := (String.append_left_inj "\"").1 same
    have texts : text = other := (String.append_right_inj "phrase \"").1 opened
    rw [texts]
  case years.years decade other =>
    obtain ⟨year, first⟩ := Int.eq_ofNat_of_zero_le plain
    obtain ⟨otherYear, otherFirst⟩ := Int.eq_ofNat_of_zero_le otherPlain
    have years : intText year ++ "-" ++ intText (year + 9 : Nat) =
        intText otherYear ++ "-" ++ intText (otherYear + 9 : Nat) := by
      simpa [Clause.label, Decade.last, first, otherFirst, String.append_assoc] using same
    have whole : decade = other := by
      apply Decade.eq_of_first
      rw [first, otherFirst, first_eq_of_years years]
    rw [whole]
  -- Labels of different kinds do not open with the same character.
  all_goals
    have chars := congrArg String.toList same
    simp [Clause.label] at chars

theorem Clause.newline_notMem_label {clause : Clause} (plain : clause.content.Plain) :
    '\n' ∉ clause.label.toList := by
  obtain ⟨operator, content⟩ := clause
  cases content with
  | term text =>
    have inside : '\n' ∉ text.toList := plain
    simpa [Clause.label] using inside
  | phrase text =>
    have inside : '\n' ∉ text.toList := plain
    simpa [Clause.label] using inside
  | years decade =>
    have digits (number : Nat) : '\n' ∉ (intText number).toList := notMem_intText rfl number
    obtain ⟨year, first⟩ := Int.eq_ofNat_of_zero_le plain
    have last : decade.last = (year + 9 : Nat) := by
      rw [Decade.last, first]
      rfl
    simp only [Clause.label, first, last, String.toList_append, List.mem_append, digits, or_false]
    decide

/-! ### Lines -/

/-- The lines of an explanation. -/
def Buckets.lines (query : Buckets) : List String :=
  Operator.all.flatMap query.sectionLines

/-- What is said of the clauses of an operator. -/
def Buckets.labels (query : Buckets) (operator : Operator) : List String :=
  match query.bucket operator with
  | [] => ["-"]
  | clauses => clauses.map Clause.label

theorem Buckets.sectionLines_eq (query : Buckets) (operator : Operator) :
    query.sectionLines operator =
      (operator.section ++ ":") :: (query.labels operator).map ("   " ++ ·) := rfl

/-- A separator behind the last part stands between that part and an empty one. -/
theorem intercalate_concat_nil (separator : List α) {parts : List (List α)} (some : parts ≠ []) :
    separator.intercalate (parts ++ [[]]) = separator.intercalate parts ++ separator := by
  induction parts with
  | nil => contradiction
  | cons part rest ih =>
    -- Separators stand behind all parts but the last one.
    cases rest with
    | nil => simp [List.intercalate_cons_cons]
    | cons next rest =>
      have later := ih (by simp)
      simp only [List.cons_append] at later ⊢
      rw [List.intercalate_cons_cons, List.intercalate_cons_cons, later, List.append_assoc,
        List.append_assoc, List.append_assoc]

theorem Buckets.Plain.newline_notMem_lines {query : Buckets} (plain : query.Plain) :
    ∀ line ∈ query.lines, '\n' ∉ line.toList := by
  intro line member
  obtain ⟨operator, -, inside⟩ := List.mem_flatMap.1 member
  rw [Buckets.sectionLines_eq, List.mem_cons] at inside
  obtain rfl | labelled := inside
  · -- The headings are three fixed texts.
    cases operator <;> decide
  · obtain ⟨label, among, rfl⟩ := List.mem_map.1 labelled
    have inLabel : '\n' ∉ label.toList := by
      unfold Buckets.labels at among
      split at among
      · obtain rfl := List.mem_singleton.1 among
        decide
      · obtain ⟨clause, listed, rfl⟩ := List.mem_map.1 among
        exact Clause.newline_notMem_label (plain.contents operator clause listed)
    simpa using inLabel

/-- The lines of an explanation are found where it is split. -/
theorem Buckets.Plain.splitOn_explanation {query : Buckets} (plain : query.Plain) :
    query.explanation.toList.splitOn '\n' = query.lines.map String.toList ++ [[]] := by
  have headed : query.lines.map String.toList ≠ [] := by
    simp [Buckets.lines, Operator.all, Buckets.sectionLines_eq]
  -- The end of the last line leaves an empty text behind it.
  have joined : query.explanation.toList =
      ['\n'].intercalate (query.lines.map String.toList ++ [[]]) := by
    have single : "\n".toList = ['\n'] := rfl
    rw [intercalate_concat_nil _ headed, Buckets.explanation, String.toList_append,
      String.toList_intercalate, single, Buckets.lines]
  have whole : ∀ line ∈ query.lines.map String.toList ++ [[]], '\n' ∉ line := by
    intro line member
    obtain listed | last := List.mem_append.1 member
    · obtain ⟨text, among, rfl⟩ := List.mem_map.1 listed
      exact plain.newline_notMem_lines text among
    · obtain rfl := List.mem_singleton.1 last
      simp
  rw [joined, List.splitOn_intercalate '\n' whole (by simp)]

/-- No heading is among the lines that stand behind blanks. -/
theorem heading_notMem_indented (operator : Operator) (labels : List String) :
    operator.section ++ ":" ∉ labels.map ("   " ++ ·) := by
  intro member
  obtain ⟨label, -, indented⟩ := List.mem_map.1 member
  have first := congrArg (fun line : String => line.toList.head?) indented
  cases operator <;> simp [Operator.section] at first

/-- The lines of an explanation tell what is said under each of its headings. -/
theorem Buckets.labels_eq {query other : Buckets} (same : query.lines = other.lines)
    (operator : Operator) : query.labels operator = other.labels operator := by
  have lines (query : Buckets) : query.lines =
      (Operator.should.section ++ ":") :: ((query.labels .should).map ("   " ++ ·) ++
        (Operator.must.section ++ ":") :: ((query.labels .must).map ("   " ++ ·) ++
          (Operator.mustNot.section ++ ":") :: (query.labels .mustNot).map ("   " ++ ·))) := by
    simp [Buckets.lines, Operator.all, Buckets.sectionLines_eq]
  have apart : Operator.must.section ++ ":" ≠ Operator.mustNot.section ++ ":" := by decide
  rw [lines, lines, List.cons_inj_right] at same
  -- A heading stands in one place, so that it parts what is in front of it from what is behind.
  have once : Operator.must.section ++ ":" ∉ (query.labels .must).map ("   " ++ ·) ++
      (Operator.mustNot.section ++ ":") :: (query.labels .mustNot).map ("   " ++ ·) := by
    simp only [List.mem_append, List.mem_cons, heading_notMem_indented, apart, or_self,
      not_false_eq_true]
  obtain ⟨optional, -, behind⟩ :=
    (List.append_cons_inj_of_notMem (heading_notMem_indented .must _) once).1 same
  obtain ⟨required, -, excluded⟩ := (List.append_cons_inj_of_notMem
    (heading_notMem_indented .mustNot _) (heading_notMem_indented .mustNot _)).1 behind
  -- Blanks in front of all labels do not hide any of them.
  have indents : Function.Injective (fun label : String => "   " ++ label) := by
    intro label other same
    exact (String.append_right_inj "   ").1 same
  cases operator with
  | should => exact indents.list_map optional
  | must => exact indents.list_map required
  | mustNot => exact indents.list_map excluded

theorem Buckets.labels_cases (query : Buckets) (operator : Operator) :
    (query.bucket operator = [] ∧ query.labels operator = ["-"]) ∨
      query.labels operator = (query.bucket operator).map Clause.label := by
  unfold Buckets.labels
  cases query.bucket operator with
  | nil => exact .inl ⟨rfl, rfl⟩
  | cons clause rest => exact .inr rfl

/-- A dash is said of no clauses. -/
theorem dash_ne_labels (clauses : List Clause) : ["-"] ≠ clauses.map Clause.label := by
  intro same
  have member : "-" ∈ clauses.map Clause.label := by
    rw [← same]
    exact List.mem_singleton_self _
  obtain ⟨clause, -, label⟩ := List.mem_map.1 member
  exact clause.label_ne_dash label

/-- An explanation tells its query. -/
theorem Buckets.Plain.eq_of_explanation {query other : Buckets} (plain : query.Plain)
    (otherPlain : other.Plain) (same : query.explanation = other.explanation) : query = other := by
  have lines : query.lines = other.lines := by
    have split := plain.splitOn_explanation
    rw [same, otherPlain.splitOn_explanation] at split
    have texts : Function.Injective String.toList := fun _ _ => String.toList_inj.1
    exact (texts.list_map (List.append_cancel_right split)).symm
  apply Buckets.ext_bucket
  intro operator
  have labels := Buckets.labels_eq lines operator
  obtain ⟨empty, dash⟩ | labelled := query.labels_cases operator <;>
    obtain ⟨otherEmpty, otherDash⟩ | otherLabelled := other.labels_cases operator
  · rw [empty, otherEmpty]
  · -- The dash of an empty bucket is the label of no clause.
    rw [dash, otherLabelled] at labels
    exact absurd labels (dash_ne_labels _)
  · rw [labelled, otherDash] at labels
    exact absurd labels.symm (dash_ne_labels _)
  · rw [labelled, otherLabelled] at labels
    exact plain.bucket_eq otherPlain Clause.content_eq_of_label labels

/-! ### Documents -/

/-- A document tells its query. -/
theorem Buckets.Plain.eq_of_document {query other : Buckets} (plain : query.Plain)
    (otherPlain : other.Plain) (same : query.document fields = other.document fields) :
    query = other := by
  apply Buckets.ext_bucket
  intro operator
  exact eq_of_fragments (plain.operators operator) (otherPlain.operators operator)
    (Buckets.fragments_of_rearranged (.of_eq same) operator)

/--
Explanations and documents of queries tell them apart alike.

No clause is said to be a dash, so that an empty bucket is not taken for one that has a clause.
-/
theorem explanation_iff_document (fields : FieldNames) {text other : String}
    {raws otherRaws : List RawClause} (accepted : parse text = .ok raws)
    (otherAccepted : parse other = .ok otherRaws) :
    ∃ query otherQuery document otherDocument,
      Buckets.ofText text = .ok query ∧ Buckets.ofText other = .ok otherQuery ∧
        documentOfText fields text = .ok document ∧
        documentOfText fields other = .ok otherDocument ∧
        (query.explanation = otherQuery.explanation ↔ document = otherDocument) ∧
        (query.explanation = otherQuery.explanation ↔ query = otherQuery) ∧
        (document = otherDocument ↔ query = otherQuery) ∧
        (∀ layout, Json.render layout document = Json.render layout otherDocument ↔
          query = otherQuery) ∧
        (query.explanation.toList.splitOn '\n' = query.lines.map String.toList ++ [[]]) ∧
        ∀ operator, ∀ clause ∈ query.bucket operator, clause.label ≠ "-" := by
  obtain ⟨query, asked, plain⟩ := exists_plain_query accepted
  obtain ⟨otherQuery, otherAsked, otherPlain⟩ := exists_plain_query otherAccepted
  have translated : documentOfText fields text = .ok (query.document fields) := by
    rw [documentOfText, asked]
  have otherTranslated : documentOfText fields other = .ok (otherQuery.document fields) := by
    rw [documentOfText, otherAsked]
  -- Either output is made of the query, and tells it.
  have explained : query.explanation = otherQuery.explanation ↔ query = otherQuery :=
    ⟨plain.eq_of_explanation otherPlain, congrArg Buckets.explanation⟩
  have documented : query.document fields = otherQuery.document fields ↔ query = otherQuery :=
    ⟨plain.eq_of_document otherPlain, congrArg (Buckets.document fields)⟩
  refine ⟨query, otherQuery, _, _, asked, otherAsked, translated, otherTranslated,
    explained.trans documented.symm, explained, documented, ?_, plain.splitOn_explanation,
    fun _ clause _ => clause.label_ne_dash⟩
  intro layout
  rw [← documented]
  constructor
  · have wellFormed := (isDocument_documentOfText translated).unlimited
    exact wellFormed.render_injective (isDocument_documentOfText otherTranslated).unlimited
  · exact congrArg (Json.render layout)

/-- A term and a phrase of one text are told apart, though they ask for the same words. -/
theorem explanation_iff_document_kinds :
    parse "cat" = .ok [⟨none, .term, "cat"⟩] ∧ parse "\"cat\"" = .ok [⟨none, .phrase, "cat"⟩] ∧
      ∃ query otherQuery document otherDocument,
        Buckets.ofText "cat" = .ok query ∧ Buckets.ofText "\"cat\"" = .ok otherQuery ∧
          documentOfText .standard "cat" = .ok document ∧
          documentOfText .standard "\"cat\"" = .ok otherDocument ∧
          query.explanation ≠ otherQuery.explanation ∧ document ≠ otherDocument := by
  have term : parse "cat" = .ok [⟨none, .term, "cat"⟩] := by decide +kernel
  have phrase : parse "\"cat\"" = .ok [⟨none, .phrase, "cat"⟩] := by decide +kernel
  obtain ⟨query, otherQuery, document, otherDocument, asked, otherAsked, translated,
    otherTranslated, -, explained, documented, -⟩ := explanation_iff_document .standard term phrase
  have apart : query ≠ otherQuery := by
    have content : Buckets.ofText "cat" = .ok ⟨[⟨.should, .term "cat"⟩], [], []⟩ := by
      rw [Buckets.ofText, term]
      rfl
    have otherContent : Buckets.ofText "\"cat\"" = .ok ⟨[⟨.should, .phrase "cat"⟩], [], []⟩ := by
      rw [Buckets.ofText, phrase]
      rfl
    rw [Except.ok.inj (asked.symm.trans content), Except.ok.inj (otherAsked.symm.trans otherContent)]
    decide
  exact ⟨term, phrase, query, otherQuery, document, otherDocument, asked, otherAsked, translated,
    otherTranslated, explained.not.2 apart, documented.not.2 apart⟩

end BooleanSearch.Query
