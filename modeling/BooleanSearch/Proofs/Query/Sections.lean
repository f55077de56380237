import BooleanSearch.Proofs.Query.Buckets
import BooleanSearch.Proofs.Value.Keys
import BooleanSearch.Query.Document
import Mathlib.Data.List.Basic

/-! Documents tell the fragments of each of their sections, and these tell the clauses in order. -/

namespace BooleanSearch.Query

variable {fields : FieldNames}

/-! ### Fragments -/

theorem Decade.eq_of_first {decade other : Decade} (same : decade.first = other.first) :
    decade = other := by
  obtain ⟨first, aligned⟩ := decade
  obtain rfl : first = other.first := same
  rfl

theorem rearranged_matching {way other field another text content : String}
    (rearranged : Rearranged (matching way field text) (matching other another content)) :
    way = other ∧ text = content := by
  obtain ⟨ways, matched⟩ := rearranged.single
  obtain ⟨-, asked⟩ := matched.single
  obtain ⟨-, contents⟩ := asked.single
  exact ⟨ways, Scalar.text.inj contents.scalar⟩

/-- Fragments tell what their clauses look for, in whatever order their keys are. -/
theorem Clause.content_eq_of_fragment {a b : Clause}
    (rearranged : Rearranged (a.fragment fields) (b.fragment fields)) : a.content = b.content := by
  obtain ⟨operator, content⟩ := a
  obtain ⟨other, otherContent⟩ := b
  cases content <;> cases otherContent
  case term.term text content =>
    obtain ⟨-, rfl⟩ := rearranged_matching rearranged
    rfl
  case phrase.phrase text content =>
    obtain ⟨-, rfl⟩ := rearranged_matching rearranged
    rfl
  case years.years decade otherDecade =>
    obtain ⟨-, ranges⟩ := rearranged.single
    obtain ⟨-, years⟩ := ranges.single
    exact congrArg Content.years (Decade.eq_of_first (Scalar.int.inj years.first.scalar))
  -- Fragments of different kinds have different keys.
  all_goals exact absurd rearranged.single.1 (by decide)

/-- An operator and a fragment are those of one clause only. -/
theorem Clause.eq_of_fragment {a b : Clause} (operators : a.operator = b.operator)
    (rearranged : Rearranged (a.fragment fields) (b.fragment fields)) : a = b := by
  have contents := Clause.content_eq_of_fragment rearranged
  obtain ⟨operator, content⟩ := a
  obtain rfl : operator = b.operator := operators
  obtain rfl : content = b.content := contents
  rfl

/-- Clauses of one operator are told by their fragments in order. -/
theorem eq_of_fragments {operator : Operator} {clauses others : List Clause}
    (own : ∀ clause ∈ clauses, clause.operator = operator)
    (otherOwn : ∀ clause ∈ others, clause.operator = operator)
    (rearranged : List.Forall₂ Rearranged (clauses.map (Clause.fragment fields))
      (others.map (Clause.fragment fields))) : clauses = others := by
  rw [List.forall₂_map_left_iff, List.forall₂_map_right_iff] at rearranged
  -- The fragments are paired in order, and so are the clauses.
  induction rearranged with
  | nil => rfl
  | cons first later ih =>
    rw [List.forall_mem_cons] at own otherOwn
    rw [Clause.eq_of_fragment (own.1.trans otherOwn.1.symm) first, ih own.2 otherOwn.2]

/-! ### Sections -/

/-- A section with fragments; one without any is left out. -/
def sectionOf (name : String) : List Value → List (String × Value)
  | [] => []
  | fragments => [(name, .list fragments)]

/-- The document with some fragments for each operator, in the order of the sections. -/
def sectioned (fragments : Operator → List Value) : Value :=
  .object [("query", .object [("bool",
    .object (Operator.all.flatMap fun operator =>
      sectionOf operator.section (fragments operator)))])]

/-- The fragments of a query for an operator. -/
def Buckets.fragments (fields : FieldNames) (query : Buckets) (operator : Operator) : List Value :=
  (query.bucket operator).map (Clause.fragment fields)

/-- The document of a query has the fragments of the query. -/
theorem Buckets.document_eq (query : Buckets) :
    query.document fields = sectioned (query.fragments fields) := by
  have sections : ∀ operator, (query.section? fields operator).toList =
      sectionOf operator.section (query.fragments fields operator) := by
    intro operator
    unfold Buckets.section? Buckets.fragments
    cases query.bucket operator <;> rfl
  simp only [Buckets.document, sectioned, ← sections, List.filterMap_eq_flatMap_toList]

/-- A section is found under its name, if it is there. -/
theorem get?_sectionOf (name key : String) (fragments : List Value) :
    Entries.get? (.text key) (entriesOf (sectionOf name fragments)) =
      if name = key ∧ fragments ≠ [] then some (.list fragments) else none := by
  cases fragments with
  | nil => simp [sectionOf, entriesOf]
  | cons first rest => simp [sectionOf, entriesOf, Entries.get?_cons, Scalar.sameKey]

/-- Of all sections only that of an operator is found under its name. -/
theorem get?_sections (fragments : Operator → List Value) (operator : Operator) :
    Entries.get? (.text operator.section) (entriesOf (Operator.all.flatMap fun other =>
        sectionOf other.section (fragments other))) =
      if fragments operator = [] then none else some (.list (fragments operator)) := by
  have parts : entriesOf (Operator.all.flatMap fun other =>
      sectionOf other.section (fragments other)) =
        entriesOf (sectionOf "should" (fragments .should)) ++
          (entriesOf (sectionOf "must" (fragments .must)) ++
            entriesOf (sectionOf "must_not" (fragments .mustNot))) := by
    simp [Operator.all, Operator.section, entriesOf]
  -- The names of sections differ, so that no section hides another one.
  rw [parts, Entries.get?_append, Entries.get?_append]
  simp only [get?_sectionOf]
  cases operator <;> simp [Operator.section, ite_not]

/-- A document tells the fragments for each operator, in whatever order its keys are. -/
theorem rearranged_sectioned {fragments others : Operator → List Value}
    (rearranged : Rearranged (sectioned fragments) (sectioned others)) (operator : Operator) :
    List.Forall₂ Rearranged (fragments operator) (others operator) := by
  -- Two objects with one key each are around the sections.
  obtain ⟨-, node⟩ := rearranged.single
  obtain ⟨-, sections⟩ := node.single
  rw [object_eq, object_eq] at sections
  have held := sections.get? (.text operator.section)
  rw [get?_sections, get?_sections] at held
  generalize fragments operator = items, others operator = otherItems at held ⊢
  -- A section is left out of both documents, or it is in both of them.
  cases items with
  | nil =>
    cases otherItems with
    | nil => exact .nil
    | cons first rest => simp at held
  | cons first rest =>
    cases otherItems with
    | nil => simp at held
    | cons other more =>
      simp only [if_neg (List.cons_ne_nil _ _), Option.rel_some_some] at held
      exact held.items

theorem Buckets.fragments_of_rearranged {query other : Buckets}
    (rearranged : Rearranged (query.document fields) (other.document fields))
    (operator : Operator) : List.Forall₂ Rearranged (query.fragments fields operator)
      (other.fragments fields operator) := by
  rw [document_eq, document_eq] at rearranged
  exact rearranged_sectioned rearranged operator

/-! ### Lists of clauses -/

/-- The fragments of a list of clauses for an operator are those of its clauses in order. -/
theorem fragments_ofClauses (clauses : List Clause) (operator : Operator) :
    (Buckets.ofClauses clauses).fragments fields operator =
      (clauses.filter (·.operator = operator)).map (Clause.fragment fields) := by
  rw [Buckets.fragments, Buckets.bucket_ofClauses]

-- Both fields may have one name, and an empty text is a text.
example : (Buckets.ofClauses [⟨.mustNot, .phrase ""⟩, ⟨.should, .term "a"⟩]).document ⟨"f", "f"⟩ =
    .object [("query", .object [("bool", .object [
      ("should", .list [matching "match" "f" "a"]),
      ("must_not", .list [matching "match_phrase" "f" ""])])])] := rfl

end BooleanSearch.Query
