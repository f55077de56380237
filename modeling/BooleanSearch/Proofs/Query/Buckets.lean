import BooleanSearch.Query.Buckets
import Mathlib.Algebra.GroupWithZero.Nat

/-! Queries hold each of their clauses in one bucket, in the order of the list they are built of. -/

namespace BooleanSearch.Query

/-- Every clause of a query stands in the bucket of its own operator. -/
def Buckets.Filed (query : Buckets) : Prop :=
  ∀ operator, ∀ clause ∈ query.bucket operator, clause.operator = operator

/-- A query is told by its buckets. -/
theorem Buckets.ext_bucket {query other : Buckets}
    (same : ∀ operator, query.bucket operator = other.bucket operator) : query = other := by
  obtain ⟨should, must, mustNot⟩ := query
  -- Each bucket is that of one operator.
  obtain rfl : should = other.should := same .should
  obtain rfl : must = other.must := same .must
  obtain rfl : mustNot = other.mustNot := same .mustNot
  rfl

/-- A clause that is added stands at the end of the bucket of its operator, and nowhere else. -/
theorem Buckets.bucket_add (query : Buckets) (clause : Clause) (operator : Operator) :
    (query.add clause).bucket operator =
      query.bucket operator ++ if clause.operator = operator then [clause] else [] := by
  obtain ⟨own, content⟩ := clause
  -- Three operators and three buckets: a clause goes to one of them.
  cases own <;> cases operator <;> simp [Buckets.add, Buckets.bucket]

/-- Clauses that are added one after another stand behind those that a bucket has. -/
theorem Buckets.bucket_foldl_add (clauses : List Clause) :
    ∀ (query : Buckets) (operator : Operator), (clauses.foldl Buckets.add query).bucket operator =
      query.bucket operator ++ clauses.filter (·.operator = operator) := by
  -- The query grows along the list, so it stays quantified over.
  induction clauses with
  | nil => intro query operator; simp
  | cons clause rest ih =>
    intro query operator
    rw [List.foldl_cons, ih, Buckets.bucket_add, List.append_assoc]
    by_cases own : clause.operator = operator <;> simp [own]

/-- A bucket holds the clauses of its operator in the order in which they came. -/
theorem Buckets.bucket_ofClauses (clauses : List Clause) (operator : Operator) :
    (Buckets.ofClauses clauses).bucket operator = clauses.filter (·.operator = operator) := by
  -- The query starts with empty buckets.
  rw [Buckets.ofClauses, Buckets.bucket_foldl_add]
  cases operator <;> rfl

/-- A query that is built of clauses has each of them in the bucket of its operator. -/
theorem Buckets.filed_ofClauses (clauses : List Clause) : (ofClauses clauses).Filed := by
  intro operator clause member
  rw [bucket_ofClauses] at member
  exact of_decide_eq_true (List.mem_filter.1 member).2

/-- Every clause has one of the operators. -/
theorem length_filter_operator (clauses : List Clause) :
    (Operator.all.map fun operator => (clauses.filter (·.operator = operator)).length).sum =
      clauses.length := by
  induction clauses with
  | nil => rfl
  | cons clause rest ih =>
    obtain ⟨operator, content⟩ := clause
    simp only [Operator.all, List.map_cons, List.map_nil, List.sum_cons, List.sum_nil] at ih ⊢
    -- The first clause is counted in one of the three buckets.
    cases operator <;> simp <;> omega

end BooleanSearch.Query
