import BooleanSearch.Proofs.Query.Buckets

/-! Queries part lists of clauses by operator: nothing is lost, doubled or moved within a bucket. -/

namespace BooleanSearch.Query

/-- The clauses of a query are those of its three buckets in a row. -/
theorem Buckets.clauses_eq (query : Buckets) :
    query.clauses = query.should ++ (query.must ++ query.mustNot) := by
  simp [clauses, Operator.all, bucket]

/-- A bucket is kept by the operator of its clauses, and dropped by every other one. -/
theorem Buckets.Filed.filter_bucket {query : Buckets} (filed : query.Filed)
    (kept operator : Operator) : (query.bucket operator).filter (·.operator = kept) =
      if operator = kept then query.bucket operator else [] := by
  split
  next same =>
    subst same
    exact List.filter_eq_self.2 fun clause member => by simp [filed operator clause member]
  next other =>
    exact List.filter_eq_nil_iff.2 fun clause member => by
      simp [filed operator clause member, other]

/-- The clauses of one operator are met in the order of its bucket, wherever that one stands. -/
theorem Buckets.Filed.filter_clauses {query : Buckets} (filed : query.Filed)
    (operator : Operator) :
    query.clauses.filter (·.operator = operator) = query.bucket operator := by
  rw [clauses, List.filter_flatMap]
  simp only [filed.filter_bucket]
  -- Of the three operators only one is that of the bucket.
  cases operator <;> simp [Operator.all]

/-- Only a query that files its clauses is built of them again. -/
theorem Buckets.ofClauses_clauses_iff (query : Buckets) :
    ofClauses query.clauses = query ↔ query.Filed := by
  constructor
  · intro rebuilt
    rw [← rebuilt]
    exact filed_ofClauses query.clauses
  · intro filed
    apply ext_bucket
    intro operator
    rw [bucket_ofClauses, filed.filter_clauses]

/-- Lists that agree on the clauses of each operator hold every clause equally often. -/
theorem perm_of_filters {clauses others : List Clause}
    (same : ∀ operator, clauses.filter (·.operator = operator) =
      others.filter (·.operator = operator)) : clauses.Perm others := by
  -- An equal filter for each operator is not yet a permutation, but it tells every count.
  rw [List.perm_iff_count]
  intro clause
  -- A clause is counted among those of its own operator.
  calc clauses.count clause
      = (clauses.filter (·.operator = clause.operator)).count clause :=
        (List.count_filter (by simp)).symm
    _ = (others.filter (·.operator = clause.operator)).count clause := by rw [same]
    _ = others.count clause := List.count_filter (by simp)

theorem Buckets.isEmpty_iff (query : Buckets) : query.isEmpty = true ↔ query.clauses = [] := by
  simp [isEmpty, clauses_eq, and_assoc]

/--
A query parts a list of clauses by operator, and keeps their order within each bucket.

Bucket by bucket its clauses are those of the list, each as often, and a query of them is the same.
-/
theorem ofClauses_partition (clauses : List Clause) :
    let query := Buckets.ofClauses clauses
    (∀ operator, query.bucket operator = clauses.filter (·.operator = operator)) ∧
      query.clauses.Perm clauses ∧
      (∀ operator, query.clauses.filter (·.operator = operator) =
        clauses.filter (·.operator = operator)) ∧
      Buckets.ofClauses query.clauses = query ∧
      (∀ others operator, (Buckets.ofClauses (clauses ++ others)).bucket operator =
        query.bucket operator ++ (Buckets.ofClauses others).bucket operator) ∧
      (query.isEmpty = true ↔ clauses = []) := by
  intro query
  have filed : query.Filed := Buckets.filed_ofClauses clauses
  have ordered : ∀ operator, query.clauses.filter (·.operator = operator) =
      clauses.filter (·.operator = operator) := by
    intro operator
    rw [filed.filter_clauses, Buckets.bucket_ofClauses]
  -- The buckets stand in another order than the clauses, so that only as many of each are left.
  have perm : query.clauses.Perm clauses := perm_of_filters ordered
  refine ⟨Buckets.bucket_ofClauses clauses, perm, ordered,
    (Buckets.ofClauses_clauses_iff query).2 filed, fun others operator => ?_, ?_⟩
  · rw [Buckets.bucket_ofClauses, Buckets.bucket_ofClauses, Buckets.bucket_ofClauses,
      List.filter_append]
  · rw [Buckets.isEmpty_iff]
    constructor
    · intro empty
      rw [empty] at perm
      exact perm.nil_eq.symm
    · rintro rfl
      exact perm.eq_nil

end BooleanSearch.Query
