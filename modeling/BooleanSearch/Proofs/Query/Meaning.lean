import BooleanSearch.Proofs.Query.Buckets
import BooleanSearch.Proofs.Query.Printing
import BooleanSearch.Query.Document
import Mathlib.Data.List.Forall2

/-! The document of a query: what each raw clause asks for, under the section of its operator. -/

namespace BooleanSearch.Query

/-- The part of a document that a raw clause asks for, whatever its operator. -/
inductive RawClause.Asks (fields : FieldNames) : RawClause → Value → Prop
  | term {operator : Option String} {value : String} :
      Asks fields ⟨operator, .term, value⟩
        (.object [("match", .object [(fields.text, .object [("query", .text value)])])])
  | phrase {operator : Option String} {value : String} :
      Asks fields ⟨operator, .phrase, value⟩
        (.object [("match_phrase", .object [(fields.text, .object [("query", .text value)])])])
  /-- A decade asks for ten years from the year that it spells. -/
  | decade {operator : Option String} {value : String} {year : Int}
      (spelled : Number.intText year = value) (aligned : year % 10 = 0) (first : 1900 ≤ year)
      (last : year ≤ 2090) :
      Asks fields ⟨operator, .decade, value⟩
        (.object [("range", .object [(fields.year,
          .object [("gte", .int year), ("lte", .int (year + 9))])])])

/-- The operators of raw clauses in the order of their sections, with the names of these. -/
def sectionNames : List (Option String × String) :=
  [(none, "should"), (some "+", "must"), (some "-", "must_not")]

/-- A document with a section for each operator that occurs, and with nothing else. -/
def documentOf (raws : List RawClause) (fragments : Option String → List Value) : Value :=
  .object [("query", .object [("bool", .object (sectionNames.filterMap fun (operator, name) =>
    if operator ∈ raws.map RawClause.operator then some (name, .list (fragments operator))
    else none))])]

/-- The operator as raw clauses hold it. -/
def Operator.symbol : Operator → Option String
  | .should => none
  | .must => some "+"
  | .mustNot => some "-"

/-- An operator is understood from its own symbol. -/
theorem ofSymbol_symbol (operator : Operator) :
    Operator.ofSymbol operator.symbol = .ok operator := by
  cases operator <;> rfl

/-- The symbols tell the operators apart. -/
theorem symbol_inj {a b : Operator} : a.symbol = b.symbol ↔ a = b := by
  cases a <;> cases b <;> decide

/-- An ASCII digit lies less than ten places behind zero. -/
theorem exists_of_isDigit {c : Char} (digit : c.isDigit) : ∃ k < 10, c = Char.ofNat (48 + k) := by
  -- The ASCII digits stand in a row from zero on.
  obtain ⟨lower, upper⟩ : 48 ≤ c.toNat ∧ c.toNat ≤ 57 := Char.isDigit_iff_toNat.1 digit
  exact ⟨c.toNat - 48, by omega,
    by rw [show 48 + (c.toNat - 48) = c.toNat by omega, Char.ofNat_toNat]⟩

/-- The digits of a decade spell a year that is a multiple of ten. -/
theorem IsDecade.exists_year {digits : List Char} (decade : IsDecade digits) :
    ∃ year : Int, Number.integerOfText? (String.ofList digits) = some year ∧
      Number.intText year = String.ofList digits ∧ year % 10 = 0 ∧ 1900 ≤ year ∧ year ≤ 2090 := by
  -- Ten digits in each of two centuries are read and written back.
  have years : ∀ century ∈ [('1', '9', 1900), ('2', '0', 2000)], ∀ k < 10,
      Number.integerOfText? (String.ofList [century.1, century.2.1, Char.ofNat (48 + k), '0']) =
          some (century.2.2 + 10 * k : Nat) ∧
        Number.intText (century.2.2 + 10 * k : Nat) =
          String.ofList [century.1, century.2.1, Char.ofNat (48 + k), '0'] := by
    simp only [Number.integerOfText?, String.toList_ofList]
    decide
  obtain ⟨c, digit, written⟩ := decade
  obtain ⟨k, small, rfl⟩ := exists_of_isDigit digit
  rcases written with rfl | rfl
  · obtain ⟨reads, writes⟩ := years ('1', '9', 1900) (by simp) k small
    exact ⟨(1900 + 10 * k : Nat), reads, writes, by omega, by omega, by omega⟩
  · obtain ⟨reads, writes⟩ := years ('2', '0', 2000) (by simp) k small
    exact ⟨(2000 + 10 * k : Nat), reads, writes, by omega, by omega, by omega⟩

/-- A raw clause is understood as a clause of its operator, whose fragment it asks for. -/
def Understood (fields : FieldNames) (raw : RawClause) (clause : Clause) : Prop :=
  raw.operator = clause.operator.symbol ∧ raw.Asks fields (clause.fragment fields)

/-- Nothing can go wrong when a possible raw clause is classified. -/
theorem RawClause.Possible.classify {raw : RawClause} (possible : raw.Possible)
    (fields : FieldNames) :
    ∃ clause, Query.classify raw = .ok clause ∧ Understood fields raw clause := by
  obtain ⟨symbol, kind, value⟩ := raw
  obtain ⟨known, fitting⟩ := possible
  obtain ⟨operator, rfl⟩ : ∃ operator : Operator, operator.symbol = symbol := by
    rcases known with rfl | rfl | rfl
    · exact ⟨.should, rfl⟩
    · exact ⟨.must, rfl⟩
    · exact ⟨.mustNot, rfl⟩
  -- Each operator is found under its symbol, and each kind has its content.
  have understood := ofSymbol_symbol operator
  cases kind with
  | unknown name => exact absurd fitting (by simp)
  | term =>
    exact ⟨⟨operator, .term value⟩, by simp [Query.classify, understood, Content.ofRaw], rfl, .term⟩
  | phrase =>
    exact ⟨⟨operator, .phrase value⟩, by simp [Query.classify, understood, Content.ofRaw], rfl,
      .phrase⟩
  | decade =>
    obtain ⟨year, reads, writes, aligned, first, last⟩ := IsDecade.exists_year fitting
    rw [String.ofList_toList] at reads writes
    refine ⟨⟨operator, .years ⟨year, aligned⟩⟩, ?_, rfl, .decade writes aligned first last⟩
    simp [Query.classify, understood, Content.ofRaw, reads, Decade.starting, aligned]

/-- Nothing can go wrong when expressible raw clauses are classified in order. -/
theorem Expressible.classifyAll {raws : List RawClause} (expressible : Expressible raws)
    (fields : FieldNames) :
    ∃ clauses, Query.classifyAll raws = .ok clauses ∧
      List.Forall₂ (Understood fields) raws clauses := by
  induction raws with
  | nil => exact ⟨[], rfl, .nil⟩
  | cons raw rest ih =>
    -- The first clause is classified, and no other stops before the end.
    obtain ⟨possible, _, others⟩ := expressible
    obtain ⟨clause, classified, understood⟩ := possible.classify fields
    obtain ⟨clauses, allClassified, allUnderstood⟩ := ih others
    exact ⟨clause :: clauses, by simp [Query.classifyAll, classified, allClassified],
      .cons understood allUnderstood⟩

/-- The fragments of the clauses of an operator, in order. -/
def fragmentsOf (fields : FieldNames) (clauses : List Clause) (symbol : Option String) :
    List Value :=
  (clauses.filter (·.operator.symbol = symbol)).map (Clause.fragment fields)

/-- Raw clauses and the clauses they are understood as have the same operators. -/
theorem operators_eq {fields : FieldNames} {raws : List RawClause} {clauses : List Clause}
    (understood : List.Forall₂ (Understood fields) raws clauses) :
    raws.map RawClause.operator = clauses.map (·.operator.symbol) := by
  -- The two lists run alongside each other.
  induction understood with
  | nil => rfl
  | cons head _ ih => rw [List.map_cons, List.map_cons, head.1, ih]

/-- What the raw clauses of an operator ask for are the fragments of that operator. -/
theorem asks_fragmentsOf {fields : FieldNames} {raws : List RawClause} {clauses : List Clause}
    (understood : List.Forall₂ (Understood fields) raws clauses) (symbol : Option String) :
    List.Forall₂ (RawClause.Asks fields) (raws.filter (·.operator = symbol))
      (fragmentsOf fields clauses symbol) := by
  rw [fragmentsOf, List.forall₂_map_right_iff]
  -- The filters agree since each raw clause has the operator of its clause.
  refine (List.rel_filter ?_ understood).imp fun _ _ both => both.2
  intro raw clause both
  simp [both.1]

/-- A section stands in the document exactly if its operator occurs. -/
theorem section?_ofClauses {fields : FieldNames} {raws : List RawClause} {clauses : List Clause}
    (understood : List.Forall₂ (Understood fields) raws clauses) (operator : Operator) :
    (Buckets.ofClauses clauses).section? fields operator =
      if operator.symbol ∈ raws.map RawClause.operator then
        some (operator.section, .list (fragmentsOf fields clauses operator.symbol))
      else none := by
  have bucket : (Buckets.ofClauses clauses).bucket operator =
      clauses.filter (·.operator.symbol = operator.symbol) := by
    simp only [Buckets.bucket_ofClauses, symbol_inj]
  rw [Buckets.section?, bucket, operators_eq understood, fragmentsOf]
  -- A bucket is empty exactly if no raw clause has its operator.
  by_cases occurs : operator.symbol ∈ clauses.map (·.operator.symbol)
  · obtain ⟨clause, member, same⟩ := List.mem_map.1 occurs
    have kept : clause ∈ clauses.filter (·.operator.symbol = operator.symbol) := by
      simp [member, same]
    rw [if_pos occurs]
    split
    · rename_i empty
      simp [empty] at kept
    · rfl
  · have empty : clauses.filter (·.operator.symbol = operator.symbol) = [] := by
      simpa using occurs
    rw [if_neg occurs, empty]

/-- The document of a query has the sections of its raw clauses. -/
theorem document_ofClauses {fields : FieldNames} {raws : List RawClause} {clauses : List Clause}
    (understood : List.Forall₂ (Understood fields) raws clauses) :
    (Buckets.ofClauses clauses).document fields =
      documentOf raws (fragmentsOf fields clauses) := by
  -- The sections stand in the order of the operators.
  have names : sectionNames =
      Operator.all.map fun operator => (operator.symbol, operator.section) := rfl
  have sections : (Buckets.ofClauses clauses).section? fields = fun operator =>
      if operator.symbol ∈ raws.map RawClause.operator then
        some (operator.section, .list (fragmentsOf fields clauses operator.symbol))
      else none := funext (section?_ofClauses understood)
  rw [Buckets.document, documentOf, names, List.filterMap_map, sections]
  rfl

/-- The sections together hold one fragment for each raw clause. -/
theorem length_fragmentsOf {fields : FieldNames} {raws : List RawClause} {clauses : List Clause}
    (understood : List.Forall₂ (Understood fields) raws clauses) :
    (sectionNames.map fun (symbol, _) => (fragmentsOf fields clauses symbol).length).sum =
      raws.length := by
  rw [understood.length_eq, ← length_filter_operator clauses]
  -- The fragments of an operator are as many as its clauses.
  have names : sectionNames =
      Operator.all.map fun operator => (operator.symbol, operator.section) := rfl
  simp [names, fragmentsOf, Function.comp_def, symbol_inj]

/--
A text that is parsed has a document, with what each of its raw clauses asks for in order.

No later stage fails on what the parser lets through, and none drops or adds a clause.
-/
theorem documentOfText_meaning (fields : FieldNames) (text : String) :
    (∀ error, parse text = .error error →
      documentOfText fields text = .error (.syntaxError error)) ∧
    (∀ raws, parse text = .ok raws → ∃ fragments : Option String → List Value,
      documentOfText fields text = .ok (documentOf raws fragments) ∧
      (∀ operator, List.Forall₂ (RawClause.Asks fields) (raws.filter (·.operator = operator))
        (fragments operator)) ∧
      (sectionNames.map fun (operator, _) => (fragments operator).length).sum = raws.length) := by
  constructor
  · -- Nothing is done to a text that is no query.
    intro error rejected
    simp [documentOfText, Buckets.ofText, rejected]
  · intro raws parsed
    obtain ⟨clauses, classified, understood⟩ :=
      (expressible_of_parse parsed).classifyAll fields
    -- Each stage succeeds, and the last one writes what the raw clauses ask for.
    refine ⟨fragmentsOf fields clauses, ?_, asks_fragmentsOf understood,
      length_fragmentsOf understood⟩
    simp [documentOfText, Buckets.ofText, parsed, classified, document_ofClauses understood]

end BooleanSearch.Query
