import BooleanSearch.Proofs.Query.Classifying
import BooleanSearch.Proofs.Query.Sections

/-! A sign in front of a query moves one fragment of its document, and nothing else. -/

namespace BooleanSearch.Query

variable {fields : FieldNames} {text : String}

/-- The operator of clauses behind a sign. -/
def Sign.operator : Sign → Operator
  | .plus => .must
  | .minus => .mustNot

/-- Fragments with one more fragment in front of those for an operator. -/
def putFirst (operator : Operator) (first : Value) (fragments : Operator → List Value) :
    Operator → List Value :=
  fun other => if other = operator then first :: fragments other else fragments other

/-! ### Texts behind a sign -/

/-- What fits without a sign fits behind one, where terms may open with a sign themselves. -/
theorem Body.Fits.signed {behind : List Char} {body : Body} (fits : body.Fits none behind)
    (sign : Option Sign) : body.Fits sign behind := by
  cases fits with
  -- A sign in front has no part in phrases and decades.
  | phrase inside => exact .phrase inside
  | decade shape ends => exact .decade shape ends
  | term unquoted plain =>
    exact .term ⟨unquoted.nonempty, unquoted.termChars, unquoted.ends,
      fun _ => unquoted.unsigned rfl⟩ plain

/-- A raw clause behind a sign differs in its operator alone. -/
theorem ofSpelling_signed (sign : Sign) (body : Body) (space : List Char) :
    RawClause.ofSpelling ⟨some sign, body, space⟩ =
      { RawClause.ofSpelling ⟨none, body, space⟩ with operator := sign.operator.symbol } := by
  cases sign <;> cases body <;> rfl

/-- A query whose first clause has no operator is read behind a sign as it is read without one. -/
theorem parse_signed {raw : RawClause} {raws : List RawClause}
    (accepted : parse text = .ok (raw :: raws)) (bare : raw.operator = none) (sign : Sign) :
    parse (String.ofList [sign.symbol] ++ text) =
      .ok ({ raw with operator := sign.operator.symbol } :: raws) := by
  obtain ⟨spelled, well, same, listed⟩ := parse_eq_ok_iff.1 accepted
  obtain ⟨⟨own, body, space⟩, rest, rfl, rfl, rfl⟩ := List.map_eq_cons_iff.1 listed
  -- The first clause is spelled without a sign.
  obtain rfl : own = none := by
    rw [ofSpelling_eq] at bare
    exact operatorText_eq_none_iff.1 bare
  obtain ⟨fits, blank, others⟩ := well
  -- The same body with a sign in front spells the text behind a sign.
  refine parse_eq_ok_iff.2
    ⟨⟨some sign, body, space⟩ :: rest, ⟨fits.signed _, blank, others⟩, ?_, ?_⟩
  · rw [String.toList_append, String.toList_ofList, ← same]
    simp [spelledText, Spelling.text, signText]
  · rw [List.map_cons, ofSpelling_signed]

/-! ### Documents -/

/-- The fragments of the first clause and of the others. -/
theorem fragments_cons (clause : Clause) (others : List Clause) :
    (Buckets.ofClauses (clause :: others)).fragments fields =
      putFirst clause.operator (clause.fragment fields)
        ((Buckets.ofClauses others).fragments fields) := by
  funext operator
  rw [putFirst, fragments_ofClauses, fragments_ofClauses, List.filter_cons]
  -- The first clause counts for its own operator alone.
  by_cases own : operator = clause.operator
  · simp [own]
  · simp [own, Ne.symm own]

/-- The document of a text has the fragments of the clauses that the text stands for. -/
theorem documentOfText_eq {raws : List RawClause} {clauses : List Clause}
    (accepted : parse text = .ok raws) (stand : List.Forall₂ StandsFor raws clauses) :
    documentOfText fields text =
      .ok (sectioned ((Buckets.ofClauses clauses).fragments fields)) := by
  have classified := classifyAll_eq_ok_iff.2 stand
  rw [← Buckets.document_eq]
  simp [documentOfText, Buckets.ofText, accepted, classified]

/-- A first clause without an operator stands for the same content behind a sign. -/
theorem documentOfText_signed {raw : RawClause} {raws : List RawClause} {clause : Clause}
    {others : List Clause} (accepted : parse text = .ok (raw :: raws)) (bare : raw.operator = none)
    (stands : StandsFor raw clause) (stand : List.Forall₂ StandsFor raws others) (sign : Sign) :
    documentOfText fields (String.ofList [sign.symbol] ++ text) =
      .ok (sectioned (putFirst sign.operator (clause.fragment fields)
        ((Buckets.ofClauses others).fragments fields))) := by
  have signed : StandsFor { raw with operator := sign.operator.symbol }
      ⟨sign.operator, clause.content⟩ := ⟨rfl, stands.2⟩
  rw [documentOfText_eq (parse_signed accepted bare sign) (.cons signed stand), fragments_cons]
  rfl

/--
A sign in front of a query is the operator of its first clause, if that clause had none.

Its fragment goes from the front of the optional section to the front of the section of the sign.
All other fragments stay as they are, and a section is there exactly if it has fragments.
-/
theorem sign_moves_fragment {raw : RawClause} {raws : List RawClause}
    (accepted : parse text = .ok (raw :: raws)) (bare : raw.operator = none)
    (fields : FieldNames) :
    parse ("+" ++ text) = .ok ({ raw with operator := some "+" } :: raws) ∧
      parse ("-" ++ text) = .ok ({ raw with operator := some "-" } :: raws) ∧
      ∃ first fragments, raw.Asks fields first ∧
        documentOfText fields text = .ok (sectioned (putFirst .should first fragments)) ∧
        documentOfText fields ("+" ++ text) = .ok (sectioned (putFirst .must first fragments)) ∧
        documentOfText fields ("-" ++ text) =
          .ok (sectioned (putFirst .mustNot first fragments)) := by
  obtain ⟨clauses, classified, understood⟩ := (expressible_of_parse accepted).classifyAll fields
  have stand := classifyAll_eq_ok_iff.1 classified
  -- The first clause is an optional one.
  cases understood with
  | @cons _ clause _ others understands _ =>
    obtain ⟨stands, othersStand⟩ := List.forall₂_cons.1 stand
    have optional : clause.operator = .should := symbol_inj.1 (understands.1.symm.trans bare)
    refine ⟨parse_signed accepted bare .plus, parse_signed accepted bare .minus,
      clause.fragment fields, (Buckets.ofClauses others).fragments fields, understands.2, ?_,
      documentOfText_signed accepted bare stands othersStand .plus,
      documentOfText_signed accepted bare stands othersStand .minus⟩
    rw [documentOfText_eq accepted stand, fragments_cons, optional]

/-- A term that looks like a decade stays a term behind a sign, as it is glued to its phrase. -/
theorem sign_moves_fragment_glued :
    parse "1990s\"x\"" = .ok [⟨none, .term, "1990s"⟩, ⟨none, .phrase, "x"⟩] ∧
      parse ("+" ++ "1990s\"x\"") = .ok [⟨some "+", .term, "1990s"⟩, ⟨none, .phrase, "x"⟩] ∧
      ∃ fragments,
        documentOfText .standard "1990s\"x\"" =
          .ok (sectioned (putFirst .should (matching "match" "title" "1990s") fragments)) ∧
        documentOfText .standard ("-" ++ "1990s\"x\"") =
          .ok (sectioned (putFirst .mustNot (matching "match" "title" "1990s") fragments)) := by
  have accepted : parse "1990s\"x\"" = .ok [⟨none, .term, "1990s"⟩, ⟨none, .phrase, "x"⟩] := by
    cbv
  obtain ⟨plus, -, first, fragments, asks, unsigned, -, minus⟩ :=
    sign_moves_fragment accepted rfl .standard
  cases asks
  exact ⟨accepted, plus, fragments, unsigned, minus⟩

end BooleanSearch.Query
