import BooleanSearch.Proofs.Number.Integers
import BooleanSearch.Proofs.Query.Meaning

/-! What classifying comes to: a clause for each raw clause, or the first one's error. -/

namespace BooleanSearch.Query

open Number (Spells)

/-- What a value of a kind denotes, for its clause to look for. -/
inductive Denotes : Kind → String → Content → Prop
  | term {value : String} : Denotes .term value (.term value)
  | phrase {value : String} : Denotes .phrase value (.phrase value)
  /-- The ten years of a decade start in the year that the value spells. -/
  | decade {value : String} {decade : Decade} (spelled : Spells value decade.first) :
      Denotes .decade value (.years decade)

/-- A raw clause stands for a clause that carries its operator and looks for what it denotes. -/
def StandsFor (raw : RawClause) (clause : Clause) : Prop :=
  raw.operator = clause.operator.symbol ∧ Denotes raw.kind raw.value clause.content

/-- A value of a kind denotes nothing that a clause could look for. -/
inductive DenotesNothing : Kind → String → ClassifyError → Prop
  | kind {name value : String} : DenotesNothing (.unknown name) value (.unknownKind name)
  | number {value : String} (unspelled : ∀ year, ¬ Spells value year) :
      DenotesNothing .decade value (.malformedDecade value)
  /-- The year that the value spells starts no decade. -/
  | years {value : String} {year : Int} (spelled : Spells value year)
      (unaligned : year % 10 ≠ 0) : DenotesNothing .decade value (.badYears (.unaligned year))

/-- A raw clause stands for no clause, whatever its value if its operator is unknown. -/
inductive Fails : RawClause → ClassifyError → Prop
  | operator {symbol value : String} {kind : Kind}
      (unknown : ∀ operator : Operator, operator.symbol ≠ some symbol) :
      Fails ⟨some symbol, kind, value⟩ (.unknownOperator symbol)
  | content {operator : Operator} {kind : Kind} {value : String} {error : ClassifyError}
      (nothing : DenotesNothing kind value error) : Fails ⟨operator.symbol, kind, value⟩ error

/-- Errors about raw clauses that do not match the clauses there are, not about their years. -/
def ClassifyError.IsMismatch : ClassifyError → Prop
  | .unknownOperator _ | .malformedDecade _ | .unknownKind _ => True
  | .badYears _ => False

/-! ### One raw clause -/

/-- An operator is understood from its own symbol only. -/
theorem ofSymbol_eq_ok_iff {symbol : Option String} {operator : Operator} :
    Operator.ofSymbol symbol = .ok operator ↔ symbol = operator.symbol := by
  constructor
  · intro understood
    unfold Operator.ofSymbol at understood
    grind [Operator.symbol]
  · rintro rfl
    exact ofSymbol_symbol operator

/-- A symbol is rejected exactly if it is no operator's, and the error names it. -/
theorem ofSymbol_eq_error_iff {symbol : Option String} {error : ClassifyError} :
    Operator.ofSymbol symbol = .error error ↔ ∃ name, symbol = some name ∧
      (∀ operator : Operator, operator.symbol ≠ some name) ∧ error = .unknownOperator name := by
  constructor
  · intro rejected
    unfold Operator.ofSymbol at rejected
    split at rejected
    · contradiction
    next name =>
      -- The name is none of those that the branches in front compare with.
      have unknown (operator : Operator) : operator.symbol ≠ some name := by
        cases operator <;> grind [Operator.symbol]
      grind
  · rintro ⟨name, rfl, unknown, rfl⟩
    have must := unknown .must
    have mustNot := unknown .mustNot
    grind [Operator.ofSymbol, Operator.symbol]

/-- The content of a value is what it denotes. -/
theorem ofRaw_eq_ok_iff {kind : Kind} {value : String} {content : Content} :
    Content.ofRaw kind value = .ok content ↔ Denotes kind value content := by
  constructor
  · intro understood
    cases kind with
    | term => cases understood; exact .term
    | phrase => cases understood; exact .phrase
    | unknown name => contradiction
    | decade =>
      -- A decade was read as an integer first, which then had to start ten years.
      simp only [Content.ofRaw, Decade.starting] at understood
      cases read : Number.integerOfText? value with
      | none => simp [read] at understood
      | some year =>
        by_cases aligned : year % 10 = 0
        · obtain rfl : Content.years ⟨year, aligned⟩ = content := by
            simpa [read, aligned] using understood
          exact .decade (Number.integerOfText?_eq_some_iff.1 read)
        · simp [read, aligned] at understood
  · intro denotes
    cases denotes with
    | term | phrase => rfl
    | @decade _ decade spelled =>
      simp [Content.ofRaw, Number.integerOfText?_eq_some_iff.2 spelled, Decade.starting,
        decade.aligned]

/-- A value has no content exactly if it denotes nothing. -/
theorem ofRaw_eq_error_iff {kind : Kind} {value : String} {error : ClassifyError} :
    Content.ofRaw kind value = .error error ↔ DenotesNothing kind value error := by
  constructor
  · intro rejected
    cases kind with
    | term | phrase => contradiction
    | unknown name => cases rejected; exact .kind
    | decade =>
      -- Decades alone fail in two ways: in the reading of the number, and in its last digit.
      simp only [Content.ofRaw, Decade.starting] at rejected
      cases read : Number.integerOfText? value with
      | none =>
        obtain rfl : ClassifyError.malformedDecade value = error := by simpa [read] using rejected
        exact .number fun year spelled => by
          simp [Number.integerOfText?_eq_some_iff.2 spelled] at read
      | some year =>
        by_cases aligned : year % 10 = 0
        · simp [read, aligned] at rejected
        · obtain rfl : ClassifyError.badYears (.unaligned year) = error := by
            simpa [read, aligned] using rejected
          exact .years (Number.integerOfText?_eq_some_iff.1 read) aligned
  · intro nothing
    cases nothing with
    | kind => rfl
    | number unspelled =>
      have unread : Number.integerOfText? value = none :=
        Option.eq_none_iff_forall_ne_some.2 fun year read =>
          unspelled year (Number.integerOfText?_eq_some_iff.1 read)
      simp [Content.ofRaw, unread]
    | years spelled unaligned =>
      simp [Content.ofRaw, Number.integerOfText?_eq_some_iff.2 spelled, Decade.starting, unaligned]

/-- A raw clause is classified as the clause that it stands for. -/
theorem classify_eq_ok_iff {raw : RawClause} {clause : Clause} :
    classify raw = .ok clause ↔ StandsFor raw clause := by
  rw [StandsFor, ← ofSymbol_eq_ok_iff, ← ofRaw_eq_ok_iff]
  obtain ⟨operator, content⟩ := clause
  unfold classify
  -- The operator and the content are found apart, and the clause is the pair of them.
  cases Operator.ofSymbol raw.operator <;> cases Content.ofRaw raw.kind raw.value <;> simp

/-- A raw clause is rejected exactly if it stands for no clause. -/
theorem classify_eq_error_iff {raw : RawClause} {error : ClassifyError} :
    classify raw = .error error ↔ Fails raw error := by
  obtain ⟨symbol, kind, value⟩ := raw
  constructor
  · intro rejected
    unfold classify at rejected
    cases known : Operator.ofSymbol symbol with
    | error unknown =>
      -- The operator is looked at first, so that nothing is known of the value.
      obtain ⟨name, rfl, others, rfl⟩ := ofSymbol_eq_error_iff.1 known
      obtain rfl : _ = error := by simpa [known] using rejected
      exact .operator others
    | ok operator =>
      obtain rfl := ofSymbol_eq_ok_iff.1 known
      cases content : Content.ofRaw kind value with
      | ok content => simp [known, content] at rejected
      | error nothing =>
        obtain rfl : nothing = error := by simpa [known, content] using rejected
        exact .content (ofRaw_eq_error_iff.1 content)
  · intro fails
    cases fails with
    | operator unknown =>
      simp [classify, ofSymbol_eq_error_iff.2 ⟨_, rfl, unknown, rfl⟩]
    | content nothing =>
      simp [classify, ofSymbol_symbol, ofRaw_eq_error_iff.2 nothing]

/-! ### Raw clauses in order -/

/-- Raw clauses are classified in order, each as the clause that it stands for. -/
theorem classifyAll_eq_ok_iff {raws : List RawClause} {clauses : List Clause} :
    classifyAll raws = .ok clauses ↔ List.Forall₂ StandsFor raws clauses := by
  induction raws generalizing clauses with
  | nil => simp [classifyAll, eq_comm]
  | cons raw rest ih =>
    rw [List.forall₂_cons_left_iff, classifyAll]
    simp only [← ih, ← classify_eq_ok_iff]
    cases classify raw <;> cases classifyAll rest <;> simp [eq_comm]

/-- Raw clauses are rejected for the first of them that stands for no clause. -/
theorem classifyAll_eq_error_iff {raws : List RawClause} {error : ClassifyError} :
    classifyAll raws = .error error ↔ ∃ front raw behind clauses, raws = front ++ raw :: behind ∧
      List.Forall₂ StandsFor front clauses ∧ Fails raw error := by
  constructor
  · -- The induction keeps the front of raw clauses that stand for something.
    intro rejected
    induction raws with
    | nil => contradiction
    | cons raw rest ih =>
      rw [classifyAll] at rejected
      cases first : classify raw with
      | error own =>
        obtain rfl : own = error := by simpa [first] using rejected
        exact ⟨[], raw, rest, [], rfl, .nil, classify_eq_error_iff.1 first⟩
      | ok clause =>
        cases others : classifyAll rest with
        | ok clauses => simp [first, others] at rejected
        | error later =>
          obtain rfl : later = error := by simpa [first, others] using rejected
          obtain ⟨front, failing, behind, clauses, rfl, stand, fails⟩ := ih others
          exact ⟨raw :: front, failing, behind, clause :: clauses, rfl,
            .cons (classify_eq_ok_iff.1 first) stand, fails⟩
  · rintro ⟨front, raw, behind, clauses, rfl, stand, fails⟩
    -- The clauses of the front are made, and given up with the error behind them.
    induction stand with
    | nil => simp [classifyAll, classify_eq_error_iff.2 fails]
    | cons standsFor _ ih => simp [classifyAll, classify_eq_ok_iff.2 standsFor, ih]

/-- Classifying gives the clauses that raw clauses stand for, or the error of the first of them that
stands for none; every error tells of a mismatch but for decades on a year that starts none. -/
theorem classify_outcomes (raw : RawClause) (raws : List RawClause) :
    (∀ clause, classify raw = .ok clause ↔ StandsFor raw clause) ∧
    (∀ error, classify raw = .error error ↔ Fails raw error) ∧
    ((∃ error, classify raw = .error error ∧ ¬ error.IsMismatch) ↔
      ∃ operator value year, raw = ⟨Operator.symbol operator, .decade, value⟩ ∧
        Spells value year ∧ year % 10 ≠ 0) ∧
    (∀ clauses, classifyAll raws = .ok clauses ↔ List.Forall₂ StandsFor raws clauses) ∧
    ∀ error, classifyAll raws = .error error ↔
      ∃ front failing behind clauses, raws = front ++ failing :: behind ∧
        List.Forall₂ StandsFor front clauses ∧ Fails failing error := by
  refine ⟨fun _ => classify_eq_ok_iff, fun _ => classify_eq_error_iff, ?_,
    fun _ => classifyAll_eq_ok_iff, fun _ => classifyAll_eq_error_iff⟩
  constructor
  · rintro ⟨error, rejected, escapes⟩
    -- Of all the ways to fail only the years of a decade give an error of the other sort.
    cases classify_eq_error_iff.1 rejected with
    | operator => exact absurd trivial escapes
    | content nothing =>
      cases nothing with
      | kind | number => exact absurd trivial escapes
      | years spelled unaligned => exact ⟨_, _, _, rfl, spelled, unaligned⟩
  · rintro ⟨operator, value, year, rfl, spelled, unaligned⟩
    exact ⟨_, classify_eq_error_iff.2 (.content (.years spelled unaligned)), id⟩

example : classify ⟨none, .decade, "1955"⟩ = .error (.badYears (.unaligned 1955)) := by
  cbv

end BooleanSearch.Query
