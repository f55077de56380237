import BooleanSearch.Proofs.Query.Furthest

/-! What the reading of a text could have gone on with where it failed. -/

namespace BooleanSearch.Query

variable {text : String}

/-- The offset of the character at which the reading of a text failed, or the end of the text. -/
def Stop.failedAt (text : String) : Stop → Nat
  -- A sign at the end is no failure yet: a body is missing behind it.
  | .strayOperator _ true => text.length
  | stop => stop.refused

/-- The sign of a clause stands directly in front of an offset. -/
def BehindSign (cs : List Char) (offset : Nat) : Prop :=
  ∃ (start : Nat) (sign : Sign) (behind : List Char),
    Boundary cs start (sign.symbol :: behind) ∧ offset = start + 1

/-! ### Texts that are cut off -/

/-- The characters of a body that fits are a body too if the text ends somewhere behind them. -/
theorem Body.Fits.cut {sign : Option Sign} {front behind : List Char} {body : Body}
    (fits : body.Fits sign (front ++ behind)) :
    ∃ other : Body, other.text = body.text ∧ other.Fits sign front := by
  cases front with
  | cons c rest => exact ⟨body, rfl, fits.of_head? (by simp)⟩
  | nil =>
    -- A term that looks like a decade is one if only a quote kept it from ending its word.
    cases fits with
    | phrase inside => exact ⟨_, rfl, .phrase inside⟩
    | decade shape ends => exact ⟨_, rfl, .decade shape rfl⟩
    | @term run unquoted plain =>
      have alone : Unquoted sign run [] :=
        ⟨unquoted.nonempty, unquoted.termChars, trivial, unquoted.unsigned⟩
      exact ⟨_, unquotedBody_text run [], alone.fits⟩

/-- Complete clauses make a query without what stands behind them. -/
theorem Complete.exists_wellSpelled {behind : List Char} {spelled : List Spelling}
    (complete : Complete behind spelled) :
    ∃ others, WellSpelled others ∧ spelledText others = spelledText spelled := by
  -- The clauses keep their characters, though the last of them may be spelled as another one.
  induction spelled with
  | nil => exact ⟨[], trivial, rfl⟩
  | cons spelling rest ih =>
    obtain ⟨sign, body, space⟩ := spelling
    obtain ⟨fits, blank, complete⟩ := complete
    obtain ⟨others, well, same⟩ := ih complete
    rw [← List.append_assoc] at fits
    obtain ⟨last, written, fits⟩ := fits.cut
    rw [← same] at fits
    refine ⟨⟨sign, last, space⟩ :: others, ⟨fits, blank, well⟩, ?_⟩
    simp only [spelledText, List.flatMap_cons, Spelling.text, written] at same ⊢
    rw [same]

/-- A text that ends behind complete clauses is accepted. -/
theorem Boundary.accepted {cs behind : List Char} {offset : Nat}
    (boundary : Boundary cs offset behind) :
    ∃ raws, Query.parse (String.ofList (cs.take offset)) = .ok raws := by
  obtain ⟨spelled, complete, rfl, rfl⟩ := boundary
  obtain ⟨others, well, same⟩ := complete.exists_wellSpelled
  rw [List.take_left, ← same]
  exact ⟨_, parse_eq_ok_iff.2 ⟨others, well, by simp, rfl⟩⟩

/-- A text that ends behind the sign of a clause is rejected. -/
theorem BehindSign.rejected {cs : List Char} {offset : Nat} (signed : BehindSign cs offset) :
    ¬ ∃ raws, parse (String.ofList (cs.take offset)) = .ok raws := by
  obtain ⟨start, sign, behind, boundary, rfl⟩ := signed
  rintro ⟨raws, accepted⟩
  -- The text in front of the offset has a flaw of its own: it ends in a sign.
  have cut := boundary.take 1 Nat.one_pos
  have flawed : HasFlaw (cs.take (start + 1)) .bareSign (start + 1) := .bareSign cut rfl
  exact flawed.parse_ne raws accepted

/-! ### Alternatives -/

/-- What the reading has in front of an offset: no sign that waits for its body, or one. -/
inductive Reached (cs : List Char) (offset : Nat) : Front → Prop
  | clause {front : Front} {behind : List Char} (unsigned : front ≠ .signed)
      (boundary : Boundary cs offset behind) : Reached cs offset front
  | body (signed : BehindSign cs offset) : Reached cs offset .signed

/-- What the reading has in front of an offset is in the text. -/
theorem Reached.le {cs : List Char} {offset : Nat} {front : Front}
    (reached : Reached cs offset front) : offset ≤ cs.length := by
  cases reached with
  | clause _ boundary => exact Nat.le.intro boundary.length_eq
  | body signed =>
    obtain ⟨start, sign, behind, boundary, rfl⟩ := signed
    rw [← boundary.length_eq, List.length_cons]
    omega

/-- The text may end where a clause may start, and nowhere else. -/
theorem Reached.accepted_iff {cs : List Char} {offset : Nat} {front : Front}
    (reached : Reached cs offset front) :
    (∃ raws, parse (String.ofList (cs.take offset)) = .ok raws) ↔ front ≠ .signed := by
  cases reached with
  | clause unsigned boundary => exact iff_of_true boundary.accepted unsigned
  | body signed => exact iff_of_false signed.rejected (· rfl)

/-- An offset is behind a sign only if the sign still waits for its body there. -/
theorem Reached.behindSign_iff {cs : List Char} {offset : Nat} {front : Front}
    (reached : Reached cs offset front) : BehindSign cs offset ↔ front = .signed := by
  cases reached with
  | clause unsigned boundary =>
    exact iff_of_false (fun signed => signed.rejected boundary.accepted) unsigned
  | body signed => exact iff_of_true signed rfl

/-- The end of the text and an operator can follow exactly where no sign waits for its body. -/
theorem Front.mem_alternatives (front : Front) :
    (.endOfInput ∈ front.alternatives ↔ front ≠ .signed) ∧
      (.operator ∈ front.alternatives ↔ front ≠ .signed) := by
  cases front <;> decide

/-- Behind clauses that are complete no sign waits for its body. -/
theorem Front.behindAll_ne_signed (spelled : List Spelling) :
    ∀ front : Front, front ≠ .signed → front.behindAll spelled ≠ .signed := by
  induction spelled with
  | nil => exact fun front unsigned => unsigned
  | cons spelling rest ih =>
    intro front _
    -- Each clause leaves blanks or its body in front of the next one.
    apply ih
    split <;> simp

/-- Where a reading fails, the alternatives are those of what it has in front of it. -/
theorem exists_reached {stop : Stop} (rejected : read text = .error stop) :
    ∃ front : Front, Reached text.toList (stop.failedAt text) front ∧
      stop.alternatives = front.alternatives := by
  obtain ⟨spelled, behind, inner, complete, same, -, -, stopped, rfl⟩ := exists_stopsAt rejected
  have boundary : Boundary text.toList (spelledText spelled).length behind :=
    ⟨spelled, complete, same, rfl⟩
  have unsigned := Front.behindAll_ne_signed spelled .fresh (by decide)
  -- A quote is refused where a clause may start, or else behind its sign.
  have atQuote : ∀ (sign : Option Sign) (rest : List Char), behind = signText sign ++ '"' :: rest →
      Reached text.toList ((spelledText spelled).length + (signText sign).length)
        ((Front.fresh.behindAll spelled).behind sign) := by
    rintro sign rest rfl
    cases sign with
    | none => exact .clause unsigned boundary
    | some sign => exact .body ⟨_, sign, _, boundary, rfl⟩
  cases stopped with
  | blank broken => exact ⟨.fresh, .clause (by decide) boundary, rfl⟩
  | @strayOperator sign rest broken =>
    refine ⟨.signed, .body ⟨_, sign, rest, boundary, ?_⟩, rfl⟩
    cases rest with
    | nil =>
      have total := boundary.length_eq
      rw [String.length_toList] at total
      exact total.symm
    | cons c more => simp [Stop.failedAt, Stop.refused, Stop.shift]
  | unclosed sign noQuote => exact ⟨_, atQuote sign _ rfl, rfl⟩
  | blankPhrase sign space closed => exact ⟨_, atQuote sign _ rfl, rfl⟩

/--
The end of the text is an alternative exactly where the text could have ended.

The reading fails at some offset of every text that is rejected, or at its end.
It would have accepted the end there exactly if what stands in front of the offset is a query.
An operator could have stood there unless the sign of a clause stands directly in front.
-/
theorem alternatives_where_failed {error : SyntaxError} (rejected : parse text = .error error) :
    ∃ stop, read text = .error stop ∧ error = stop.report text ∧
      stop.failedAt text ≤ text.length ∧
      (.endOfInput ∈ stop.alternatives ↔
        ∃ raws, parse (String.ofList (text.toList.take (stop.failedAt text))) = .ok raws) ∧
      (.operator ∈ stop.alternatives ↔ ¬ BehindSign text.toList (stop.failedAt text)) := by
  obtain ⟨stop, unread, rfl⟩ := exists_stop rejected
  obtain ⟨front, reached, same⟩ := exists_reached unread
  obtain ⟨ending, operator⟩ := front.mem_alternatives
  refine ⟨stop, unread, rfl, ?_, ?_, ?_⟩
  · simpa only [String.length_toList] using reached.le
  · rw [same, ending, reached.accepted_iff]
  · rw [same, operator, reached.behindSign_iff]

/-- A term that only a quote keeps from being a decade could have ended the text as one. -/
theorem alternatives_where_failed_decade :
    parse "1990\"" = .error ⟨"1990\"", 5, ["closing quote"]⟩ ∧
      parse "1990" = .ok [⟨none, .decade, "1990"⟩] ∧
        ∃ stop, read "1990\"" = .error stop ∧ stop.failedAt "1990\"" = 4 ∧
          .endOfInput ∈ stop.alternatives ∧ .operator ∈ stop.alternatives := by
  have rejected : parse "1990\"" = .error ⟨"1990\"", 5, ["closing quote"]⟩ := by cbv
  have accepted : parse "1990" = .ok [⟨none, .decade, "1990"⟩] := by cbv
  have unclosed : read "1990\"" = .error (.unclosed .glued 4 5) := by cbv
  obtain ⟨stop, unread, -, -, ending, -⟩ := alternatives_where_failed rejected
  obtain rfl : .unclosed .glued 4 5 = stop := by simpa [unclosed] using unread
  exact ⟨rejected, accepted, _, unclosed, rfl, ending.2 ⟨_, accepted⟩, by decide⟩

end BooleanSearch.Query
