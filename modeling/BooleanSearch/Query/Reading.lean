import BooleanSearch.Query.Spelling

/-! Texts read as spelled clauses from the left, and the four ways in which this stops. -/

namespace BooleanSearch.Query

/-- What stands in front of the body of a clause. -/
inductive Front
  | fresh
  | glued
  | signed
deriving Repr, DecidableEq

/-- Why the reading of a text stops, with offsets into that text. -/
inductive Stop
  /-- White space stands where a clause must start. -/
  | blank (offset : Nat)
  /-- The sign at an offset has no body behind it. -/
  | strayOperator (offset : Nat) (atEnd : Bool)
  /-- The quote at an offset has no later quote in a text of some length. -/
  | unclosed (front : Front) (offset length : Nat)
  /-- The quote at an offset has white space behind it and a later quote. -/
  | blankPhrase (front : Front) (offset : Nat)
deriving Repr, DecidableEq

/-- The same stop in a text with more characters in front. -/
def Stop.shift (count : Nat) : Stop → Stop
  | .blank offset => .blank (count + offset)
  | .strayOperator offset atEnd => .strayOperator (count + offset) atEnd
  | .unclosed front offset length => .unclosed front (count + offset) (count + length)
  | .blankPhrase front offset => .blankPhrase front (count + offset)

/-- The sign at the start of a clause, and what follows it. -/
def takeSign : List Char → Option Sign × List Char
  | [] => (none, [])
  | c :: rest =>
    match Sign.ofChar? c with
    | some sign => (some sign, rest)
    | none => (none, c :: rest)

/-- Whether a text is at its end or goes on with white space. -/
def atBreak : List Char → Bool
  | [] => true
  | c :: _ => isSpace c

/-- The phrase behind an opening quote, and what follows its closing quote. -/
def takePhrase (front : Front) (rest : List Char) : Except Stop (Body × List Char) :=
  match rest.dropWhile (· != '"') with
  | [] => .error (.unclosed front 0 (rest.length + 1))
  | _ :: behind =>
    -- A phrase is empty or opens with a term.
    let inner := rest.takeWhile (· != '"')
    if !inner.isEmpty && atBreak inner then .error (.blankPhrase front 0)
    else .ok (.phrase inner, behind)

/-- The body at the start of a text, and what follows it. -/
def takeBody (front : Front) (cs : List Char) : Except Stop (Body × List Char) :=
  match cs with
  | [] => .error (.blank 0)
  | c :: rest =>
    if c == '"' then takePhrase front rest
    else if isSpace c then .error (.blank 0)
    else
      let run := cs.takeWhile isTermChar
      let behind := cs.dropWhile isTermChar
      -- A run has to end its word to be read as a decade.
      match if atBreak behind then decadeOf? run else none with
      | some decade => .ok (decade, behind)
      | none => .ok (.term run, behind)

/-- A body that ends a run of term characters or a phrase leaves less to read. -/
theorem takeBody_length {front : Front} {cs : List Char} {body : Body} {behind : List Char}
    (taken : takeBody front cs = .ok (body, behind)) : behind.length < cs.length := by
  have dropped : ∀ (test : Char → Bool) (l : List Char), (l.dropWhile test).length ≤ l.length :=
    fun test l => (List.dropWhile_suffix test).length_le
  unfold takeBody at taken
  split at taken
  · simp at taken
  · rename_i c rest
    split at taken
    · -- A phrase takes at least its opening quote.
      unfold takePhrase at taken
      split at taken
      · simp at taken
      · rename_i tail found
        have shorter := dropped (· != '"') rest
        rw [found] at shorter
        simp only [List.length_cons] at shorter
        simp only at taken
        split at taken <;> simp at taken
        rw [← taken.2, List.length_cons]
        omega
    · split at taken
      · simp at taken
      · -- A run takes at least its first character.
        rename_i quote space
        have first : isTermChar c = true := by simp_all [isTermChar]
        have shorter := dropped isTermChar rest
        have ends : behind = rest.dropWhile isTermChar := by
          simp only [List.dropWhile_cons, first, if_true] at taken
          split at taken <;> simp at taken <;> exact taken.2.symm
        rw [ends, List.length_cons]
        omega

/-- A sign takes at most one character. -/
theorem takeSign_length (cs : List Char) : (takeSign cs).2.length ≤ cs.length := by
  cases cs with
  | nil => simp [takeSign]
  | cons c rest => simp only [takeSign]; split <;> simp

/-- The sign and the body at the start of a text, and what follows them. -/
def takeClause (front : Front) (cs : List Char) :
    Except Stop (Option Sign × Body × List Char) :=
  match takeSign cs with
  | (none, rest) =>
    match takeBody front rest with
    | .ok (body, behind) => .ok (none, body, behind)
    | .error stop => .error stop
  | (some sign, rest) =>
    match takeBody .signed rest with
    | .ok (body, behind) => .ok (some sign, body, behind)
    -- A sign without a body is reported at the sign itself.
    | .error (.blank _) => .error (.strayOperator 0 rest.isEmpty)
    | .error stop => .error (stop.shift 1)

/-- A clause leaves less to read. -/
theorem takeClause_length {front : Front} {cs : List Char} {sign : Option Sign} {body : Body}
    {behind : List Char} (taken : takeClause front cs = .ok (sign, body, behind)) :
    behind.length < cs.length := by
  have signs := takeSign_length cs
  unfold takeClause at taken
  split at taken <;> rename_i rest taking <;> rw [taking] at signs <;> dsimp only at signs
  · cases read : takeBody front rest with
    | error stop => simp [read] at taken
    | ok found =>
      obtain ⟨taking, left⟩ := found
      have shorter := takeBody_length read
      simp only [read, Except.ok.injEq, Prod.mk.injEq] at taken
      rw [← taken.2.2]
      omega
  · cases read : takeBody .signed rest with
    | error stop => cases stop <;> simp [read] at taken
    | ok found =>
      obtain ⟨taking, left⟩ := found
      have shorter := takeBody_length read
      simp only [read, Except.ok.injEq, Prod.mk.injEq] at taken
      rw [← taken.2.2]
      omega

/-- The spelled clauses of a text, from the left. -/
def spellings (front : Front) (cs : List Char) : Except Stop (List Spelling) :=
  match cs with
  | [] => .ok []
  | c :: rest =>
    match taken : takeClause front (c :: rest) with
    | .error stop => .error stop
    | .ok (sign, body, behind) =>
      let space := behind.takeWhile isSpace
      let next := behind.dropWhile isSpace
      have : next.length < (c :: rest).length :=
        Nat.lt_of_le_of_lt (List.dropWhile_suffix isSpace).length_le (takeClause_length taken)
      match spellings (if space.isEmpty then .glued else .fresh) next with
      | .ok others => .ok (⟨sign, body, space⟩ :: others)
      -- Offsets behind this clause count from the front of the whole text.
      | .error stop => .error (stop.shift ((c :: rest).length - next.length))
termination_by cs.length
decreasing_by exact this

/-- The spelled clauses of a text. -/
def read (text : String) : Except Stop (List Spelling) :=
  spellings .fresh text.toList

end BooleanSearch.Query
