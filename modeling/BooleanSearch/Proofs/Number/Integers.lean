import BooleanSearch.Number.Integer
import BooleanSearch.Proofs.Text.Runs

/-! The texts that spell integers: blanks around a sign and digits with underscores in between. -/

namespace BooleanSearch.Number

open Text

/-- Digits in a row, with their values; a single underscore may stand between two digits. -/
inductive DigitRun : List Char → List Nat → Prop
  | single {c : Char} {value : Nat} (digit : decimalValue? c = some value) : DigitRun [c] [value]
  | next {c : Char} {value : Nat} {cs : List Char} {values : List Nat}
      (digit : decimalValue? c = some value) (behind : DigitRun cs values) :
      DigitRun (c :: cs) (value :: values)
  | parted {c : Char} {value : Nat} {cs : List Char} {values : List Nat}
      (digit : decimalValue? c = some value) (behind : DigitRun cs values) :
      DigitRun (c :: '_' :: cs) (value :: values)

/-- What stands in front of the digits of a number, and the factor that it stands for. -/
inductive Signed : List Char → Int → Prop
  | bare : Signed [] 1
  | plus : Signed ['+'] 1
  | minus : Signed ['-'] (-1)

/-- A text spells an integer in digits of any script, with blanks around it at most. -/
inductive Spells (text : String) : Int → Prop
  | intro {before sign run after : List Char} {factor : Int} {values : List Nat}
      (parts : text.toList = before ++ (sign ++ run ++ after))
      (blankBefore : ∀ c ∈ before, isNumberBlank c) (blankAfter : ∀ c ∈ after, isNumberBlank c)
      (signed : Signed sign factor) (digits : DigitRun run values)
      (few : values.length ≤ digitLimit) : Spells text (factor * spelledNumber 10 values)

/-! ### Runs of digits -/

/-- A digit is neither the underscore between digits nor a sign in front of them. -/
theorem ne_of_digit {c : Char} (digit : (decimalValue? c).isSome) :
    c ≠ '_' ∧ c ≠ '-' ∧ c ≠ '+' := by
  have plain : (decimalValue? '_').isSome = false ∧ (decimalValue? '-').isSome = false ∧
      (decimalValue? '+').isSome = false := by decide
  refine ⟨?_, ?_, ?_⟩ <;> rintro rfl <;> simp [plain] at digit

/-- A run of digits opens with a digit. -/
theorem DigitRun.opens {cs : List Char} {values : List Nat} (run : DigitRun cs values) :
    ∃ c rest, cs = c :: rest ∧ (decimalValue? c).isSome := by
  cases run with
  | single digit => exact ⟨_, _, rfl, by simp [digit]⟩
  | next digit _ => exact ⟨_, _, rfl, by simp [digit]⟩
  | parted digit _ => exact ⟨_, _, rfl, by simp [digit]⟩

/-- Digits are read as a run exactly if underscores stand between them one at a time. -/
theorem digitRun?_eq_some_iff {cs : List Char} {values : List Nat} :
    digitRun? cs = some values ↔ DigitRun cs values := by
  constructor
  · intro read
    -- Both ways to go on read a digit first, and then the run behind it.
    fun_induction digitRun? cs generalizing values with
    | case1 => contradiction
    | case2 c =>
      obtain ⟨value, digit, rfl⟩ := Option.map_eq_some_iff.1 read
      exact .single digit
    | case3 c rest ih =>
      obtain ⟨value, digit, others, behind, rfl⟩ : ∃ value, decimalValue? c = some value ∧
          ∃ others, digitRun? rest = some others ∧ value :: others = values := by
        simpa [Option.bind_eq_some_iff] using read
      exact .parted digit (ih behind)
    | case4 c rest single parted ih =>
      obtain ⟨value, digit, others, behind, rfl⟩ : ∃ value, decimalValue? c = some value ∧
          ∃ others, digitRun? rest = some others ∧ value :: others = values := by
        simpa [Option.bind_eq_some_iff] using read
      exact .next digit (ih behind)
  · -- The induction is on the run itself, from its last digit to its first one.
    intro run
    induction run with
    | single digit => simp [digitRun?, digit]
    | parted digit _ ih => simp [digitRun?, digit, ih]
    | next digit behind ih =>
      -- The digit behind is not taken for an underscore.
      obtain ⟨d, rest, rfl, opening⟩ := behind.opens
      rw [digitRun?] <;> simp [digit, ih, ne_of_digit opening]

/-- What a run of digits spells is the number of their values, unless there are too many of them. -/
theorem naturalOfRun?_eq_some_iff {cs : List Char} {number : Nat} :
    naturalOfRun? cs = some number ↔ ∃ values, DigitRun cs values ∧ values.length ≤ digitLimit ∧
      number = spelledNumber 10 values := by
  simp only [naturalOfRun?, Option.bind_eq_bind, Option.bind_eq_some_iff, digitRun?_eq_some_iff,
    Option.ite_none_right_eq_some, Option.some.injEq, @eq_comm _ number]

/-! ### Blanks around numbers -/

/-- No digit of any script is a blank. -/
theorem isNumberBlank_of_digit {c : Char} (digit : (decimalValue? c).isSome) :
    isNumberBlank c = false := by
  -- The digits of each script stand behind its zero, and none of them is among the blanks.
  have plain : ∀ origin ∈ decimalZeros, ∀ k < 10,
      isNumberBlank (Char.ofNat (origin + k)) = false := by decide +kernel
  simp only [decimalValue?, Option.isSome_map, List.find?_isSome, Bool.and_eq_true,
    decide_eq_true_eq] at digit
  obtain ⟨origin, member, lower, upper⟩ := digit
  have found := plain origin member (c.toNat - origin) (by omega)
  rwa [Nat.add_sub_cancel' lower, Char.ofNat_toNat] at found

/-- No character of a run of digits is a blank. -/
theorem DigitRun.noBlank {cs : List Char} {values : List Nat} (run : DigitRun cs values) :
    ∀ c ∈ cs, isNumberBlank c = false := by
  have underscore : isNumberBlank '_' = false := by decide
  induction run with
  | single digit => simp [isNumberBlank_of_digit, digit]
  | next digit _ ih =>
    exact List.forall_mem_cons.2 ⟨isNumberBlank_of_digit (by simp [digit]), ih⟩
  | parted digit _ ih =>
    exact List.forall_mem_cons.2 ⟨isNumberBlank_of_digit (by simp [digit]),
      List.forall_mem_cons.2 ⟨underscore, ih⟩⟩

/-- No character of a sign and a run of digits is a blank. -/
theorem Signed.noBlank {sign cs : List Char} {factor : Int} {values : List Nat}
    (signed : Signed sign factor) (run : DigitRun cs values) :
    ∀ c ∈ sign ++ cs, isNumberBlank c = false := by
  have signs : isNumberBlank '+' = false ∧ isNumberBlank '-' = false := by decide
  cases signed <;> simpa [signs] using run.noBlank

/-- What is left of a text without its blanks is told by its own characters. -/
theorem inner_eq {test : Char → Bool} {before inner after : List Char}
    (holds : ∀ c ∈ before, test c) (fails : ∀ c ∈ inner, test c = false)
    (nonempty : inner ≠ []) (behind : ∀ c ∈ after, test c) :
    dropEndWhile test ((before ++ (inner ++ after)).dropWhile test) = inner := by
  obtain ⟨c, rest, rfl⟩ := List.exists_cons_of_ne_nil nonempty
  rw [dropWhile_append_stop holds (by simpa using fails c (by simp)), dropEndWhile,
    List.reverse_append, dropWhile_append_stop (by simpa using behind), List.reverse_reverse]
  -- Seen from its end the inner part starts with a member of its own.
  intro d last
  rw [List.head?_reverse] at last
  exact fails d (List.mem_of_getLast? last)

/-- A list is its blanks in front, what is left without blanks, and its blanks behind. -/
theorem exists_inner (test : α → Bool) (items : List α) :
    ∃ before after, (∀ x ∈ before, test x) ∧ (∀ x ∈ after, test x) ∧
      items = before ++ (dropEndWhile test (items.dropWhile test) ++ after) := by
  refine ⟨items.takeWhile test, ((items.dropWhile test).reverse.takeWhile test).reverse,
    fun x member => List.mem_takeWhile_imp member, fun x member => ?_, ?_⟩
  · exact List.mem_takeWhile_imp (List.mem_reverse.1 member)
  · rw [dropEndWhile, ← List.reverse_append, List.takeWhile_append_dropWhile,
      List.reverse_reverse, List.takeWhile_append_dropWhile]

/-- Without its blanks a spelling is a sign and a run of digits that spells a natural number. -/
theorem Spells.of_inner {text : String} {sign digits : List Char} {factor : Int} {natural : Nat}
    (signed : Signed sign factor)
    (inner : dropEndWhile isNumberBlank (text.toList.dropWhile isNumberBlank) = sign ++ digits)
    (known : naturalOfRun? digits = some natural) : Spells text (factor * natural) := by
  obtain ⟨before, after, blankBefore, blankAfter, parts⟩ := exists_inner isNumberBlank text.toList
  obtain ⟨values, run, few, rfl⟩ := naturalOfRun?_eq_some_iff.1 known
  rw [inner] at parts
  exact .intro parts blankBefore blankAfter signed run few

/-- A text is read as the integer that it spells. -/
theorem integerOfText?_eq_some_iff {text : String} {number : Int} :
    integerOfText? text = some number ↔ Spells text number := by
  constructor
  · -- A sign is taken off before the digits are read.
    intro read
    simp only [integerOfText?] at read
    split at read
    next digits inner =>
      obtain ⟨natural, known, rfl⟩ := Option.map_eq_some_iff.1 read
      simpa using Spells.of_inner .minus inner known
    next digits inner =>
      obtain ⟨natural, known, rfl⟩ := Option.map_eq_some_iff.1 read
      simpa using Spells.of_inner .plus inner known
    next =>
      obtain ⟨natural, known, rfl⟩ := Option.map_eq_some_iff.1 read
      simpa using Spells.of_inner .bare rfl known
  · rintro ⟨parts, blankBefore, blankAfter, signed, run, few⟩
    obtain ⟨d, rest, rfl, opening⟩ := run.opens
    -- The blanks around are taken off, up to the sign and the digits and no further.
    have inner := inner_eq blankBefore (signed.noBlank run) (by simp) blankAfter
    have known := naturalOfRun?_eq_some_iff.2 ⟨_, run, few, rfl⟩
    obtain ⟨-, noMinus, noPlus⟩ := ne_of_digit opening
    rw [← parts] at inner
    cases signed with
    | bare => simp [integerOfText?, inner, known, noMinus, noPlus]
    | plus => simp [integerOfText?, inner, known]
    | minus => simp [integerOfText?, inner, known]

end BooleanSearch.Number
