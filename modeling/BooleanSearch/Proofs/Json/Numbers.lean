import BooleanSearch.Json.Reader
import BooleanSearch.Proofs.Text.Runs

/-! Integers are read back as they were written, in front of anything that is no number. -/

namespace BooleanSearch.Json

open Number Text

/-- What may stand behind a value: nothing that a number could go on with. -/
def EndsValue (rest : List Char) : Prop :=
  -- At the end of a text nothing follows, and that ends a value as well.
  ∀ c ∈ rest.head?, c.isDigit = false ∧ c ≠ '.' ∧ c ≠ 'e' ∧ c ≠ 'E'

/-- A number has at least one digit. -/
theorem toDigits_eq_cons (n : Nat) : ∃ c tail, Nat.toDigits 10 n = c :: tail ∧ c.isDigit := by
  obtain ⟨c, tail, written⟩ := List.exists_cons_of_ne_nil (Nat.toDigits_ne_nil (n := n) (b := 10))
  have member : c ∈ Nat.toDigits 10 n := by simp [written]
  exact ⟨c, tail, written, Nat.isDigit_of_mem_toDigits (by decide) (by decide) member⟩

/-- A decimal digit of a positive number is not written as a zero. -/
theorem digitChar_ne_zero {digit : Nat} (positive : 0 < digit) (small : digit < 10) :
    digit.digitChar ≠ '0' := by
  have all : ∀ digit < 10, 0 < digit → digit.digitChar ≠ '0' := by decide
  exact all digit small positive

/-- The digits of a positive number do not start with a zero. -/
theorem head?_toDigits {n : Nat} (positive : 0 < n) : (Nat.toDigits 10 n).head? ≠ some '0' := by
  -- The first digit is that of the number with its last digit taken off.
  induction n using Nat.strongRecOn with
  | ind n ih =>
    rcases Nat.lt_or_ge n 10 with small | large
    · simpa [Nat.toDigits_of_lt_base small] using digitChar_ne_zero positive small
    · have first := ih (n / 10) (by omega) (by omega)
      obtain ⟨c, tail, written, -⟩ := toDigits_eq_cons (n / 10)
      rw [written] at first
      rw [Nat.toDigits_of_base_le (by omega) large, written]
      simpa using first

/-- All digits of a number are read, whether or not it is zero. -/
theorem readWhole_toDigits (n : Nat) {rest : List Char} (ends : EndsValue rest) :
    readWhole (Nat.toDigits 10 n ++ rest) = (Nat.toDigits 10 n, rest) := by
  rcases Nat.eq_zero_or_pos n with rfl | positive
  · -- Zero is a lone digit, and the reader looks no further.
    simp [readWhole]
  · -- Without a leading zero the digits are taken as a run.
    have digits : ∀ c ∈ Nat.toDigits 10 n, c.isDigit := fun c member =>
      Nat.isDigit_of_mem_toDigits (by omega) (by omega) member
    have stops : ∀ c ∈ rest.head?, c.isDigit = false := fun c first => (ends c first).1
    have nonzero := head?_toDigits positive
    have taken := takeWhile_append_stop digits stops
    have left := dropWhile_append_stop digits stops
    obtain ⟨c, tail, written, -⟩ := toDigits_eq_cons n
    rw [written] at nonzero taken left ⊢
    have plain : c ≠ '0' := by simpa using nonzero
    rw [List.cons_append] at taken left ⊢
    simp [readWhole, plain, taken, left]

/-- No fraction follows a value. -/
theorem readFraction?_ends {rest : List Char} (ends : EndsValue rest) :
    readFraction? rest = none := by
  cases rest with
  | nil => rfl
  | cons c tail => simp [readFraction?, (ends c (by simp)).2.1]

/-- No exponent follows a value. -/
theorem readExponent?_ends {rest : List Char} (ends : EndsValue rest) :
    readExponent? rest = none := by
  cases rest with
  | nil => rfl
  | cons c tail => simp [readExponent?, (ends c (by simp)).2.2]

/-- The digits of a number are read as that number, if the reader admits as many. -/
theorem readNumber_toDigits {limit : Option Nat} (n : Nat)
    (short : isTooLong limit (Nat.toDigits 10 n) = false) (negative : Bool) {rest : List Char}
    (ends : EndsValue rest) :
    readNumber limit negative (Nat.toDigits 10 n ++ rest) =
      some (.int (if negative then -n else n), rest) := by
  -- Nothing behind the digits makes them a number of another kind.
  simp [readNumber, readWhole_toDigits n ends, readFraction?_ends ends, readExponent?_ends ends,
    short, naturalOf]

/-- Digits, with or without a minus in front, are read as a number and not as a word. -/
theorem readBare_digits {limit : Option Nat} {digit : Char} (isDigit : digit.isDigit)
    (rest : List Char) :
    readBare limit (digit :: rest) = readNumber limit false (digit :: rest) ∧
      readBare limit ('-' :: digit :: rest) = readNumber limit true (digit :: rest) := by
  -- No word starts with a digit.
  have noWord : ∀ c ∈ ['n', 't', 'f', 'N', 'I', '-'], digit ≠ c := by
    rintro c member rfl
    revert isDigit
    simp only [List.mem_cons, List.not_mem_nil, or_false] at member
    rcases member with rfl | rfl | rfl | rfl | rfl | rfl <;> decide
  simp only [List.mem_cons, List.not_mem_nil, or_false, forall_eq_or_imp, forall_eq] at noWord
  constructor <;> simp [readBare, noWord]

/-- An integer is read back, if the reader admits as many digits. -/
theorem readBare_intText {limit : Option Nat} {n : Int}
    (short : isTooLong limit (Nat.toDigits 10 n.natAbs) = false) {rest : List Char}
    (ends : EndsValue rest) :
    readBare limit ((intText n).toList ++ rest) = some (.int n, rest) := by
  have number := fun negative => readNumber_toDigits n.natAbs short negative ends
  obtain ⟨c, tail, written, digit⟩ := toDigits_eq_cons n.natAbs
  rw [written] at number
  obtain ⟨positive, negative⟩ := @readBare_digits limit c digit (tail ++ rest)
  simp only [List.cons_append] at number
  -- The sign is read in front of the digits, which are those of the size.
  by_cases sign : n < 0
  · have value : -(n.natAbs : Int) = n := by omega
    simp only [intText, sign, written, if_true, String.toList_ofList, List.cons_append, negative,
      number, value]
  · have value : (n.natAbs : Int) = n := by omega
    simp only [intText, sign, written, if_false, String.toList_ofList, List.cons_append, positive,
      number, Bool.false_eq_true, value]

end BooleanSearch.Json
