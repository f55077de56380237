import BooleanSearch.Json.Reader
import BooleanSearch.Json.Writer

/-! Strings are read back as they were written, up to their own closing quote and no further. -/

namespace BooleanSearch.Json

/-- The code point of a character is a unit that stands for that character alone. -/
theorem unitChar_toNat (c : Char) : unitChar c.toNat = c := by
  have valid : c.toNat.isValidChar := c.valid
  simp [unitChar, valid]

/-- A character is no half of a pair. -/
theorem pairChar?_toNat (c : Char) (low : Nat) : pairChar? c.toNat low = none := by
  -- The halves of pairs lie exactly where no character does.
  have valid : c.toNat.isValidChar := c.valid
  simp only [Nat.isValidChar] at valid
  simp only [pairChar?, Bool.and_eq_true, decide_eq_true_eq]
  rw [if_neg (by omega)]

/-- The code points of characters are read as these characters. -/
theorem charsOfUnits_toNat (cs : List Char) : charsOfUnits (cs.map Char.toNat) = cs := by
  induction cs with
  | nil => rfl
  | cons c rest ih =>
    -- Two units are looked at together, since they could be halves of a pair.
    cases rest with
    | nil => simp [charsOfUnits, unitChar_toNat]
    | cons next rest =>
      simp only [List.map_cons] at ih ⊢
      simp [charsOfUnits, pairChar?_toNat, unitChar_toNat, ih]

/-- A control is escaped by four digits that name it. -/
theorem unit?_hexText {code : Nat} (control : code < 0x20) :
    ∃ a b c d, Text.hexText 4 code = [a, b, c, d] ∧ unit? a b c d = some code := by
  -- There are no more than thirty-two controls.
  have digits : ∀ code < 0x20, Text.hexText 4 code =
        ['0', '0', Text.hexDigit (code / 16), Text.hexDigit (code % 16)] ∧
      unit? '0' '0' (Text.hexDigit (code / 16)) (Text.hexDigit (code % 16)) = some code := by
    decide
  obtain ⟨written, reads⟩ := digits code control
  exact ⟨_, _, _, _, written, reads⟩

/-- A letter behind a backslash is read as the character that it stands for. -/
theorem readUnits_short {letter c : Char} (named : shortEscape? letter = some c)
    (rest : List Char) :
    readUnits ('\\' :: letter :: rest) =
      (readUnits rest).map fun (units, rest) => (c.toNat :: units, rest) := by
  -- The letter in front of four digits stands for no character of its own.
  have noUnit : letter ≠ 'u' := by rintro rfl; simp [shortEscape?] at named
  simp [readUnits, noUnit, named]

/-- A character that needs no escape is read as it is. -/
theorem readUnits_plain {c : Char} (noQuote : c ≠ '"') (noEscape : c ≠ '\\')
    (noControl : ¬ c.toNat < 0x20) (rest : List Char) :
    readUnits (c :: rest) =
      (readUnits rest).map fun (units, rest) => (c.toNat :: units, rest) := by
  -- None of the patterns for quotes and escapes matches.
  rw [readUnits]
  · simp [noEscape, noControl]
  · simp [noQuote]
  · simp [noEscape]
  · simp [noEscape]

/-- The characters with an escape of one letter, and these letters. -/
def shortEscapes : List (Char × Char) :=
  [('"', '"'), ('\\', '\\'), ('\n', 'n'), ('\r', 'r'), ('\t', 't'), ('\x08', 'b'), ('\x0c', 'f')]

/-- The short escapes are written, and read back. -/
theorem escaped_short : ∀ pair ∈ shortEscapes,
    escaped pair.1 = ['\\', pair.2] ∧ shortEscape? pair.2 = some pair.1 := by
  decide

/-- All other characters are written as they are, unless they are controls. -/
theorem escaped_other {c : Char} (unlisted : c ∉ shortEscapes.map Prod.fst) :
    escaped c = if c.toNat < 0x20 then '\\' :: 'u' :: Text.hexText 4 c.toNat else [c] := by
  simp only [shortEscapes, List.map_cons, List.map_nil, List.mem_cons, List.not_mem_nil, or_false,
    not_or] at unlisted
  simp [escaped, unlisted]

/-- A character is read back from its escape, and what follows is read on. -/
theorem readUnits_escaped (c : Char) (rest : List Char) :
    readUnits (escaped c ++ rest) =
      (readUnits rest).map fun (units, rest) => (c.toNat :: units, rest) := by
  -- A character has an escape of one letter, one of four digits, or none.
  by_cases listed : c ∈ shortEscapes.map Prod.fst
  · obtain ⟨pair, member, rfl⟩ := List.mem_map.1 listed
    obtain ⟨written, named⟩ := escaped_short pair member
    rw [written, List.cons_append, List.singleton_append, readUnits_short named]
  · rw [escaped_other listed]
    split
    · -- A control without a letter is written by its code point.
      rename_i control
      obtain ⟨a, b, c, d, digits, reads⟩ := unit?_hexText control
      simp [digits, readUnits, reads]
    · rename_i noControl
      refine readUnits_plain ?_ ?_ noControl rest <;> rintro rfl <;>
        exact listed (by simp [shortEscapes])

/-- The characters of a string are read back up to its closing quote. -/
theorem readUnits_flatMap (cs rest : List Char) :
    readUnits (cs.flatMap escaped ++ '"' :: rest) = some (cs.map Char.toNat, rest) := by
  -- Each escape is read by itself, since none of them is the start of another one.
  induction cs with
  | nil => simp [readUnits]
  | cons c tail ih => rw [List.flatMap_cons, List.append_assoc, readUnits_escaped, ih]; rfl

/-- A string is read back whatever its text is, and reading stops right behind it. -/
theorem readString_flatMap (text : String) (rest : List Char) :
    readString (text.toList.flatMap escaped ++ '"' :: rest) = some (text, rest) := by
  -- The units are code points of characters, none of which is half of a pair.
  simp [readString, readUnits_flatMap, charsOfUnits_toNat]

end BooleanSearch.Json
