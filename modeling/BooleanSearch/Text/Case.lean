import BooleanSearch.Text.CaseTable

/-! Upper-case and lower-case forms of texts in every script. -/

namespace BooleanSearch.Text

/-- The counterpart of a code point under the first run that holds it. -/
def shiftIn : List CaseRun → Nat → Option Nat
  | [], _ => none
  | run :: rest, code =>
    -- Members of a run lie a whole number of strides behind its first member.
    if run.first ≤ code && code ≤ run.last && (code - run.first) % run.stride == 0 then
      some (Int.toNat (code + run.shift))
    else shiftIn rest code

/-- The form of a code point under exceptions and runs, itself where neither names it. -/
def caseForm (specials : List (Nat × List Nat)) (runs : List CaseRun) (c : Char) : List Char :=
  match specials.lookup c.toNat with
  | some codes => codes.map Char.ofNat
  | none =>
    match shiftIn runs c.toNat with
    | some code => [Char.ofNat code]
    | none => [c]

/-- The upper-case form of one character. -/
def upperForm (c : Char) : List Char :=
  -- ASCII letters need no table.
  if c.toNat < 0x80 then [c.toUpper] else caseForm upperSpecials upperRuns c

/-- The lower-case form of one character, whatever stands around it. -/
def lowerForm (c : Char) : List Char :=
  if c.toNat < 0x80 then [c.toLower] else caseForm lowerSpecials lowerRuns c

/-- A text with every character in its upper-case form. -/
def upper (text : String) : String :=
  String.ofList (text.toList.flatMap upperForm)

/-- A text with every character in its lower-case form. -/
def lower (text : String) : String :=
  String.ofList (text.toList.flatMap lowerForm)

/-- A text whose first ASCII letter is upper-case and whose other ASCII letters are lower-case. -/
def capitalize (text : String) : String :=
  match text.toList with
  | [] => ""
  | c :: rest => String.ofList (c.toUpper :: rest.map Char.toLower)

end BooleanSearch.Text
