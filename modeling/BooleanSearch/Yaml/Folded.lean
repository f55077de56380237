import BooleanSearch.Yaml.Cursor
import BooleanSearch.Yaml.Scalar

/-! Scalars that run over several lines, plain or in quotes, with their line ends folded. -/

namespace BooleanSearch.Yaml

/-- Characters that were read, and the cursor behind them. -/
abbrev Taken := List Char × Cursor

/-- What was read, with characters in front of it. -/
def Taken.after (front : List Char) (taken : Taken) : Taken :=
  (front ++ taken.1, taken.2)

/-- The line ends and blanks that come next, as the line ends that they hold. -/
def takeBreaks (blank : Char → Bool) : List Char → Position → Option Taken
  | [], position => some ([], ⟨position, []⟩)
  | c :: rest, position =>
    if blank c then takeBreaks blank rest (position.behind c)
    else if isBreak c then
      -- No document may end inside a scalar.
      if startsMark rest then none
      else (takeBreaks blank rest (position.behind c)).map (Taken.after [c])
    else some ([], ⟨position, c :: rest⟩)

/-- A first line end and the further ones as they are folded. -/
def foldBreaks (first : Char) (further : List Char) : List Char :=
  -- A single line feed becomes a space; of several the first one is dropped.
  if first != '\n' then first :: further
  else if further.isEmpty then [' ']
  else further

/-- Blanks and line ends between two parts of a scalar as they are folded. -/
def takeSpaces (blank : Char → Bool) (cursor : Cursor) : Option Taken :=
  let next := skipAll blank cursor.rest cursor.toPosition
  let blanks := cursor.rest.takeWhile blank
  match next.rest with
  | [] => some (blanks, next)
  | c :: rest =>
    if !isBreak c then some (blanks, next)
    else if startsMark rest then none
    else
      (takeBreaks blank rest (next.toPosition.behind c)).map fun (further, behind) =>
        (foldBreaks c further, behind)

/-- Blanks inside quotes. -/
def isQuotedBlank (c : Char) : Bool := c == ' ' || c == '\t'

/-- The characters up to a closing single quote. -/
def takeSingle : (fuel : Nat) → Cursor → Except Error Taken
  | 0, _ => .error .malformed
  | fuel + 1, cursor =>
    match cursor.rest with
    | [] => .error .malformed
    | '\'' :: '\'' :: _ => (takeSingle fuel (cursor.advance 2)).map (Taken.after ['\''])
    | '\'' :: _ => .ok ([], cursor.step)
    | c :: _ =>
      if isWhite c then
        match takeSpaces isQuotedBlank cursor with
        | none => .error .malformed
        | some (spaces, next) => (takeSingle fuel next).map (Taken.after spaces)
      else (takeSingle fuel cursor.step).map (Taken.after [c])

/-- The characters that a letter behind a backslash stands for. -/
def escapes : List (Char × Char) := [
  ('0', '\x00'), ('a', '\x07'), ('b', '\x08'), ('t', '\t'), ('\t', '\t'), ('n', '\n'),
  ('v', '\x0b'), ('f', '\x0c'), ('r', '\r'), ('e', '\x1b'), (' ', ' '), ('"', '"'),
  ('\\', '\\'), ('/', '/'), ('N', '\u0085'), ('_', '\u00a0'), ('L', '\u2028'), ('P', '\u2029')]

/-- The number of digits that a letter behind a backslash takes. -/
def escapeWidth? : Char → Option Nat
  | 'x' => some 2
  | 'u' => some 4
  | 'U' => some 8
  | _ => none

/-- The number that a run of digits in base sixteen spells, if a text starts with one so long. -/
def codeOf? (width : Nat) (cs : List Char) : Option Nat := do
  let values ← (cs.take width).mapM fun c => (Text.asciiValue? c).filter (· < 16)
  if values.length == width then some (Text.spelledNumber 16 values) else none

/-- The second half of a character that is named in two halves, and the cursor behind it. -/
def lowerHalf? (cursor : Cursor) : Option (Nat × Cursor) := do
  let (letter, digits) ← match cursor.rest with
    | '\\' :: letter :: digits => some (letter, digits)
    | _ => none
  let width ← escapeWidth? letter
  let code ← codeOf? width digits
  if 0xDC00 ≤ code && code < 0xE000 then some (code - 0xDC00, cursor.advance (width + 2))
  else none

/-- The character of a code point; what follows may hold the other half of it. -/
def takeNamed (code : Nat) (behind : Cursor) : Except Error Taken :=
  if code.isValidChar then .ok ([Char.ofNat code], behind)
  else if 0x7FFFFFFF < code then .error .noWord
  else if 0x10FFFF < code then .error .noCharacter
  else
    -- Characters outside of the first plane may be named by two units of sixteen bits.
    match lowerHalf? behind with
    | some (low, next) =>
      if code < 0xDC00 then .ok ([Char.ofNat (0x10000 + (code - 0xD800) * 0x400 + low)], next)
      else .error .malformed
    | none => .error .malformed

/-- What an escape stands for, from behind its backslash on. -/
def takeEscape (cursor : Cursor) : Except Error Taken :=
  match cursor.rest with
  | [] => .error .malformed
  | c :: rest =>
    match escapes.lookup c, escapeWidth? c with
    | some meant, _ => .ok ([meant], cursor.step)
    | none, some width =>
      match codeOf? width rest with
      | some code => takeNamed code (cursor.advance (width + 1))
      | none => .error .malformed
    | none, none =>
      -- An escaped line end joins the lines.
      if isBreak c && !startsMark rest then
        match takeBreaks isQuotedBlank rest (cursor.toPosition.behind c) with
        | some taken => .ok taken
        | none => .error .malformed
      else .error .malformed

/-- The characters up to a closing double quote. -/
def takeDouble : (fuel : Nat) → Cursor → Except Error Taken
  | 0, _ => .error .malformed
  | fuel + 1, cursor =>
    match cursor.rest with
    | [] => .error .malformed
    | '"' :: _ => .ok ([], cursor.step)
    | '\\' :: _ =>
      match takeEscape cursor.step with
      | .error error => .error error
      | .ok (meant, next) => (takeDouble fuel next).map (Taken.after meant)
    | c :: _ =>
      if isWhite c then
        match takeSpaces isQuotedBlank cursor with
        | none => .error .malformed
        | some (spaces, next) => (takeDouble fuel next).map (Taken.after spaces)
      else (takeDouble fuel cursor.step).map (Taken.after [c])

/-- Characters that end a plain scalar inside brackets. -/
def isFlowMark (c : Char) : Bool :=
  c == ',' || c == '[' || c == ']' || c == '\x7b' || c == '\x7d'

/-- Whether a colon with some text behind it ends a plain scalar. -/
def colonEnds (flow : Bool) : List Char → Bool
  | [] => true
  | c :: _ => isWhite c || (flow && isFlowMark c)

/-- The characters of a plain scalar up to the next white space or indicator. -/
def plainRun (flow : Bool) : List Char → List Char
  | [] => []
  | c :: rest =>
    if isWhite c || (c == ':' && colonEnds flow rest) ||
        (flow && (isFlowMark c || c == '?')) then []
    else c :: plainRun flow rest

/-- A plain scalar that was read. -/
structure PlainRun where
  /-- Its characters, with line ends folded. -/
  content : List Char
  /-- Where the reading goes on. -/
  behind : Cursor
  /-- Whether a line end lies between its last character and that place. -/
  endsLine : Bool

/-- The plain scalar, or the part of one, whose further lines start behind a margin. -/
def takePlain (flow : Bool) (margin : Nat) :
    (fuel : Nat) → (spaces : List Char) → (endsLine : Bool) → Cursor → PlainRun
  | 0, _, endsLine, cursor => ⟨[], cursor, endsLine⟩
  | fuel + 1, spaces, endsLine, cursor =>
    let run := if cursor.rest.head? == some '#' then [] else plainRun flow cursor.rest
    if run.isEmpty then ⟨[], cursor, endsLine⟩
    else
      let behind := cursor.advance run.length
      match takeSpaces (· == ' ') behind with
      -- The document ends behind this part; its line end is left to the reader of the gap.
      | none => ⟨spaces ++ run, behind, true⟩
      | some (between, next) =>
        let crossed := behind.line != next.line
        -- Outside of brackets a further line has to be indented.
        if between.isEmpty || (!flow && next.column < margin) then
          ⟨spaces ++ run, next, crossed⟩
        else
          let further := takePlain flow margin fuel between crossed next
          { further with content := spaces ++ run ++ further.content }

end BooleanSearch.Yaml
