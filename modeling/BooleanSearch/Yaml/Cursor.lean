/-! Cursors in YAML texts: what is left to read, and where on its line it stands. -/

namespace BooleanSearch.Yaml

/-- Characters that end a line; the other line ends are line feeds by the time they are read. -/
def isBreak (c : Char) : Bool :=
  c == '\n' || c == '\u2028' || c == '\u2029'

/-- Characters that set the parts of a text apart. -/
def isWhite (c : Char) : Bool :=
  c == ' ' || c == '\t' || isBreak c

/-- Characters of the names that a text gives to its nodes and types. -/
def isNameCharacter (c : Char) : Bool := c.isAlphanum || c == '-' || c == '_'

/-- Whether a text is at its end or goes on with white space. -/
def atWhite : List Char → Bool
  | [] => true
  | c :: _ => isWhite c

/-- A position in a text. -/
structure Position where
  /-- How many characters have been read. -/
  offset : Nat
  /-- How many lines have been ended. -/
  line : Nat
  /-- How many characters of the line have been read, byte order marks left out. -/
  column : Nat

/-- The position behind a character. -/
def Position.behind (position : Position) (c : Char) : Position :=
  if isBreak c then ⟨position.offset + 1, position.line + 1, 0⟩
  else
    let width := if c == '\uFEFF' then 0 else 1
    ⟨position.offset + 1, position.line, position.column + width⟩

/-- A position, and what is left to read there. -/
structure Cursor extends Position where
  /-- What is left to read. -/
  rest : List Char

/-- The front of a text. -/
def Cursor.start (cs : List Char) : Cursor := ⟨⟨0, 0, 0⟩, cs⟩

/-- The cursor behind the next character. -/
def Cursor.step (cursor : Cursor) : Cursor :=
  match cursor.rest with
  | [] => cursor
  | c :: rest => ⟨cursor.toPosition.behind c, rest⟩

/-- The cursor behind a number of characters. -/
def Cursor.advance : Nat → Cursor → Cursor
  | 0, cursor => cursor
  | count + 1, cursor => advance count cursor.step

/-- The cursor behind all characters of a kind that come next. -/
def skipAll (kind : Char → Bool) : List Char → Position → Cursor
  | [], position => ⟨position, []⟩
  | c :: rest, position =>
    if kind c then skipAll kind rest (position.behind c) else ⟨position, c :: rest⟩

/-- The cursor behind the spaces, line ends and comments that come next. -/
def skipGap (inComment : Bool) : List Char → Position → Cursor
  | [], position => ⟨position, []⟩
  | c :: rest, position =>
    if isBreak c then skipGap false rest (position.behind c)
    -- A comment lasts until its line ends.
    else if inComment || c == '#' then skipGap true rest (position.behind c)
    else if c == ' ' then skipGap false rest (position.behind c)
    else ⟨position, c :: rest⟩

/-- Whether a text starts with a line that consists of a mark. -/
def startsMarked (mark : Char) : List Char → Bool
  | a :: b :: c :: rest => a == mark && b == mark && c == mark && atWhite rest
  | _ => false

/-- Whether a text starts with a mark between documents. -/
def startsMark (cs : List Char) : Bool :=
  startsMarked '-' cs || startsMarked '.' cs

end BooleanSearch.Yaml
