import BooleanSearch.Query.SyntaxError
import BooleanSearch.Text.Place

/-! Tokens: the pieces of a query with the places where they stand. -/

namespace BooleanSearch.Query

open Text (Place)

/-- The kinds of tokens. -/
inductive TokenKind
  | operator
  | phrase
  | decade
  | term
deriving Repr, DecidableEq

/-- The kind of token that a body is. -/
def Body.tokenKind : Body → TokenKind
  | .phrase _ => .phrase
  | .decade .. => .decade
  | .term _ => .term

/-- A piece of a text together with where it stands. -/
structure Token where
  /-- What the token is. -/
  kind : TokenKind
  /-- The characters of the token. -/
  value : List Char
  /-- The offset of its first character. -/
  start : Nat
  /-- The offset behind its last character. -/
  stop : Nat
  /-- The place of its first character. -/
  startPlace : Place
  /-- The place behind its last character. -/
  stopPlace : Place
deriving Repr, DecidableEq

/-- How far a text has been cut into tokens. -/
structure Cursor where
  /-- The offset that is reached. -/
  offset : Nat
  /-- The place that is reached. -/
  place : Place
deriving Repr, DecidableEq

/-- The front of a text. -/
def Cursor.start : Cursor := ⟨0, Place.start⟩

/-- The cursor behind a run of characters. -/
def Cursor.advance (cursor : Cursor) (cs : List Char) : Cursor :=
  ⟨cursor.offset + cs.length, cursor.place.afterAll cs⟩

/-- The token that a run of characters is. -/
def Cursor.token (cursor : Cursor) (kind : TokenKind) (cs : List Char) : Token :=
  let behind := cursor.advance cs
  ⟨kind, cs, cursor.offset, behind.offset, cursor.place, behind.place⟩

/-- The tokens of one clause; the white space behind it is no token. -/
def clauseTokens (cursor : Cursor) (spelling : Spelling) : List Token :=
  let sign := signText spelling.sign
  let payload := (cursor.advance sign).token spelling.body.tokenKind spelling.body.text
  if sign.isEmpty then [payload] else [cursor.token .operator sign, payload]

/-- The tokens of spelled clauses, clause by clause. -/
def tokensFrom (cursor : Cursor) : List Spelling → List (List Token)
  | [] => []
  | spelling :: rest =>
    clauseTokens cursor spelling :: tokensFrom (cursor.advance spelling.text) rest

/-- The tokens of a text, clause by clause. -/
def tokens (text : String) : Except SyntaxError (List (List Token)) :=
  match read text with
  | .ok spelled => .ok (tokensFrom .start spelled)
  | .error stop => .error (stop.report text)

end BooleanSearch.Query
