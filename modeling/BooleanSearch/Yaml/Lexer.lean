import BooleanSearch.Yaml.Folded
import BooleanSearch.Yaml.Token

/-! Tokens of YAML texts: columns are turned into tokens, and keys are found by their colons. -/

namespace BooleanSearch.Yaml

/-- A place where a key starts if a colon follows it. -/
structure Candidate where
  /-- How many tokens stand in front of the place. -/
  place : Nat
  /-- Where in the text it is. -/
  start : Position
  /-- Whether nothing but a key may stand there. -/
  required : Bool

/-- The longest distance between the start of a key and its colon. -/
def keyLimit : Nat := 1024

/-- Whether a colon at a position could still belong to a candidate. -/
def Candidate.isFresh (position : Position) (candidate : Candidate) : Bool :=
  candidate.start.line == position.line && position.offset - candidate.start.offset ≤ keyLimit

/-- The tokens of a text up to some cursor. -/
structure Lexer where
  /-- Where the reading goes on. -/
  cursor : Cursor
  /-- The tokens that were found, the last one first. -/
  tokens : List Token
  /-- How many tokens were found. -/
  count : Nat
  /-- The columns of the lists and mappings that are open, the innermost one first. -/
  columns : List Nat
  /-- Whether a key may start here. -/
  allowsKey : Bool
  /-- The candidate inside the innermost brackets. -/
  candidate : Option Candidate
  /-- The candidates outside of brackets that are open, from the inside out. -/
  outer : List (Option Candidate)

namespace Lexer

/-- The front of a text. -/
def start (cs : List Char) : Lexer := ⟨.start cs, [], 0, [], true, none, []⟩

/-- Whether brackets are open. -/
def inFlow (lexer : Lexer) : Bool := !lexer.outer.isEmpty

/-- A further token. -/
def emit (token : Token) (lexer : Lexer) : Lexer :=
  { lexer with tokens := token :: lexer.tokens, count := lexer.count + 1 }

/-- A token that is found late, with so many tokens in front of it. -/
def insert (place : Nat) (token : Token) (lexer : Lexer) : Lexer :=
  let later := lexer.count - place
  { lexer with
    tokens := lexer.tokens.take later ++ token :: lexer.tokens.drop later
    count := lexer.count + 1 }

/-- The reading goes on behind a number of characters. -/
def advance (count : Nat) (lexer : Lexer) : Lexer :=
  { lexer with cursor := lexer.cursor.advance count }

/-- All candidates, from the inside out. -/
def candidates (lexer : Lexer) : List Candidate :=
  (lexer.candidate :: lexer.outer).filterMap id

/-- Drops the candidates that are too far behind for a colon; a required one may not be lost. -/
def dropStale (lexer : Lexer) : Except Error Lexer :=
  let isFresh := Candidate.isFresh lexer.cursor.toPosition
  if lexer.candidates.any fun candidate => candidate.required && !isFresh candidate then
    .error .malformed
  else .ok { lexer with
    candidate := lexer.candidate.filter isFresh
    outer := lexer.outer.map (·.filter isFresh) }

/-- Drops the innermost candidate; a required one may not be lost. -/
def forget (lexer : Lexer) : Except Error Lexer :=
  if lexer.candidate.any (·.required) then .error .malformed
  else .ok { lexer with candidate := none }

/-- Makes what comes next a candidate, where a key may start. -/
def remember (lexer : Lexer) : Except Error Lexer :=
  if !lexer.allowsKey then .ok lexer
  else
    let required := !lexer.inFlow && lexer.columns.head? == some lexer.cursor.column
    lexer.forget.map fun lexer =>
      { lexer with candidate := some ⟨lexer.count, lexer.cursor.toPosition, required⟩ }

/-- Whether keys may start from here on. -/
def allowKey (allowsKey : Bool) (lexer : Lexer) : Lexer :=
  { lexer with allowsKey }

/-- Leaves the columns from some one on. -/
def leaveFrom (column : Nat) (lexer : Lexer) : Lexer :=
  -- Inside brackets columns mean nothing.
  if lexer.inFlow then lexer
  else
    let left := lexer.columns.takeWhile (column ≤ ·)
    let lexer := left.foldl (fun lexer _ => lexer.emit .dedent) lexer
    { lexer with columns := lexer.columns.drop left.length }

/-- Whether a column lies behind all that are open. -/
def isDeeper (column : Nat) (lexer : Lexer) : Bool :=
  lexer.columns.head?.all (· < column)

/-- Opens a column where none is open. -/
def enter (column : Nat) (lexer : Lexer) : Lexer :=
  { lexer with columns := column :: lexer.columns }

/-- A mark between documents. -/
def documentMark (token : Token) (lexer : Lexer) : Except Error Lexer :=
  (lexer.leaveFrom 0).forget.map fun lexer =>
    ((lexer.allowKey false).emit token).advance 3

/-- A bracket that opens a collection; the whole collection may be a key. -/
def openBracket (token : Token) (lexer : Lexer) : Except Error Lexer :=
  lexer.remember.map fun lexer =>
    let inner := { lexer with candidate := none, outer := lexer.candidate :: lexer.outer }
    ((inner.allowKey true).emit token).advance 1

/-- A bracket that closes a collection. -/
def closeBracket (token : Token) (lexer : Lexer) : Except Error Lexer :=
  match lexer.outer with
  | [] => .error .malformed
  | candidate :: outer =>
    .ok ((({ lexer with candidate, outer }.allowKey false).emit token).advance 1)

/-- A comma between two entries. -/
def entryComma (lexer : Lexer) : Except Error Lexer :=
  lexer.forget.map fun lexer => ((lexer.allowKey true).emit .comma).advance 1

/-- A dash or a question mark in front of an entry, which may open a column. -/
def entryMark (opening token : Token) (allowsKey : Bool) (lexer : Lexer) : Except Error Lexer :=
  let column := lexer.cursor.column
  if !lexer.inFlow && !lexer.allowsKey then .error .malformed
  else
    let opens := !lexer.inFlow && lexer.isDeeper column
    let inner := if opens then (lexer.enter column).emit opening else lexer
    inner.forget.map fun lexer => ((lexer.allowKey allowsKey).emit token).advance 1

/-- A colon, which makes a key of the innermost candidate. -/
def colon (lexer : Lexer) : Except Error Lexer :=
  match lexer.candidate with
  -- Without a candidate the colon belongs to a key that was marked as one.
  | none => lexer.entryMark .mappingIndent .colon (!lexer.inFlow)
  | some ⟨place, start, _⟩ =>
    let found := { lexer with candidate := none }.insert place .key
    let opens := !lexer.inFlow && lexer.isDeeper start.column
    let inner := if opens then (found.enter start.column).insert place .mappingIndent else found
    -- Two keys cannot stand one behind the other on a line.
    .ok (((inner.allowKey false).emit .colon).advance 1)

/-- A scalar or a name, which may be a key, and the cursor behind it. -/
def part (token : Token) (behind : Cursor) (lexer : Lexer) : Except Error Lexer :=
  lexer.remember.map fun lexer =>
    { (lexer.allowKey false).emit token with cursor := behind }

/-- A scalar in quotes. -/
def quotedScalar (taken : Except Error Taken) (lexer : Lexer) : Except Error Lexer :=
  match lexer.remember with
  | .error error => .error error
  | .ok _ => taken.bind fun (cs, behind) => lexer.part (.quoted cs) behind

/-- A plain scalar; a key may start behind it once its line has ended. -/
def plainScalar (fuel : Nat) (lexer : Lexer) : Except Error Lexer :=
  let margin := match lexer.columns with
    | [] => 0
    | column :: _ => column + 1
  let run := takePlain lexer.inFlow margin fuel [] false lexer.cursor
  (lexer.part (.plain run.content) run.behind).map (·.allowKey run.endsLine)

/-- The name of a node behind its mark. -/
def nodeName (token : List Char → Token) (lexer : Lexer) : Except Error Lexer :=
  let name := lexer.cursor.step.rest.takeWhile isNameCharacter
  let behind := lexer.cursor.advance (name.length + 1)
  let ends := atWhite behind.rest || behind.rest.head?.any "?:,]\x7d%@\x60".toList.contains
  if name.isEmpty || !ends then .error .malformed else lexer.part (token name) behind

/-- The type of a node. -/
def nodeType (lexer : Lexer) : Except Error Lexer :=
  match takeTag? lexer.cursor with
  | none => .error .malformed
  | some (tag, behind) => lexer.part (.tag tag) behind

/-- Whether a plain scalar can start with a text. -/
def startsPlain (flow : Bool) : List Char → Bool
  | [] => false
  | c :: rest =>
    -- Some indicators are ordinary characters when text follows them directly.
    if c == '-' then !atWhite rest
    else if c == '?' || c == ':' then !flow && !atWhite rest
    else !isWhite c && !isFlowMark c && !"#&*!|>'\"%@\x60".toList.contains c

/-- Whether an indicator stands on its own; inside brackets some need no blank behind them. -/
def isIndicator (flow : Bool) (indicator : Char) : List Char → Bool
  | [] => false
  | c :: rest => c == indicator && (flow || atWhite rest)

/-- The next token. -/
def next (fuel : Nat) (lexer : Lexer) : Except Error Lexer :=
  let cs := lexer.cursor.rest
  let flow := lexer.inFlow
  let atMargin := lexer.cursor.column == 0
  if atMargin && startsMarked '-' cs then lexer.documentMark .documentOpen
  else if atMargin && startsMarked '.' cs then lexer.documentMark .documentClose
  else if isIndicator false '-' cs then lexer.entryMark .listIndent .dash true
  else if isIndicator flow '?' cs then lexer.entryMark .mappingIndent .key (!flow)
  else if isIndicator flow ':' cs then lexer.colon
  else
    match cs with
    | '[' :: _ => lexer.openBracket .listOpen
    | '\x7b' :: _ => lexer.openBracket .mappingOpen
    | ']' :: _ => lexer.closeBracket .listClose
    | '\x7d' :: _ => lexer.closeBracket .mappingClose
    | ',' :: _ => lexer.entryComma
    | '*' :: _ => lexer.nodeName .alias
    | '&' :: _ => lexer.nodeName .anchor
    | '!' :: _ => lexer.nodeType
    | '\'' :: _ => lexer.quotedScalar (takeSingle fuel lexer.cursor.step)
    | '"' :: _ => lexer.quotedScalar (takeDouble fuel lexer.cursor.step)
    | _ => if startsPlain flow cs then lexer.plainScalar fuel else .error .malformed

/-- The lexer at the next part of the text, with the columns left that do not reach it. -/
def approach (lexer : Lexer) : Except Error Lexer :=
  let cursor := skipGap false lexer.cursor.rest lexer.cursor.toPosition
  let crossed := !lexer.inFlow && lexer.cursor.line != cursor.line
  let near : Lexer := { lexer with cursor, allowsKey := lexer.allowsKey || crossed }
  -- Behind the end of the text no column is left.
  near.dropStale.map (leaveFrom (if cursor.rest.isEmpty then 0 else cursor.column + 1))

/-- The tokens up to those that are not settled while a fresh candidate may become a key. -/
def settled (lexer : Lexer) : List Token :=
  let fresh := lexer.candidates.filter (·.isFresh lexer.cursor.toPosition)
  let place := fresh.foldl (fun place candidate => min place candidate.place) lexer.count
  (lexer.tokens.drop (lexer.count - place)).reverse

/-- All tokens from a lexer on. -/
def run : (fuel : Nat) → Lexer → List Token
  | 0, lexer => lexer.settled ++ [.broken .malformed]
  | fuel + 1, lexer =>
    match lexer.approach with
    | .error error => lexer.settled ++ [.broken error]
    | .ok near =>
      if near.cursor.rest.isEmpty then
        match near.forget with
        | .error error => lexer.settled ++ [.broken error]
        | .ok near => near.tokens.reverse ++ [.ended]
      else
        match near.next fuel with
        | .error error => lexer.settled ++ [.broken error]
        | .ok behind => run fuel behind

end Lexer

/-- The tokens of a text; the last one tells how the reading ended. -/
def tokensOf (cs : List Char) : List Token :=
  Lexer.run (cs.length + 2) (.start cs)

end BooleanSearch.Yaml
