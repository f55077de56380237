import BooleanSearch.Yaml.Scalar
import BooleanSearch.Yaml.Tag

/-! Tokens: the parts of a YAML text that its structure is told by. -/

namespace BooleanSearch.Yaml

/-- A part of a YAML text, or where the reading of its parts ends. -/
inductive Token
  /-- The line that opens a document. -/
  | documentOpen
  /-- The line that closes a document. -/
  | documentClose
  /-- A list whose entries stand in a column starts. -/
  | listIndent
  /-- A mapping whose keys stand in a column starts. -/
  | mappingIndent
  /-- The innermost column is left. -/
  | dedent
  /-- A square bracket opens a list. -/
  | listOpen
  /-- A square bracket closes a list. -/
  | listClose
  /-- A brace opens a mapping. -/
  | mappingOpen
  /-- A brace closes a mapping. -/
  | mappingClose
  /-- A comma between two entries inside brackets. -/
  | comma
  /-- The dash of an entry. -/
  | dash
  /-- A key starts. -/
  | key
  /-- The colon between a key and what stands under it. -/
  | colon
  /-- A node is named. -/
  | anchor (name : List Char)
  /-- A node of a name is meant. -/
  | alias (name : List Char)
  /-- A node is said to be of some type. -/
  | tag (tag : Tag)
  /-- A scalar without quotes. -/
  | plain (cs : List Char)
  /-- A scalar in quotes. -/
  | quoted (cs : List Char)
  /-- The text is at its end. -/
  | ended
  /-- The text cannot be read any further. -/
  | broken (error : Error)
deriving Repr, DecidableEq

end BooleanSearch.Yaml
