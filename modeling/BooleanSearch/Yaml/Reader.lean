import BooleanSearch.Yaml.Fault
import BooleanSearch.Yaml.Lexer

/-! Nodes of YAML texts: lists and mappings, told by columns and by brackets. -/

namespace BooleanSearch.Yaml

/-- The tokens that are left, and the nodes that have names. -/
structure Remainder where
  /-- What is left to read. -/
  tokens : List Token
  /-- The nodes that were named, the last one first, as far as they were read to their ends. -/
  names : List (List Char × Option Node)

/-- Something that was read, and what is left behind it. -/
abbrev Step (α : Type) := Except Error (α × Remainder)

/-- The rest behind some tokens. -/
def Remainder.at (remainder : Remainder) (tokens : List Token) : Remainder :=
  { remainder with tokens }

/-- A node is named, whose content is still to be read if there is none yet. -/
def Remainder.called (name : Option (List Char)) (node : Option Node) (remainder : Remainder) :
    Remainder :=
  { remainder with names := (name.map (·, node)).toList ++ remainder.names }

/-- The refusal of what comes next. -/
def refuse {α : Type} : List Token → Except Error α
  | .broken error :: _ => .error error
  | _ => .error .malformed

/-- Where a node stands. -/
inductive Setting
  | flow
  | block
  | underKey
deriving DecidableEq

/-- What is said of a node in front of it. -/
structure Properties where
  /-- The name of the node. -/
  name : Option (List Char)
  /-- The type of the node. -/
  tag : Option Tag

/-- Whether nothing is said of a node. -/
def Properties.isEmpty (properties : Properties) : Bool :=
  properties.name.isNone && properties.tag.isNone

/-- What is said of a node, in either order. -/
def takeProperties : List Token → Properties × List Token
  | .anchor name :: .tag tag :: tokens | .tag tag :: .anchor name :: tokens =>
    (⟨some name, some tag⟩, tokens)
  | .anchor name :: tokens => (⟨some name, none⟩, tokens)
  | .tag tag :: tokens => (⟨none, some tag⟩, tokens)
  | tokens => (⟨none, none⟩, tokens)

/-- What is wrong with the tag of a node, with some tokens behind what is said of the node. -/
def Properties.fault? (properties : Properties) (tokens : List Token) : Option Error :=
  if properties.tag.all (·.name?.isSome) then none
  else
    -- Behind a tag alone a name is looked for before the handle is.
    match properties.name, tokens with
    | none, .broken error :: _ => some error
    | _, _ => some .malformed

/-- A node with what is said of it. -/
def Properties.apply (properties : Properties) (node : Node) : Node :=
  match properties.tag with
  | none => node
  | some tag => if tag.isOpen then node.unquoted else .typed

/-- Whether one of some tokens comes next. -/
def nextIs (kinds : List Token) : List Token → Bool
  | [] => false
  | token :: _ => kinds.contains token

mutual

/-- The node that comes next. -/
def nodeAt : (fuel : Nat) → Setting → Remainder → Step Node
  | 0, _, _ => .error .malformed
  | fuel + 1, setting, remainder =>
    match remainder.tokens with
    | .alias name :: tokens =>
      match remainder.names.lookup name with
      | some (some node) => .ok (node, remainder.at tokens)
      -- A node is no part of itself.
      | some none | none => .error .malformed
    | tokens =>
      let (properties, tokens) := takeProperties tokens
      let near := (remainder.at tokens).called properties.name none
      let content := contentAt fuel setting (!properties.isEmpty) near
      match properties.fault? tokens, properties.name.bind (remainder.names.lookup ·) with
      | some error, _ => .error error
      -- No two nodes have one name.
      | none, some _ => refuse tokens
      | none, none => content.map fun (node, behind) =>
        let node := properties.apply node
        (node, behind.called properties.name node)

/-- The node that comes next, apart from what is said of it; it may be left out if much is said. -/
def contentAt : (fuel : Nat) → Setting → (mayLack : Bool) → Remainder → Step Node
  | 0, _, _, _ => .error .malformed
  | fuel + 1, setting, mayLack, remainder =>
    let list (step : Step (List Node)) : Step Node :=
      step.map fun (items, behind) => (.sequence items, behind)
    match remainder.tokens, setting with
    -- The dashes of a list may stand in the column of the keys.
    | .dash :: _, .underKey => list (blockItems fuel true remainder)
    | .plain cs :: tokens, _ => .ok (.plain cs, remainder.at tokens)
    | .quoted cs :: tokens, _ => .ok (.quoted cs, remainder.at tokens)
    | .listOpen :: tokens, _ =>
      (flowEntries fuel .listClose true (remainder.at tokens)).map fun (entries, behind) =>
        -- A pair inside a list is a mapping of its own.
        let item : Node × Option Node → Node
          | (node, none) => node
          | (key, some node) => .mapping [(key, node)]
        (.sequence (entries.map item), behind)
    | .mappingOpen :: tokens, _ =>
      (flowEntries fuel .mappingClose true (remainder.at tokens)).map fun (entries, behind) =>
        (.mapping (entries.map fun (key, node) => (key, node.getD .empty)), behind)
    | .listIndent :: tokens, .block | .listIndent :: tokens, .underKey =>
      list (blockItems fuel false (remainder.at tokens))
    | .mappingIndent :: tokens, .block | .mappingIndent :: tokens, .underKey =>
      (blockPairs fuel (remainder.at tokens)).map fun (pairs, behind) => (.mapping pairs, behind)
    | .broken error :: _, _ => .error error
    | tokens, _ => if mayLack then .ok (.empty, remainder) else refuse tokens

/-- The node that comes next, unless one of some tokens shows that it was left out. -/
def nodeUnless (ends : List Token) : (fuel : Nat) → Setting → Remainder → Step Node
  | 0, _, _ => .error .malformed
  | fuel + 1, setting, remainder =>
    if nextIs ends remainder.tokens then .ok (.empty, remainder)
    else nodeAt fuel setting remainder

/-- What stands under a key, from its colon on; a key without one stands alone. -/
def nodeBehindColon (ends : List Token) : (fuel : Nat) → Setting → Remainder → Step Node
  | 0, _, _ => .error .malformed
  | fuel + 1, setting, remainder =>
    match remainder.tokens with
    | .colon :: tokens => nodeUnless ends fuel setting (remainder.at tokens)
    | .broken error :: _ => .error error
    | _ => .ok (.empty, remainder)

/-- The entries of a list in a column; one in the column of keys ends where its dashes end. -/
def blockItems : (fuel : Nat) → (amongKeys : Bool) → Remainder → Step (List Node)
  | 0, _, _ => .error .malformed
  | fuel + 1, amongKeys, remainder =>
    match remainder.tokens with
    | .dash :: tokens =>
      let ends := if amongKeys then [.dash, .key, .colon, .dedent] else [.dash, .dedent]
      match nodeUnless ends fuel .block (remainder.at tokens) with
      | .error error => .error error
      | .ok (item, behind) =>
        (blockItems fuel amongKeys behind).map fun (items, behind) => (item :: items, behind)
    | .broken error :: _ => .error error
    | tokens =>
      if amongKeys then .ok ([], remainder)
      else
        match tokens with
        | .dedent :: tokens => .ok ([], remainder.at tokens)
        | _ => .error .malformed

/-- The entries of a mapping whose keys stand in a column. -/
def blockPairs : (fuel : Nat) → Remainder → Step (List (Node × Node))
  | 0, _ => .error .malformed
  | fuel + 1, remainder =>
    let ends := [.key, .colon, .dedent]
    match remainder.tokens with
    | .dedent :: tokens => .ok ([], remainder.at tokens)
    | .key :: tokens =>
      match nodeUnless ends fuel .underKey (remainder.at tokens) with
      | .error error => .error error
      | .ok (key, behind) =>
        match nodeBehindColon ends fuel .underKey behind with
        | .error error => .error error
        | .ok (node, behind) =>
          (blockPairs fuel behind).map fun (pairs, behind) => ((key, node) :: pairs, behind)
    | tokens => refuse tokens

/-- The entries up to a closing bracket; a key and what stands under it are one entry. -/
def flowEntries : (fuel : Nat) → (close : Token) → (first : Bool) → Remainder →
    Step (List (Node × Option Node))
  | 0, _, _, _ => .error .malformed
  | fuel + 1, close, first, remainder =>
    match remainder.tokens with
    | .comma :: tokens =>
      -- A comma stands between two entries, or behind the last one.
      if first then .error .malformed
      else if nextIs [close] tokens then .ok ([], remainder.at tokens.tail)
      else flowRest fuel close (remainder.at tokens)
    | tokens =>
      if nextIs [close] tokens then .ok ([], remainder.at tokens.tail)
      else if first then flowRest fuel close remainder
      else refuse tokens

/-- The next entry and the further ones up to a closing bracket. -/
def flowRest : (fuel : Nat) → (close : Token) → Remainder → Step (List (Node × Option Node))
  | 0, _, _ => .error .malformed
  | fuel + 1, close, remainder =>
    let entry : Step (Node × Option Node) :=
      match remainder.tokens with
      | .key :: tokens =>
        match nodeUnless [.colon, .comma, close] fuel .flow (remainder.at tokens) with
        | .error error => .error error
        | .ok (key, behind) =>
          (nodeBehindColon [.comma, close] fuel .flow behind).map fun (node, behind) =>
            ((key, some node), behind)
      | _ => (nodeAt fuel .flow remainder).map fun (node, behind) => ((node, none), behind)
    match entry with
    | .error error => .error error
    | .ok (entry, behind) =>
      (flowEntries fuel close false behind).map fun (entries, behind) => (entry :: entries, behind)

end

/-- The node of the document that comes next. -/
def rootAt (fuel : Nat) (remainder : Remainder) : Step Node :=
  match remainder.tokens with
  | .documentOpen :: tokens =>
    -- A document that was opened may be empty.
    nodeUnless [.documentOpen, .documentClose, .ended] fuel .block (remainder.at tokens)
  | _ => nodeUnless [.ended] fuel .block remainder

/-- The node of tokens that hold at most one document. -/
def Node.ofTokens (tokens : List Token) : Except Error Node :=
  -- At most four steps are taken for a token.
  match rootAt (4 * tokens.length + 4) ⟨tokens, []⟩ with
  | .error error => .error error
  | .ok (node, behind) =>
    match behind.tokens.dropWhile (· == .documentClose) with
    | [.ended] => .ok node
    | tokens => refuse tokens

/-- Characters that may stand in a text. -/
def isAllowed (c : Char) : Bool :=
  let code := c.toNat
  code == 0x09 || code == 0x0A || code == 0x0D || (0x20 ≤ code && code ≤ 0x7E) || code == 0x85 ||
    (0xA0 ≤ code && code ≤ 0xD7FF) || (0xE000 ≤ code && code ≤ 0xFFFD) || 0x10000 ≤ code

/-- A text in which the ASCII and the next-line ends of lines are line feeds. -/
def unifyBreaks : List Char → List Char
  | [] => []
  | '\r' :: '\n' :: rest => '\n' :: unifyBreaks rest
  | c :: rest => (if c == '\r' || c == '\u0085' then '\n' else c) :: unifyBreaks rest

/-- The node of a text. -/
def Node.ofText (text : String) : Except Error Node :=
  let cs := text.toList
  if !cs.all isAllowed then .error .malformed
  else
    -- A byte order mark may stand in front of the text.
    let body := if cs.head? == some '\uFEFF' then cs.drop 1 else cs
    Node.ofTokens (tokensOf (unifyBreaks body))

/-- A reader of YAML texts: the value of a text, or why it has none. -/
abbrev Reader := String → Except Error Value

/--
The reader that the program comes with, for the part of YAML that its files are written in.

It takes block scalars, merged keys, directives and tags for malformed, and dates for texts.
What holds of the program whatever its files are written in is said of every reader.
-/
def read : Reader := fun text =>
  match Node.ofText text with
  | .error error => .error error
  | .ok node =>
    match node.firstFault? with
    | some error => .error error
    | none => node.value

end BooleanSearch.Yaml
