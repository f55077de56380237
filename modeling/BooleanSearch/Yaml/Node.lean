import BooleanSearch.Yaml.Scalar

/-! Nodes: the parts of a YAML text, and the values that they stand for. -/

namespace BooleanSearch.Yaml

/-- A part of a YAML text. -/
inductive Node
  /-- A scalar without quotes, which may be a word or a number. -/
  | plain (cs : List Char)
  /-- A scalar in quotes, which is a text. -/
  | quoted (cs : List Char)
  /-- A node of a type that is not known here. -/
  | typed
  /-- A list of nodes. -/
  | sequence (items : List Node)
  /-- Keys and what stands under them, in order. -/
  | mapping (pairs : List (Node × Node))

/-- The node in which quotes do not count, so that even a text in quotes may be a number. -/
def Node.unquoted : Node → Node
  | .quoted cs => .plain cs
  | node => node

/-- The node that an omitted node stands for. -/
def Node.empty : Node := .plain []

/-- The key that a node is; only scalars are keys. -/
def Node.key : Node → Except Error Scalar
  | .plain cs => plainKey cs
  | .quoted cs => .ok (.text (String.ofList cs))
  | .typed | .sequence _ | .mapping _ => .error .malformed

mutual

/-- The value of a node; of several values under one key the last one counts. -/
def Node.value : Node → Except Error Value
  | .plain cs => (plainScalar cs).map .scalar
  | .quoted cs => .ok (.text (String.ofList cs))
  | .typed => .error .malformed
  | .sequence items => (itemValues items).map .list
  | .mapping pairs => (pairValues pairs).map fun pairs => .mapping (Entries.ofPairs pairs)

/-- The values of nodes, in order. -/
def itemValues : List Node → Except Error (List Value)
  | [] => .ok []
  | item :: rest =>
    match item.value with
    | .error error => .error error
    | .ok value =>
      match itemValues rest with
      | .error error => .error error
      | .ok values => .ok (value :: values)

/-- The keys and values of pairs of nodes, in order. -/
def pairValues : List (Node × Node) → Except Error (List (Scalar × Value))
  | [] => .ok []
  | (key, node) :: rest =>
    match key.key with
    | .error error => .error error
    | .ok key =>
      match node.value with
      | .error error => .error error
      | .ok value =>
        match pairValues rest with
        | .error error => .error error
        | .ok pairs => .ok ((key, value) :: pairs)

end

end BooleanSearch.Yaml
