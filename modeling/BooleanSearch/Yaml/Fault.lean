import BooleanSearch.Yaml.Node

/-! Faults of nodes, in the order in which they are found: outer collections come first. -/

namespace BooleanSearch.Yaml

/-- The error that a calculation ends with. -/
def errorOf? {α : Type} : Except Error α → Option Error
  | .error error => some error
  | .ok _ => none

/-- What is wrong with a node apart from its parts. -/
def Node.fault? : Node → Option Error
  | .plain cs => errorOf? (plainScalar cs)
  | .typed => some .malformed
  | .quoted _ | .sequence _ | .mapping _ => none

/-- Whether a key asks for the entries of another mapping. -/
def Node.isMerge : Node → Bool
  | .plain cs => String.ofList cs == mergeWord
  | _ => false

/-- What is wrong with the parts of a node, apart from the parts of those. -/
def Node.partFault? : Node → Option Error
  | .sequence items => items.findSome? Node.fault?
  | .mapping pairs =>
    -- Merges are looked for before any key is.
    if pairs.any (·.1.isMerge) then some .malformed
    else pairs.findSome? fun (key, node) => (errorOf? key.key).or node.fault?
  | .plain _ | .quoted _ | .typed => none

/-- Layers laid side by side, the outermost ones first. -/
def besides : List (List Node) → List (List Node) → List (List Node)
  | [], layers => layers
  | layers, [] => layers
  | a :: restA, b :: restB => (a ++ b) :: besides restA restB

mutual

/-- The collections in a node by how deep they lie in it, in order. -/
def Node.layers : Node → List (List Node)
  | .sequence items => [.sequence items] :: itemLayers items
  | .mapping pairs => [.mapping pairs] :: pairLayers pairs
  | .plain _ | .quoted _ | .typed => []

/-- The layers of the items of a list. -/
def itemLayers : List Node → List (List Node)
  | [] => []
  | item :: rest => besides item.layers (itemLayers rest)

/-- The layers of what stands under the keys of a mapping. -/
def pairLayers : List (Node × Node) → List (List Node)
  | [] => []
  | (_, node) :: rest => besides node.layers (pairLayers rest)

end

/-- The first fault in a node: its own one, or else that of the outermost collection with one. -/
def Node.firstFault? (node : Node) : Option Error :=
  node.fault?.or (node.layers.flatten.findSome? Node.partFault?)

end BooleanSearch.Yaml
