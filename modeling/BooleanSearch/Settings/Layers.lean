import BooleanSearch.Number.Integer
import BooleanSearch.Value.Basic

/-! Layers of settings: one mapping put over another, section by section. -/

namespace BooleanSearch.Settings

mutual

/-- The entries of two mappings, those of the upper one counting where both have a key. -/
def mergeEntries (base : Entries) : List (Scalar × Value) → Entries
  | [] => base
  | (key, value) :: rest =>
    mergeEntries (Entries.put key (mergeValue (Entries.get? key base) value) base) rest

/-- A value put over another one; only two mappings are merged. -/
def mergeValue (below : Option Value) : Value → Value
  | .mapping entries =>
    match below with
    | some (.mapping base) => .mapping (mergeEntries base entries)
    | _ => .mapping entries
  | other => other

end

/-- Why two values cannot be layers. -/
inductive LayerError
  /-- The lower one has no members. -/
  | lowerNoMembers (kind : String)
  /-- A member of the lower one has no members of its own. -/
  | noPair (position : Nat)
  /-- A member of the lower one has not just two members of its own. -/
  | notTwo (position size : Nat)
  /-- What should be a key is a list or a mapping. -/
  | noKey (kind : String)
  /-- The upper one is no mapping. -/
  | upperNoMapping (kind : String)
deriving Repr, DecidableEq

/-- The wording of an error about layers. -/
def LayerError.message : LayerError → String
  | .lowerNoMembers kind => "'" ++ kind ++ "' object is not iterable"
  | .noPair position =>
    "cannot convert dictionary update sequence element #" ++ Number.intText position ++
      " to a sequence"
  | .notTwo position size =>
    "dictionary update sequence element #" ++ Number.intText position ++ " has length " ++
      Number.intText size ++ "; 2 is required"
  | .noKey kind => "unhashable type: '" ++ kind ++ "'"
  | .upperNoMapping kind => "'" ++ kind ++ "' object has no attribute 'items'"

/-- The members of a value: characters of a text, items of a list, keys of a mapping. -/
def members? : Value → Option (List Value)
  | .text content => some (content.toList.map fun c => .text (String.singleton c))
  | .scalar _ => none
  | .list items => some items
  | .mapping entries => some (entries.map fun (key, _) => .scalar key)

/-- The entry that a pair stands for. -/
def pairEntry (position : Nat) (pair : Value) : Except LayerError (Scalar × Value) :=
  match members? pair with
  | none => .error (.noPair position)
  | some [.scalar key, value] => .ok (key, value)
  | some [key, _] => .error (.noKey key.kindName)
  | some members => .error (.notTwo position members.length)

/-- The entries that pairs stand for, from some position on. -/
def pairEntries (position : Nat) : List Value → Except LayerError (List (Scalar × Value))
  | [] => .ok []
  | pair :: rest =>
    match pairEntry position pair with
    | .error error => .error error
    | .ok entry => (pairEntries (position + 1) rest).map (entry :: ·)

/-- The entries of the lower layer, which may be given as pairs. -/
def lowerEntries : Value → Except LayerError Entries
  | .mapping entries => .ok entries
  | other =>
    match members? other with
    | none => .error (.lowerNoMembers other.kindName)
    | some pairs => (pairEntries 0 pairs).map Entries.ofPairs

/-- The entries of one value put over another one. -/
def mergeLayers (base upper : Value) : Except LayerError Entries := do
  let below ← lowerEntries base
  match upper with
  | .mapping entries => return mergeEntries below entries
  | other => throw (.upperNoMapping other.kindName)

end BooleanSearch.Settings
