import BooleanSearch.Number.Binary64

/-! Structured values: queries, answers, settings and documents are all made of them. -/

namespace BooleanSearch

open Number

/-- A value of a kind without a place of its own here, such as a date or a value that stands within
itself: what can be told of it. -/
structure Foreign where
  /-- The name of its kind. -/
  kind : String
  /-- What it has in common with those values of its kind that are the same key. -/
  identity : String
  /-- How it is shown on its own. -/
  shown : String
  /-- How it is shown as part of a larger value. -/
  inspected : String
  /-- Whether it counts as nothing, as binary data without any bytes do. -/
  isNothing : Bool
deriving Repr, DecidableEq

/-- A value without parts; the keys of mappings are such values. -/
inductive Scalar
  | null
  | bool (truth : Bool)
  | int (number : Int)
  | float (number : Binary64)
  | text (content : String)
  | foreign (value : Foreign)
deriving Repr, DecidableEq

/-- A value: a scalar, a list, or a mapping whose entries are in order. -/
inductive Value
  | scalar (content : Scalar)
  | list (items : List Value)
  | mapping (entries : List (Scalar × Value))
deriving Repr

/-- The entries of a mapping, in order. -/
abbrev Entries := List (Scalar × Value)

namespace Value

/-- The absent value. -/
@[match_pattern] abbrev null : Value := .scalar .null

/-- A truth value. -/
@[match_pattern] abbrev bool (truth : Bool) : Value := .scalar (.bool truth)

/-- An integer. -/
@[match_pattern] abbrev int (number : Int) : Value := .scalar (.int number)

/-- A binary64 number. -/
@[match_pattern] abbrev float (number : Binary64) : Value := .scalar (.float number)

/-- A text. -/
@[match_pattern] abbrev text (content : String) : Value := .scalar (.text content)

/-- A mapping whose keys are texts. -/
def object (members : List (String × Value)) : Value :=
  .mapping (members.map fun (key, value) => (.text key, value))

end Value

/-- What decides whether two scalars are one key. -/
inductive KeyIdentity
  | null
  | number (quanta : Int)
  | infinite (negative : Bool)
  | nan
  | text (content : String)
  | foreign (kind identity : String)
deriving Repr, DecidableEq

/-- Keys are told apart by value: a truth value, an integer and a float of one size are one key. -/
def Scalar.identity : Scalar → KeyIdentity
  | .null => .null
  | .bool truth => .number (if truth then Binary64.unit else 0)
  | .int number => .number (number * Binary64.unit)
  | .float (.finite negative quanta) => .number (Binary64.signed negative quanta)
  | .float (.infinite negative) => .infinite negative
  | .float .nan => .nan
  | .text content => .text content
  | .foreign value => .foreign value.kind value.identity

/-- Whether two scalars are one key. -/
def Scalar.sameKey (a b : Scalar) : Bool :=
  match a, b with
  -- Two texts are compared as they are.
  | .text a, .text b => a == b
  | a, b => a.identity == b.identity

namespace Entries

/-- The value under a key. -/
def get? (key : Scalar) : Entries → Option Value
  | [] => none
  | (name, value) :: rest => if name.sameKey key then some value else get? key rest

/-- The entries with a value put under a key: in the key's place, or behind all others. -/
def put (key : Scalar) (value : Value) : Entries → Entries
  | [] => [(key, value)]
  | (name, old) :: rest =>
    if name.sameKey key then (name, value) :: rest else (name, old) :: put key value rest

/-- The entries that remain when later values replace earlier ones under the same key. -/
def ofPairs (pairs : List (Scalar × Value)) : Entries :=
  pairs.foldl (fun entries (key, value) => put key value entries) []

/-- The value under a text. -/
def getText? (key : String) (entries : Entries) : Option Value :=
  get? (.text key) entries

end Entries

/-- The names under which answers speak of the kinds of scalars. -/
def Scalar.kindName : Scalar → String
  | .null => "NoneType"
  | .bool _ => "bool"
  | .int _ => "int"
  | .float _ => "float"
  | .text _ => "str"
  | .foreign value => value.kind

/-- The names under which answers speak of the kinds of values. -/
def Value.kindName : Value → String
  | .scalar content => content.kindName
  | .list _ => "list"
  | .mapping _ => "dict"

/-- Scalars that count as nothing: absence, falsehood, the zeros and the empty text. -/
def Scalar.isNothing : Scalar → Bool
  | .null => true
  | .bool truth => !truth
  | .int number => number == 0
  | .float (.finite _ quanta) => quanta == 0
  | .float _ => false
  | .text content => content == ""
  | .foreign value => value.isNothing

/-- Values that count as nothing: such scalars, and lists and mappings without members. -/
def Value.isNothing : Value → Bool
  | .scalar content => content.isNothing
  | .list items => items.isEmpty
  | .mapping entries => entries.isEmpty

end BooleanSearch
