import BooleanSearch.Yaml.Cursor
import BooleanSearch.Text.Digit

/-! Tags: what a YAML text says about the types of its nodes. -/

namespace BooleanSearch.Yaml

/-- A tag: a handle, which stands for the front of the name of a type, and the rest of the name. -/
structure Tag where
  /-- The handle with its exclamation marks; a name that is given in full has none. -/
  handle : List Char
  /-- The name behind the handle. -/
  suffix : List Char
deriving Repr, DecidableEq

/-- The name of a type, if the handle stands for something. -/
def Tag.name? (tag : Tag) : Option (List Char) :=
  if tag.handle == [] || tag.handle == ['!'] then some (tag.handle ++ tag.suffix)
  else if tag.handle == ['!', '!'] then some ("tag:yaml.org,2002:".toList ++ tag.suffix)
  else none

/-- Whether a tag says that a node is of the type that its content tells. -/
def Tag.isOpen (tag : Tag) : Bool := tag.name? == some ['!']

/-- Characters of the names of types, and the mark of their escapes. -/
def isTagCharacter (c : Char) : Bool :=
  c.isAlphanum || "-;/?:@&=+$,_.!~*'()[]%".toList.contains c

/-- Characters that end a tag. -/
def endsTag (c : Char) : Bool := c == ' ' || isBreak c

/-- The bytes of a name, in which two digits in base sixteen behind a mark are a byte. -/
def escapedBytes? : List Char → Option (List UInt8)
  | [] => some []
  | '%' :: a :: b :: rest => do
    let high ← (Text.asciiValue? a).filter (· < 16)
    let low ← (Text.asciiValue? b).filter (· < 16)
    return (high * 16 + low).toUInt8 :: (← escapedBytes? rest)
  | '%' :: _ => none
  | c :: rest => (escapedBytes? rest).map (c.toNat.toUInt8 :: ·)

/-- A name whose characters may be escaped as the bytes of their encodings. -/
def unescape? (cs : List Char) : Option (List Char) := do
  let text ← String.fromUTF8? ⟨(← escapedBytes? cs).toArray⟩
  return text.toList

/-- The name that comes next, which may not be empty, and the cursor behind it. -/
def takeName? (cursor : Cursor) : Option (List Char × Cursor) :=
  let written := cursor.rest.takeWhile isTagCharacter
  if written.isEmpty then none
  else (unescape? written).map (·, cursor.advance written.length)

/-- The handle that comes next, which ends with a mark if there is a further one in the tag. -/
def takeHandle? (cursor : Cursor) : Option (List Char × Cursor) :=
  let body := cursor.step.rest
  if (body.takeWhile (!endsTag ·)).contains '!' then
    let word := body.takeWhile isNameCharacter
    if body[word.length]? == some '!' then
      some ('!' :: word ++ ['!'], cursor.advance (word.length + 2))
    else none
  else some (['!'], cursor.step)

/-- The tag that comes next, and the cursor behind it. -/
def takeTag? (cursor : Cursor) : Option (Tag × Cursor) :=
  let taken : Option (Tag × Cursor) :=
    match cursor.rest with
    | '!' :: '<' :: _ => do
      let (name, behind) ← takeName? (cursor.advance 2)
      if behind.rest.head? == some '>' then some (⟨[], name⟩, behind.step) else none
    | _ =>
      -- A mark on its own is a name in full.
      if atWhite cursor.step.rest then some (⟨[], ['!']⟩, cursor.step)
      else do
        let (handle, behind) ← takeHandle? cursor
        let (name, behind) ← takeName? behind
        some (⟨handle, name⟩, behind)
  taken.filter fun (_, behind) => behind.rest.head?.all endsTag

end BooleanSearch.Yaml
