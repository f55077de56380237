import BooleanSearch.Text.Pieces

/-! Files: texts by path, below a working directory. -/

namespace BooleanSearch

namespace Path

/-- The pieces of a path between its slashes. -/
def pieces (path : String) : List String :=
  (Text.pieces '/' path.toList).map String.ofList

/-- Whether a piece of a path leads nowhere. -/
def isIdle (piece : String) : Bool := piece == "" || piece == "."

/-- The names on a path, without the pieces that lead nowhere. -/
def names (path : String) : List String :=
  (pieces path).filter (!isIdle ·)

/-- Names as one path. -/
def ofNames (names : List String) : String := "/".intercalate names

/-- Names with every step back taken. -/
def straight (names : List String) : List String :=
  names.foldl (fun place name => if name == ".." then place.dropLast else place ++ [name]) []

/-- Whether a path can only be that of a directory. -/
def endsOpen (path : String) : Bool :=
  match (pieces path).getLast? with
  | some piece => isIdle piece
  | none => true

/-- Whether a path starts at the root of all files, which is not below the working directory. -/
def isAbsolute (path : String) : Bool := path.toList.head? == some '/'

end Path

/-- The files below a working directory: the names that lead to each, and its text. -/
abbrev Files := List (List String × String)

namespace Files

/-- Files given by paths. -/
def ofPaths (entries : List (String × String)) : Files :=
  entries.map fun (path, text) => (Path.straight (Path.names path), text)

/-- Whether names lead to a directory: to the working directory, or to one on the way to a file. -/
def isDirectory (files : Files) (names : List String) : Bool :=
  names.isEmpty || files.any fun (place, _) => names.isPrefixOf place && names != place

/-- The place that further names lead to from a directory; two dots lead one step back. -/
def walk (files : Files) (place : List String) : List String → Option (List String)
  | [] => some place
  | name :: rest =>
    if !files.isDirectory place then none
    else if name == ".." then
      if place.isEmpty then none else walk files place.dropLast rest
    else walk files (place ++ [name]) rest

/-- The text of the file that a path leads to. -/
def text? (files : Files) (path : String) : Option String :=
  -- A directory has no text, and what is not below the working directory is not held.
  if Path.isAbsolute path || Path.endsOpen path then none
  else (files.walk [] (Path.names path)).bind fun place => List.lookup place files

end Files

end BooleanSearch
