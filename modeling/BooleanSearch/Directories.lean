import BooleanSearch.Files
import BooleanSearch.Text.Quoted

/-! Directories that are made beside the files below a working directory. -/

namespace BooleanSearch

/-- The files below a working directory, and directories that were made beside them. -/
structure Tree where
  /-- The files. -/
  files : Files
  /-- The names that lead to the directories that were made. -/
  made : List (List String)

/-- Why a directory cannot be made. -/
inductive Trouble
  | missing
  | noDirectory
  | fileThere
  | nameTooLong
deriving Repr, DecidableEq

/-- The wording of what is in the way of a directory. -/
def Trouble.message : Trouble → String
  | .missing => "[Errno 2] No such file or directory"
  | .noDirectory => "[Errno 20] Not a directory"
  | .fileThere => "[Errno 17] File exists"
  | .nameTooLong => "[Errno 36] File name too long"

/-- A path to which no directory can be made. -/
structure Obstacle where
  /-- What is in the way. -/
  trouble : Trouble
  /-- The path. -/
  path : String
deriving Repr, DecidableEq

/-- The wording of an obstacle. -/
def Obstacle.message (obstacle : Obstacle) : String :=
  obstacle.trouble.message ++ ": " ++ Text.quoted obstacle.path

namespace Tree

/-- Whether names lead to a directory. -/
def isDirectory (tree : Tree) (names : List String) : Bool :=
  tree.files.isDirectory names || tree.made.contains names

/-- Whether names lead to a file. -/
def isFile (tree : Tree) (names : List String) : Bool :=
  tree.files.any fun (place, _) => place == names

/-- The bytes that a name may have. -/
def nameLimit : Nat := 255

/-- The bytes that a path may have. -/
def pathLimit : Nat := 4095

/-- The directory that further names lead to from a directory; two dots lead one step back. -/
def enter (tree : Tree) (place : List String) : List String → Except Trouble (List String)
  | [] => if tree.isDirectory place then .ok place else .error .noDirectory
  | name :: rest =>
    if !tree.isDirectory place then .error .noDirectory
    else if name == ".." then enter tree place.dropLast rest
    else if nameLimit < name.utf8ByteSize then .error .nameTooLong
    else
      let next := place ++ [name]
      if tree.isDirectory next || tree.isFile next then enter tree next rest
      else .error .missing

/-- Makes a directory in one that is there already; it may be there itself. -/
def makeLast (tree : Tree) (above : List String) (name : String) : Except Trouble Tree :=
  if pathLimit < (Path.ofNames (above ++ [name])).utf8ByteSize then .error .nameTooLong
  else
    match tree.enter [] above with
    | .error trouble => .error trouble
    | .ok place =>
      let own := place ++ [name]
      if name == ".." || tree.isDirectory own then .ok tree
      else if nameLimit < name.utf8ByteSize then .error .nameTooLong
      else if tree.isFile own then .error .fileThere
      else .ok { tree with made := own :: tree.made }

/-- Makes a directory and those above it that are missing; the names come last one first. -/
def makeAll (tree : Tree) : List String → Except Obstacle Tree
  | [] => .ok tree
  | name :: above =>
    let path := Path.ofNames (name :: above).reverse
    match tree.makeLast above.reverse name with
    | .ok tree => .ok tree
    -- A missing directory above is made first, even if a step back follows it.
    | .error .missing =>
      match makeAll tree above with
      | .error obstacle => .error obstacle
      | .ok tree => (tree.makeLast above.reverse name).mapError (⟨·, path⟩)
    | .error trouble => .error ⟨trouble, path⟩

end Tree

end BooleanSearch
