import QueryShapes.Text.Blank

/-!
# Files

What the command meets on a disk: a file gives its bytes or a fault, and a file can be made where
no other file is in the way.

- `FileTree.read`: the bytes at a path.
- `FileTree.read_write`: what has been written is read back.
-/

namespace QueryShapes

/-- Why a file cannot be read or made. -/
inductive FileFault
  | missing | denied | taken | notDirectory | isDirectory | notText
deriving DecidableEq

def FileFault.message : FileFault → String
  | missing => "No such file or directory (os error 2)"
  | denied => "Permission denied (os error 13)"
  | taken => "File exists (os error 17)"
  | notDirectory => "Not a directory (os error 20)"
  | isDirectory => "Is a directory (os error 21)"
  | notText => "stream did not contain valid UTF-8"

/-- The bytes of a file, or why there are none. -/
abbrev FileState := Except FileFault (List UInt8)

/-! ## Paths -/

/-- The path of a name in a directory. -/
def joinPath (directory name : String) : String :=
  if directory.isEmpty ∨ directory.toList.getLast? = some '/' then directory ++ name
  else directory ++ "/" ++ name

/-- The path of the directory that a path lies in; it is empty for a mere name. -/
def parentPath (path : String) : String :=
  let rest := path.toList.reverse.dropWhile (· == '/') |>.dropWhile (· != '/')
  String.ofList (if rest.all (· == '/') then rest.take 1 else rest.drop 1).reverse

/-- The place that a name leads to from another. -/
def enter (place : List String) (name : String) : List String :=
  if name = "" ∨ name = "." then place
  else if name = ".." then place.dropLast
  else place ++ [name]

/-! ## Trees -/

/-- Files by their places, where a place is the list of names that lead to it, and the place that
paths start from. -/
structure FileTree where
  origin : List String
  files : List (List String × List UInt8)

namespace FileTree

def place (tree : FileTree) (path : String) : List String :=
  let names := (Text.splitOn (· == '/') path.toList).map String.ofList
  names.foldl enter (if path.toList.head? = some '/' then [] else tree.origin)

def isFile (tree : FileTree) (place : List String) : Bool := (tree.files.lookup place).isSome

/-- Files make the places on their way directories. -/
def isDirectory (tree : FileTree) (place : List String) : Bool :=
  place.isPrefixOf tree.origin ||
    tree.files.any fun file => place.isPrefixOf file.1 && place != file.1

/-- Something on the way to the place is a file. -/
def isBlocked (tree : FileTree) (place : List String) : Bool :=
  tree.files.any fun file => file.1.isPrefixOf place && place != file.1

def read (tree : FileTree) (path : String) : FileState :=
  let place := tree.place path
  match tree.files.lookup place with
  | some bytes => .ok bytes
  | none =>
    if tree.isDirectory place then .error .isDirectory
    else if tree.isBlocked place then .error .notDirectory
    else .error .missing

/-- Makes the directory that a path lies in, and those on the way to it. -/
def makeParent (tree : FileTree) (path : String) : Except FileFault Unit :=
  let parent := (tree.place path).dropLast
  if tree.isFile parent then .error .taken
  else if tree.isBlocked parent then .error .notDirectory
  else .ok ()

/-- Writes a file in a directory that there is. -/
def write (tree : FileTree) (path : String) (bytes : List UInt8) : Except FileFault FileTree :=
  let place := tree.place path
  if tree.isDirectory place then .error .isDirectory
  else .ok { tree with files := (place, bytes) :: tree.files.filter (·.1 ≠ place) }

theorem read_write {tree written : FileTree} {path : String} {bytes : List UInt8}
    (h : tree.write path bytes = .ok written) : written.read path = .ok bytes := by
  simp only [write] at h
  split at h
  · cases h
  · cases h
    simp [read, place]

end FileTree

end QueryShapes
