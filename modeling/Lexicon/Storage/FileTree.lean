import Lexicon.Storage.Disk

/-!
# Trees of files

Directories and files below a root, each under the names that lead to it, and the walk along a path.
A name in front of a slash has to be that of a directory. The root is its own parent.
-/

namespace Lexicon.Storage

/-- What a name stands for. -/
inductive Node where
  | directory
  | file (text : String)
  deriving DecidableEq

/-- The directories and files below a root. -/
structure FileTree where
  nodes : List (List String × Node)
  deriving DecidableEq

/-- Where a walk ends: at a directory, or at a name in a directory, whether or not the name is in
use. -/
inductive Place where
  | directory (names : List String)
  | entry (directory : List String) (name : String) (slashAfter : Bool)
  deriving DecidableEq

namespace FileTree

def empty : FileTree := ⟨[]⟩

/-- What the names lead to. No name leads to the root. -/
def find? (tree : FileTree) (names : List String) : Option Node :=
  if names.isEmpty then some .directory else tree.nodes.lookup names

/-- Puts a node in the place of the one of the same names, or after all others. -/
def putNode (names : List String) (node : Node) :
    List (List String × Node) → List (List String × Node)
  | [] => [(names, node)]
  | (others, old) :: nodes =>
    if others = names then (names, node) :: nodes else (others, old) :: putNode names node nodes

def put (tree : FileTree) (names : List String) (node : Node) : FileTree :=
  ⟨putNode names node tree.nodes⟩

/-! ### Walking -/

/-- Longest name, in bytes. -/
def maxName : Nat := 255

/-- Longest path, in bytes. -/
def maxPath : Nat := 4095

/-- One step of a walk through directories. -/
def enter (tree : FileTree) (here : List String) (piece : String) :
    Except FileError (List String) :=
  if piece.isEmpty || piece = "." then .ok here
  else if piece = ".." then .ok here.dropLast
  else if maxName < piece.utf8ByteSize then .error .nameTooLong
  else
    match tree.find? (here ++ [piece]) with
    | none => .error .notFound
    | some .directory => .ok (here ++ [piece])
    | some (.file _) => .error .notADirectory

/-- A path that the system takes at all: no empty path, none that is too long, no zero. -/
def acceptable (path : Path) : Except FileError Unit :=
  if path.text.toList.contains '\x00' then .error .nulByte
  else if path.text.isEmpty then .error .notFound
  else if maxPath < path.text.utf8ByteSize then .error .nameTooLong
  else .ok ()

/-- The place to which pieces lead that are listed backwards and start with a piece that is not
empty: through all but the last to a directory, and to the last in it. -/
def arrive (tree : FileTree) (slashAfter : Bool) : List String → Except FileError Place
  | [] => .ok (.directory [])
  | last :: before => do
    let here ← before.reverse.foldlM tree.enter []
    if last = "." then .ok (.directory here)
    else if last = ".." then .ok (.directory here.dropLast)
    else .ok (.entry here last slashAfter)

/-- The place to which a path leads. -/
def locate (tree : FileTree) (path : Path) : Except FileError Place := do
  acceptable path
  let backwards := path.pieces.reverse
  let solid := backwards.dropWhile (·.isEmpty)
  tree.arrive (solid.length < backwards.length) solid

/-! ### Changing -/

/-- The tree with a directory more. -/
def withDirectory (tree : FileTree) (path : Path) : Except FileError FileTree := do
  match ← tree.locate path with
  | .directory _ => .error .alreadyExists
  | .entry here name _ =>
    if maxName < name.utf8ByteSize then .error .nameTooLong
    else if (tree.find? (here ++ [name])).isSome then .error .alreadyExists
    else .ok (tree.put (here ++ [name]) .directory)

/-- The tree with a text in the file of a path. -/
def withFile (tree : FileTree) (path : Path) (text : String) : Except FileError FileTree := do
  match ← tree.locate path with
  | .directory _ => .error .isADirectory
  | .entry here name slashAfter =>
    if slashAfter then .error .isADirectory
    else if maxName < name.utf8ByteSize then .error .nameTooLong
    else if tree.find? (here ++ [name]) = some .directory then .error .isADirectory
    else .ok (tree.put (here ++ [name]) (.file text))

/-- The path leads to a directory. -/
def hasDirectory (tree : FileTree) (path : Path) : Bool :=
  match tree.locate path with
  | .ok (.directory _) => true
  | .ok (.entry here name _) => tree.find? (here ++ [name]) = some .directory
  | .error _ => false

/-- Keeps a changed tree; a step that fails changes nothing. -/
def attempt (change : FileTree → Except FileError FileTree) :
    StateM FileTree (Except FileError Unit) := fun tree =>
  match change tree with
  | .ok changed => (.ok (), changed)
  | .error cause => (.error cause, tree)

/-- A tree of files, used as a disk. -/
def disk : Disk (StateM FileTree) where
  makeDirectory path := attempt (·.withDirectory path)
  isDirectory path := fun tree => (tree.hasDirectory path, tree)
  writeFile path text := attempt (·.withFile path text)

end FileTree

end Lexicon.Storage
