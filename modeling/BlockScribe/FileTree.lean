import BlockScribe.Dict
import BlockScribe.Files

/-! # File trees

A file system as a value: what stands at which place, where a place is the list of names on the
way from the root. A path is followed piece by piece, and every piece needs a directory to start
from; two dots lead to the parent of the place reached so far, and the root is its own parent.

`FileTree.files` gives a run all that it asks for, with a tree as the state. It is the file
system that statements about a run speak of.
-/

namespace BlockScribe

/-- What stands at a place. -/
inductive FileTree.Node where
  | file (content : ByteArray)
  | directory

/-- A file system. -/
structure FileTree where
  /-- What stands at each place, apart from the root. -/
  nodes : Dict (List String) FileTree.Node
  /-- Where paths start that do not start at the root. -/
  current : List String
  /-- Where the next directory for a while is made. -/
  scratch : List String

namespace FileTree

/-- What stands at a place; at the root, there is a directory. -/
def node? (tree : FileTree) (place : List String) : Option Node :=
  if place.isEmpty then some .directory else tree.nodes.get? place

/-- Puts something at a place. -/
def put (tree : FileTree) (place : List String) (node : Node) : FileTree :=
  { tree with nodes := tree.nodes.insert place node }

/-- What was put at a place stands there, and all else stands as it did. -/
theorem node?_put (tree : FileTree) {place : List String} (other : List String) (node : Node)
    (h : place ≠ []) :
    (tree.put place node).node? other = if other = place then some node else tree.node? other := by
  unfold node? put
  by_cases ho : other = []
  · simp [ho, Ne.symm h]
  · simp [ho, Dict.get?_insert]

/-- The longest name of a file, in bytes. -/
def maxName : Nat := 255

/-- The longest path, in bytes. -/
def maxPath : Nat := 4095

/-- One step from a directory. Names have a limit. -/
def step (place : List String) (piece : List Char) : Except FileFault (List String) :=
  match Path.Component.ofPiece? piece with
  | some (.name text) =>
    if maxName < text.utf8ByteSize then .error .refused else .ok (place ++ [text])
  | some .up => .ok place.dropLast
  | _ => .ok place

/-- Whether one can go on from a place. -/
def enter (tree : FileTree) (place : List String) : Except FileFault Unit :=
  match tree.node? place with
  | some .directory => .ok ()
  | some (.file _) => .error .refused
  | none => .error .missing

/-- Follows pieces from a place. Nothing needs to stand at the place where the last piece
leads. -/
def follow (tree : FileTree) (place : List String) :
    List (List Char) → Except FileFault (List String)
  | [] => .ok place
  | piece :: rest => do
    tree.enter place
    let next ← step place piece
    follow tree next rest

/-- Whether a text can be a path at all: it says something, is not too long, and has no zero
character. -/
def checkPath (path : String) : Except FileFault Unit :=
  if path.isEmpty then .error .missing
  else if maxPath < path.utf8ByteSize || path.toList.contains '\x00' then .error .refused
  else .ok ()

/-- Where a path starts, and its pieces. -/
def start (tree : FileTree) (path : String) : List String × List (List Char) :=
  match path.toList with
  | '/' :: rest => ([], Path.pieces rest)
  | cs => (tree.current, Path.pieces cs)

/-- The place that a path leads to. -/
def place (tree : FileTree) (path : String) : Except FileFault (List String) := do
  checkPath path
  let (first, pieces) := tree.start path
  tree.follow first pieces

/-- What a path leads to. -/
def lookUp (tree : FileTree) (path : String) : Except FileFault Node := do
  let place ← tree.place path
  match tree.node? place with
  | some node => .ok node
  | none => .error .missing

/-- The bytes of a file; a directory has none. -/
def read (tree : FileTree) (path : String) : Except FileFault ByteArray :=
  match tree.lookUp path with
  | .ok (.file content) => .ok content
  | .ok .directory => .error .refused
  | .error fault => .error fault

/-- Whether a path leads to a file. -/
def isFile (tree : FileTree) (path : String) : Bool :=
  match tree.lookUp path with
  | .ok (.file _) => true
  | _ => false

/-- Whether a path leads to a directory. -/
def isDirectory (tree : FileTree) (path : String) : Bool :=
  match tree.lookUp path with
  | .ok .directory => true
  | _ => false

/-- The pieces of a path without the slashes at its end. -/
def dropSlashes (pieces : List (List Char)) : List (List Char) :=
  (pieces.reverse.dropWhile List.isEmpty).reverse

/-- The place of a file to write. It must be possible to come there. Then a path that ends in a
slash or in dots names no file, and a directory is none. -/
def filePlace (tree : FileTree) (path : String) : Except FileFault (List String) := do
  checkPath path
  let (first, pieces) := tree.start path
  let place ← tree.follow first (dropSlashes pieces)
  match pieces.getLast?.bind Path.Component.ofPiece?, tree.node? place with
  | some (.name _), some .directory => .error .refused
  | some (.name _), _ => .ok place
  | _, _ => .error .refused

/-- Makes the bytes the content of a file. -/
def write (tree : FileTree) (path : String) (content : ByteArray) : Except FileFault FileTree := do
  let place ← tree.filePlace path
  return tree.put place (.file content)

/-- Makes a directory where nothing stands yet. Slashes at the end do not count. -/
def createDirectory (tree : FileTree) (path : String) : Except FileFault FileTree := do
  checkPath path
  let (first, pieces) := tree.start path
  let place ← tree.follow first (dropSlashes pieces)
  match tree.node? place with
  | some _ => .error .refused
  | none => .ok (tree.put place .directory)

/-- The path from the root to a place. -/
def pathOf (place : List String) : String := "/" ++ "/".intercalate place

/-- The path from the root without detours to what a path leads to. -/
def canonical (tree : FileTree) (path : String) : Except FileFault String := do
  let place ← tree.place path
  match tree.node? place with
  | some _ => .ok (pathOf place)
  | none => .error .missing

/-- The files and directories at and below a place are gone. -/
def removeTree (tree : FileTree) (place : List String) : FileTree :=
  { tree with nodes := tree.nodes.filter fun p _ => !place.isPrefixOf p }

/-- The tree after a change, or as it was if the change is refused. -/
def update (change : FileTree → Except FileFault FileTree) :
    StateM FileTree (Except FileFault Unit) := fun tree =>
  match change tree with
  | .ok after => (.ok (), after)
  | .error fault => (.error fault, tree)

/-- The file system with a tree as the state. -/
def files : Files (StateM FileTree) where
  isFile path := return (← get).isFile path
  isDirectory path := return (← get).isDirectory path
  read path := return (← get).read path
  write path bytes := update fun tree => tree.write path bytes
  createDirectory path := update fun tree => tree.createDirectory path
  canonical path := return (← get).canonical path
  scratchDirectory := fun tree =>
    (.ok (pathOf tree.scratch), tree.put tree.scratch .directory)
  removeTree path := modify fun tree =>
    match tree.place path with
    | .ok place => tree.removeTree place
    | .error _ => tree

end FileTree

end BlockScribe
