/-! # Paths

A path is a text in which slashes divide pieces. What a path means is told by its components: an
empty piece and a dot are inert and have no component, apart from a dot at the very start of a
path that does not begin at the root.

* `join` puts one path behind another; a path from the root stands alone.
* `parent` cuts off the last component, with the inert pieces around it, and leaves what stands
  in front as it was written.
* `stem?` and `extension?` divide a file name at its last dot; a dot in front does not divide.
* `beside` names a neighbour of a path.
-/

namespace BlockScribe.Path

/-- The pieces of a text between its slashes; there is always one. -/
def pieces : List Char → List (List Char)
  | [] => [[]]
  | c :: rest =>
    if c = '/' then [] :: pieces rest
    else match pieces rest with
      | [] => [[c]]
      | piece :: others => (c :: piece) :: others

/-- Puts slashes between pieces. -/
def unite (parts : List (List Char)) : List Char := ['/'].intercalate parts

/-- There is always a piece. -/
theorem pieces_ne_nil (cs : List Char) : pieces cs ≠ [] := by
  cases cs with
  | nil => simp [pieces]
  | cons c rest =>
    unfold pieces
    split
    · simp
    · split <;> simp

/-- A step on the way that a path describes. -/
inductive Component where
  | root
  | here
  | up
  | name (text : String)
deriving DecidableEq, Repr

/-- What a piece inside a path stands for, if it is not inert. -/
def Component.ofPiece? : List Char → Option Component
  | [] => none
  | ['.'] => none
  | ['.', '.'] => some .up
  | piece => some (.name (String.ofList piece))

/-- What the first piece of a path that does not begin at the root stands for. -/
def Component.ofFirst? : List Char → Option Component
  | ['.'] => some .here
  | piece => ofPiece? piece

/-- Whether a path begins at the root. -/
def isAbsolute (path : String) : Bool := path.toList.head? == some '/'

/-- The components of a path, in order. -/
def components (path : String) : List Component :=
  match path.toList with
  | '/' :: rest => .root :: (pieces rest).filterMap Component.ofPiece?
  | cs =>
    match pieces cs with
    | [] => []
    | first :: rest => (Component.ofFirst? first).toList ++ rest.filterMap Component.ofPiece?

/-- The path `path` as seen from `base`. -/
def join (base path : String) : String :=
  if isAbsolute path then path
  else if base.isEmpty || base.toList.getLast? == some '/' then base ++ path
  else base ++ "/" ++ path

/-! ## Names of files -/

/-- The name at the end of a path, if it ends in one. -/
def fileName? (path : String) : Option String :=
  match (components path).getLast? with
  | some (.name text) => some text
  | _ => none

/-- What stands before and behind the last dot of a name, if there is one. -/
def splitAtLastDot (name : List Char) : Option (List Char × List Char) :=
  match name.reverse.span (· != '.') with
  | (_, []) => none
  | (behind, _ :: before) => some (before.reverse, behind.reverse)

/-- Divides a name into its stem and its extension. -/
def divide (name : String) : String × Option String :=
  match splitAtLastDot name.toList with
  | none => (name, none)
  | some ([], _) => (name, none)
  | some (before, behind) => (String.ofList before, some (String.ofList behind))

/-- The file name without its extension. -/
def stem? (path : String) : Option String := (fileName? path).map fun name => (divide name).1

/-- What stands behind the last dot of the file name. -/
def extension? (path : String) : Option String := (fileName? path).bind fun name => (divide name).2

/-! ## Neighbours -/

/-- Whether a piece inside a path stands for nothing. -/
def isInert (piece : List Char) : Bool := (Component.ofPiece? piece).isNone

/-- Drops the inert pieces at the end. -/
def dropInert (parts : List (List Char)) : List (List Char) :=
  (parts.reverse.dropWhile isInert).reverse

/-- Drops the last piece that is not inert, and the inert ones around it. -/
def dropComponent (parts : List (List Char)) : List (List Char) :=
  dropInert (dropInert parts).dropLast

/-- The path without its last component. The root has nothing to drop. -/
def parent (path : String) : String :=
  match path.toList with
  | '/' :: rest => String.ofList ('/' :: unite (dropComponent (pieces rest)))
  | cs =>
    match pieces cs with
    | [] => ""
    | first :: rest =>
      if (dropInert rest).isEmpty then "" else String.ofList (unite (first :: dropComponent rest))

/-- The path of a file named `name` beside `path`, or inside of it if `path` does not end in a
name. -/
def beside (path name : String) : String :=
  if (fileName? path).isSome then join (parent path) name else join path name

/-- Where the sources of a project go by default: next to it, under its stem. -/
def defaultOutput (input : String) : String :=
  beside input ((stem? input).getD "project" ++ "_bsl")

/-- The first `count` of a path, its parent, the parent of that and so on, up to the root or the
empty path. -/
def ancestorsUpTo : (count : Nat) → (path : String) → List String
  | 0, _ => []
  | count + 1, path => if path.isEmpty then [] else path :: ancestorsUpTo count (parent path)

/-- A path, its parent, the parent of that and so on. There are as many as components. -/
def ancestors (path : String) : List String := ancestorsUpTo (components path).length path

end BlockScribe.Path
