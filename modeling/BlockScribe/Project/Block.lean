import BlockScribe.Error
import BlockScribe.Json.Reader

/-! # Blocks

A block has an opcode, slots that hold inputs or fields, and a link to the next block of its
script. An input is a literal or a link to another block. Procedures carry their signature in a
mutation, whose argument lists are JSON documents of their own.
-/

namespace BlockScribe

/-- The kinds of literals. -/
inductive LiteralKind where
  | number
  | positiveNumber
  | wholeNumber
  | integer
  | angle
  | color
  | text
  | broadcast
  | variableName
  | listName
  | other (code : Int)
deriving DecidableEq, Repr

namespace LiteralKind

/-- The kind with a given code. -/
def ofCode (code : Int) : LiteralKind :=
  if code = 4 then number
  else if code = 5 then positiveNumber
  else if code = 6 then wholeNumber
  else if code = 7 then integer
  else if code = 8 then angle
  else if code = 9 then color
  else if code = 10 then text
  else if code = 11 then broadcast
  else if code = 12 then variableName
  else if code = 13 then listName
  else other code

/-- The code of a kind. -/
def code : LiteralKind → Int
  | number => 4
  | positiveNumber => 5
  | wholeNumber => 6
  | integer => 7
  | angle => 8
  | color => 9
  | text => 10
  | broadcast => 11
  | variableName => 12
  | listName => 13
  | other code => code

/-- Whether literals of this kind are numbers. -/
def isNumeric : LiteralKind → Bool
  | number => true
  | positiveNumber => true
  | wholeNumber => true
  | integer => true
  | angle => true
  | _ => false

/-- Every code is the code of its kind. -/
theorem code_ofCode (c : Int) : (ofCode c).code = c := by
  simp only [ofCode]
  repeat' split
  all_goals simp_all [code]

end LiteralKind

/-- A literal: its text, and the id of the variable or list that it names, if it does. -/
structure Literal where
  kind : LiteralKind
  value : String
  id : Option String
deriving DecidableEq, Repr

/-- What stands in an input slot. -/
inductive Input where
  | literal (content : Literal)
  | block (id : String)
deriving DecidableEq, Repr

/-- What stands in a field slot: its text, and the id that goes with it. -/
structure Field where
  value : String
  id : Option String
deriving DecidableEq, Repr

/-- The signature that a procedure's prototype or call carries. The argument lists are kept as
they are written. -/
structure Mutation where
  proccode : Option String
  argumentIds : Option String
  argumentNames : Option String
  warp : Bool
deriving DecidableEq, Repr

/-- A block of a project. -/
structure Block where
  id : String
  opcode : String
  next : Option String
  inputs : Dict String Input
  fields : Dict String Field
  shadow : Bool
  topLevel : Bool
  mutation : Option Mutation

namespace Block

/-- The block that an input slot links to. -/
def inputBlock? (block : Block) (slot : String) : Option String :=
  match block.inputs.get? slot with
  | some (.block id) => some id
  | _ => none

/-- The text of a field. -/
def fieldValue? (block : Block) (slot : String) : Option String :=
  (block.fields.get? slot).map Field.value

/-- The first of the fields. -/
def firstField? (block : Block) : Option Field := block.fields.values.head?

end Block

namespace Mutation

/-- Reads an argument list. -/
def readArguments (key : String) : Option String → Except Error (List String)
  | none => failWith (.missingArguments key)
  | some raw =>
    match Json.parseTexts raw with
    | .ok items => .ok items
    | .error fault => .error ⟨[.argumentList key raw], .json fault⟩

/-- The ids of the arguments. -/
def readArgumentIds (m : Mutation) : Except Error (List String) :=
  readArguments "argumentids" m.argumentIds

/-- The names of the arguments. -/
def readArgumentNames (m : Mutation) : Except Error (List String) :=
  readArguments "argumentnames" m.argumentNames

end Mutation

end BlockScribe
