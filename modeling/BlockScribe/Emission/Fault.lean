/-! # Blocks that cannot be written

Following the links between blocks fails in three ways. When several apply at one place, the
first of this list is reported: the place is nested too deeply, the block is not there, or the
block is already being written.
-/

namespace BlockScribe

/-- The number of nested inputs and bodies that are written; the next one is refused. -/
def maxNesting : Nat := 256

/-- Why a block cannot be written, with its id. -/
inductive BlockFault where
  | tooDeep (id : String)
  | missing (id : String)
  | cyclic (id : String)
deriving DecidableEq, Repr

/-- The wording of a fault. -/
def BlockFault.message : BlockFault → String
  | tooDeep id => "Block nesting deeper than " ++ toString maxNesting ++ " at '" ++ id ++ "'."
  | missing id => "Missing block '" ++ id ++ "'."
  | cyclic id => "Cyclic block reference through '" ++ id ++ "'."

end BlockScribe
