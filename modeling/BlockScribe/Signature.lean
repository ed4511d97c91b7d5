import BlockScribe.Dict

/-! # Signatures

A signature says how a block of an opcode is written: which slots are its arguments, in order,
and whether it is a plain call, a construct with bodies, or a hat that starts a script. The
table of signatures may be extended by the blocks of an extension, under their names with the
extension's id in front; a later entry of the same name replaces an earlier one.
-/

namespace BlockScribe

/-- The shape of a block. -/
inductive Category where
  | plain
  /-- A construct with one body for each of the sockets. -/
  | branch (sockets : List String)
  | hat
deriving DecidableEq, Repr

/-- How the blocks of an opcode are written. -/
structure Signature where
  slots : List String
  category : Category
deriving DecidableEq, Repr

/-- Whether blocks with this signature start scripts. -/
def Signature.isHat (s : Signature) : Bool := s.category == .hat

/-- A block that an extension announces. -/
structure ExtensionBlock where
  opcode : String
  argumentNames : List String
  blockType : String
deriving DecidableEq, Repr

/-- Blocks of the types "event" and "hat" start scripts; all other blocks are plain calls with
one slot for each argument. -/
def ExtensionBlock.signature (block : ExtensionBlock) : Signature where
  slots := block.argumentNames
  category := if block.blockType = "event" ∨ block.blockType = "hat" then .hat else .plain

/-- The opcode under which a project knows an extension's block. -/
def ExtensionBlock.qualified (extension : String) (block : ExtensionBlock) : String :=
  extension ++ "_" ++ block.opcode

/-- The signatures of the known opcodes. -/
abbrev SignatureTable := Dict String Signature

/-- Adds the blocks of an extension. -/
def SignatureTable.extendWith (table : SignatureTable) (extension : String)
    (blocks : List ExtensionBlock) : SignatureTable :=
  blocks.foldl (fun t b => t.insert (b.qualified extension) b.signature) table

/-- Menus whose opcodes do not say so. -/
def plainMenus : List String := ["looks_costume", "looks_backdrops", "sensing_keyoptions", "note"]

/-- Whether `part` stands somewhere in `whole`. -/
def containsChars (part : List Char) : List Char → Bool
  | [] => part.isEmpty
  | c :: rest => part.isPrefixOf (c :: rest) || containsChars part rest

/-- Whether a block is a drop-down menu, which stands for its selected value. The ending "menu"
alone counts only on a shadow block, since an extension's opcode may end so, too. -/
def isMenu (opcode : String) (shadow : Bool) : Bool :=
  containsChars "_menu_".toList opcode.toList || plainMenus.contains opcode ||
    (shadow && "menu".toList.isSuffixOf opcode.toList)

end BlockScribe
