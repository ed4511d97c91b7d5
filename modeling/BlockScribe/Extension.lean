import BlockScribe.Diagnostic
import BlockScribe.Project.Target
import BlockScribe.Signature.Palette

/-! # Extensions

A descriptor announces the blocks of an extension. The table of signatures for a project is the
palette, extended by the descriptors of the extensions that the project uses, in order. Where
descriptors come from is left open: the table is built with any way to load one by its id and
its locator, in any monad. An extension without a descriptor is noted.
-/

namespace BlockScribe

/-- The descriptor of an extension. -/
structure Extension where
  id : String
  blocks : List ExtensionBlock
deriving DecidableEq, Repr

/-- A block in a descriptor needs an opcode; separators and labels have none. -/
def ExtensionBlock.ofJson? (value : Json) : Option ExtensionBlock :=
  ((value.get? "opcode").bind Json.text?).map fun opcode => {
    opcode := opcode
    argumentNames := (((value.get? "arguments").bind Json.members?).map Dict.keys).getD []
    blockType := ((value.get? "blockType").bind Json.text?).getD "command" }

/-- A descriptor has an id and a list of blocks. -/
def Extension.ofJson (value : Json) : Except Error Extension :=
  match (value.get? "id").bind Json.text? with
  | none => failWith .descriptorWithoutId
  | some id =>
    match (value.get? "blocks").bind Json.list? with
    | none => failWith (.descriptorWithoutBlocks id)
    | some items => .ok ⟨id, items.filterMap ExtensionBlock.ofJson?⟩

/-- Reads the text of a descriptor. -/
def Extension.parse (text : String) : Except Error Extension :=
  match Json.parse text with
  | .error fault => failWith (.json fault)
  | .ok value => Extension.ofJson value

/-- An extension that a project uses, and where the project says it is. -/
structure ExtensionUse where
  id : String
  locator : Option String
deriving DecidableEq, Repr

/-- The extensions of a project that need a descriptor: those it lists, then those it only gives
a place for. The blocks of bundled extensions are in the palette. -/
def Project.extensionUses (project : Project) : List ExtensionUse :=
  let located := project.extensionUrls.keys.filter fun id => !project.extensions.contains id
  ((project.extensions ++ located).filter fun id => !bundledExtensions.contains id).map fun id =>
    ⟨id, project.extensionUrls.get? id⟩

/-- Adds the blocks of loaded extensions to a table. -/
def SignatureTable.extendAll (table : SignatureTable) (loaded : List (Option Extension)) :
    SignatureTable :=
  (loaded.filterMap id).foldl (fun t e => t.extendWith e.id e.blocks) table

/-- The notes on extensions without a descriptor. -/
def missingDescriptors (uses : List ExtensionUse) (loaded : List (Option Extension)) :
    List Diagnostic :=
  (uses.zip loaded).filterMap fun p =>
    match p.2 with
    | some _ => none
    | none => some ⟨none, .missingDescriptor p.1.id p.1.locator⟩

/-- The table of signatures for a project, with notes on the extensions that nothing
describes. -/
def Project.signatures {m : Type → Type} [Monad m]
    (load : ExtensionUse → m (Option Extension)) (project : Project) :
    m (SignatureTable × List Diagnostic) := do
  let loaded ← project.extensionUses.mapM load
  return (SignatureTable.palette.extendAll loaded,
    missingDescriptors project.extensionUses loaded)

/-- Knows no descriptor at all. -/
def noDescriptors (_ : ExtensionUse) : Except Error (Option Extension) := .ok none

end BlockScribe
