import BlockScribe.Diagnostic
import BlockScribe.Emission.Form
import BlockScribe.Text.Layout
import BlockScribe.Text.Numeral

/-! # Writing blocks

Blocks become text. A rendering may bind names in the scope and note diagnostics; both survive a
failure, so they are a state next to the result. The blocks that are being written are passed
down as a list, the innermost first: a block on it is not entered again.

The recursion has two layers. A script is a chain of blocks, and each block of the chain is new
on the list, so a chain ends after as many blocks as there are. A nested input or body is one
level deeper, and `emitAt` counts the levels that are left. Within a level everything is written
with the means of the next one: `renderForm` and its parts take a `Nested`, the way to write
what a block links to.
-/

namespace BlockScribe

/-- What a rendering changes. -/
structure Session where
  scope : Scope
  diagnostics : List Diagnostic

/-- Why a rendering stops, and the blocks that were being written then. -/
structure Failure where
  fault : BlockFault
  entered : List String
deriving DecidableEq, Repr

/-- A computation on sessions that may stop; what it changed before it stopped stays changed. -/
abbrev Render := EStateM Failure Session

/-- What blocks are written with: the signatures and the blocks of the target. -/
structure Sources where
  table : SignatureTable
  blocks : Dict String Block

/-- A way to write the block with a given id, indented by a number of tabs. -/
abbrev Nested := (id : String) → (level : Nat) → (mode : Mode) → Render String

namespace Render

/-- Notes a problem with a block. -/
def note (block : Block) (notice : Notice) : Render Unit :=
  modify fun s => { s with diagnostics := s.diagnostics ++ [⟨some block.id, notice⟩] }

/-- Stops because of a block, while the blocks of `entered` are being written. -/
def stop {α : Type} (fault : BlockFault) (entered : List String) : Render α :=
  throw ⟨fault, entered⟩

/-- Binds an id to a name made from a raw name. -/
def bindName (id raw : String) : Render String := do
  let session ← get
  let (name, scope) := session.scope.bind id raw
  set { session with scope := scope }
  return name

end Render

/-! ## Values -/

/-- What stands for a missing argument. -/
def emptyText : String := Quoted.quote ""

/-- The name of a variable or list: the one bound to its id, else its raw name spelled as a bare
name. -/
def boundName (scope : Scope) (id : Option String) (raw : String) : String :=
  (id.bind scope.name?).getD (Identifier.ofRaw raw)

/-- The text of a field: a name in the slots for variables and lists, else a literal. -/
def fieldText (scope : Scope) (slot : String) (field : Field) : String :=
  if slot = variableSlot ∨ slot = "LIST" then boundName scope field.id field.value
  else Quoted.quote field.value

/-- The text of a literal, if its kind is known. -/
def literalText? (scope : Scope) (literal : Literal) : Option String :=
  match literal.kind with
  | .color => some (Quoted.quote literal.value)
  | .text => some (Quoted.quote literal.value)
  | .broadcast => some (Quoted.quote literal.value)
  | .variableName => some (boundName scope literal.id literal.value)
  | .listName => some (boundName scope literal.id literal.value)
  | .other _ => none
  | _ => some (Numeral.render literal.value)

/-- Writes a literal. One of an unknown kind is noted and left out. -/
def renderLiteral (owner : Block) (literal : Literal) : Render (Option String) := do
  match literalText? (← get).scope literal with
  | some text => return some text
  | none =>
    Render.note owner (.unknownLiteral literal.kind.code)
    return none

/-- Writes an input. -/
def renderInput (nested : Nested) (owner : Block) : Input → Render (Option String)
  | .block id => some <$> nested id 0 .value
  | .literal literal => renderLiteral owner literal

/-- Writes what stands in a slot: an input before a field, and the empty text if neither is
there. -/
def renderSlot (nested : Nested) (block : Block) (slot : String) : Render (Option String) :=
  match block.inputs.get? slot with
  | some input => renderInput nested block input
  | none =>
    match block.fields.get? slot with
    | some field => do return some (fieldText (← get).scope slot field)
    | none => pure (some emptyText)

/-- Writes slots one after the other. -/
def renderSlots (nested : Nested) (block : Block) : List String → Render (List (Option String))
  | [] => pure []
  | slot :: rest => do
    let text ← renderSlot nested block slot
    let texts ← renderSlots nested block rest
    return text :: texts

/-- A name and, in parentheses, the arguments that were not left out. -/
def callText (name : String) (arguments : List (Option String)) : String :=
  name ++ "(" ++ ", ".intercalate (arguments.filterMap id) ++ ")"

/-- The only argument, or the empty text if it was left out. -/
def soleText (arguments : List (Option String)) : String :=
  (arguments.head?.bind id).getD emptyText

/-! ## Statements -/

/-- Writes a call with the given name and slots. -/
def renderCall (nested : Nested) (block : Block) (name : String) (slots : List String) :
    Render String :=
  callText name <$> renderSlots nested block slots

/-- Writes the bodies in the sockets of a construct. A socket without a block has an empty
body. -/
def renderBodies (nested : Nested) (block : Block) : List String → Render (List String)
  | [] => pure []
  | socket :: rest => do
    let body ← match block.inputBlock? socket with
      | some id => nested id 1 .chain
      | none => pure ""
    let bodies ← renderBodies nested block rest
    return Layout.braced body :: bodies

/-- What stands in front of an assignment that declares its variable. -/
def declarationWord (isStage : Bool) : String := if isStage then "global var " else "var "

/-- The id of the variable in a field; a field without an id stands for itself. -/
def Field.variableId (field : Field) : String := field.id.getD field.value

/-- Writes an assignment of a written value. The variable gets its name here, if it has none. -/
def assign (field : Field) (declares : Bool) (value : String) : Render String := do
  let name ← Render.bindName field.variableId field.value
  let session ← get
  let word := if declares then declarationWord session.scope.isStage else ""
  return word ++ name ++ " = " ++ value

/-- What stands for an assignment that does not say to what. -/
def namelessAssignmentText : String := "/* variable assignment without a variable */"

/-- What stands for a block whose opcode nothing describes. -/
def undefinedText (opcode : String) : String := "/* undefined definition for " ++ opcode ++ " */"

/-- What stands for a call of an unknown procedure. -/
def unknownCallText (proccode : String) : String :=
  "/* unknown custom block " ++ proccode ++ " */"

/-- Writes a block in its form. -/
def renderForm (nested : Nested) (block : Block) (form : Form) : Render String := do
  let before := (← get).scope
  let arguments ← renderSlots nested block form.slots
  match form with
  | .comparison =>
    return " != ".intercalate (arguments.map fun argument => argument.getD emptyText)
  | .answer _ => return "return " ++ soleText arguments
  | .logging => return ""
  | .unknownCall proccode =>
    Render.note block (.unknownProcedure proccode)
    return unknownCallText proccode
  | .assignment field =>
    assign field (!before.isDeclared field.variableId) (soleText arguments)
  | .namelessAssignment =>
    Render.note block .assignmentWithoutVariable
    return namelessAssignmentText
  | .parameter raw => return Identifier.parameter raw
  | .choice value => return Quoted.quote value
  | .call name _ => return callText name arguments
  | .branch _ sockets =>
    let bodies ← renderBodies nested block sockets
    return callText block.opcode arguments ++ " " ++ " ".intercalate bodies
  | .unknown =>
    Render.note block (.undefinedOpcode block.opcode)
    return undefinedText block.opcode

/-- Writes a block. -/
def renderBlock (table : SignatureTable) (nested : Nested) (headOnly : Bool) (block : Block) :
    Render String := do
  renderForm nested block (block.form table (← get).scope headOnly)

/-- Writes an assignment that always declares its variable. -/
def renderDeclaration (nested : Nested) (block : Block) : Render String :=
  match block.fields.get? variableSlot with
  | none => do
    Render.note block .assignmentWithoutVariable
    return namelessAssignmentText
  | some field => do
    let value ← renderSlot nested block "VALUE"
    assign field true (value.getD emptyText)

/-! ## Scripts -/

/-- The number of blocks that are not being written. -/
def unentered (blocks : Dict String Block) (entered : List String) : Nat :=
  (blocks.keys.filter fun id => !entered.contains id).length

theorem length_filter_cons_lt {ids : List String} {entered : List String} {id : String}
    (hmem : id ∈ ids) (hnew : id ∉ entered) :
    (ids.filter fun i => !(id :: entered).contains i).length <
      (ids.filter fun i => !entered.contains i).length := by
  have hle : ∀ l : List String, (l.filter fun i => !(id :: entered).contains i).length ≤
      (l.filter fun i => !entered.contains i).length := by
    intro l
    rw [← List.countP_eq_length_filter, ← List.countP_eq_length_filter]
    refine List.countP_mono_left fun i _ hi => ?_
    simp only [List.contains_cons, Bool.not_or, Bool.and_eq_true] at hi
    exact hi.2
  obtain ⟨before, after, rfl⟩ := List.append_of_mem hmem
  have h1 := hle before
  have h2 := hle after
  have hfirst : (after.filter fun i => !(id :: entered).contains i) =
      (id :: after).filter fun i => !(id :: entered).contains i := by
    rw [List.filter_cons_of_neg]
    simp
  have hsecond : ((id :: after).filter fun i => !entered.contains i) =
      id :: after.filter fun i => !entered.contains i := by
    rw [List.filter_cons_of_pos]
    simpa using hnew
  rw [List.filter_append, List.filter_append, ← hfirst, hsecond]
  simp only [List.length_append, List.length_cons]
  omega

/-- Entering a block leaves fewer blocks to enter. -/
theorem unentered_lt {blocks : Dict String Block} {entered : List String} {id : String}
    {block : Block} (hget : blocks.get? id = some block) (hnew : id ∉ entered) :
    unentered blocks (id :: entered) < unentered blocks entered :=
  length_filter_cons_lt
    (List.mem_map.2 ⟨(id, block), Dict.mem_entries_of_get? hget, rfl⟩) hnew

/-- Writes the blocks of a script, each with `single`, and gives the texts that are not empty. -/
def renderChain (blocks : Dict String Block) (single : List String → Block → Render String)
    (followNext : Bool) (entered : List String) (id : String) : Render (List String) :=
  match _hget : blocks.get? id with
  | none => Render.stop (.missing id) entered
  | some block =>
    if _hnew : id ∈ entered then Render.stop (.cyclic id) entered
    else do
      let text ← single (id :: entered) block
      let rest ← match followNext, block.next with
        | true, some next => renderChain blocks single followNext (id :: entered) next
        | _, _ => pure []
      return if text.isEmpty then rest else text :: rest
termination_by unentered blocks entered
decreasing_by exact unentered_lt _hget _hnew

/-- Writes the script that starts at a block, with `room` levels left for it and what is nested
in it, while the blocks of `entered` are being written. -/
def emitAt (sources : Sources) : (room : Nat) → (entered : List String) → Nested
  | 0, entered, id, _, _ => Render.stop (.tooDeep id) entered
  | room + 1, entered, id, level, mode => do
    let lines ← renderChain sources.blocks
      (fun entered block =>
        renderBlock sources.table (emitAt sources room entered) mode.headOnly block)
      mode.followNext entered id
    return Layout.indent level (Layout.stack lines)

end BlockScribe
