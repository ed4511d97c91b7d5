import BlockScribe.Extension
import BlockScribe.Procedure
import BlockScribe.Project.Reader

/-! # Scripts of a target

A target becomes one source text: a header line, a declaration for each variable and each list,
the procedures, and then, in the order of the file, a script for each hat and a placeholder for
each other block at the top level that nothing describes. Loose blocks that are described, and
reporters, leave no trace.

Variables keep the names that they get at their declaration. A sprite sees the names that the
stage's variables have on the stage. Procedures are written with a copy of the scope, in which
the parameters have their names, so what a body binds stays in the body; the hats share one
scope from first to last.
-/

namespace BlockScribe

/-- The source of a target. -/
structure Script where
  name : String
  isStage : Bool
  source : String
  diagnostics : List Diagnostic
deriving DecidableEq, Repr

namespace Script

/-- The first line of every source. -/
def header : String := "#include <\"blocks/js\" \"base.js\">"

/-! ## Declarations -/

/-- A variable's initial value, as an assignment. -/
def initialAssignment (id : String) (v : Variable) : Block where
  id := id ++ ":initial"
  opcode := "data_setvariableto"
  next := none
  inputs := Dict.empty.insert "VALUE" (.literal (Literal.ofValue v.value))
  fields := Dict.empty.insert variableSlot ⟨v.name, some id⟩
  shadow := false
  topLevel := false
  mutation := none

/-- Declares variables, one after the other. -/
def declareVariables (nested : Nested) : List (String × Variable) → Render (List String)
  | [] => pure []
  | (id, v) :: rest => do
    let text ← renderDeclaration nested (initialAssignment id v)
    let texts ← declareVariables nested rest
    return text :: texts

/-- An initial item of a list. -/
def itemText : Json → String
  | .number n => n.text
  | .text s => Quoted.quote s
  | other => Quoted.quote other.compact

/-- The items of a list between braces, one a line. -/
def itemsText (items : List Json) : String :=
  if items.isEmpty then "\x7b\x7d"
  else Layout.braced (Layout.indent 1 (",\n".intercalate (items.map itemText)))

/-- The words in front of a list's name. -/
def listWord (isStage : Bool) : String := if isStage then "global list " else "list "

/-- Declares a list. -/
def declareList (id : String) (list : ItemList) : Render String := do
  let name ← Render.bindName id list.name
  let session ← get
  return listWord session.scope.isStage ++ name ++ " = " ++ itemsText list.items

/-- Declares lists, one after the other. -/
def declareLists : List (String × ItemList) → Render (List String)
  | [] => pure []
  | (id, list) :: rest => do
    let text ← declareList id list
    let texts ← declareLists rest
    return text :: texts

/-! ## Procedures and hats -/

/-- Runs a rendering on a changed copy of the scope; the scope itself stays as it was. -/
def onFork {α : Type} (change : Scope → Scope) (render : Render α) : Render α := fun session =>
  match render { session with scope := change session.scope } with
  | .ok value after => .ok value { after with scope := session.scope }
  | .error failure after => .error failure { after with scope := session.scope }

/-- The parameters of a procedure: ids and names. -/
def parameters (procedure : Procedure) : List (String × String) :=
  (procedure.arguments.zip procedure.argumentNames).map fun p => (p.1, Identifier.parameter p.2)

/-- A scope in which the parameters of a procedure have their names. -/
def inherited (names : List (String × String)) (scope : Scope) : Scope :=
  names.foldl (fun s p => s.inherit p.1 p.2) scope

/-- Writes what follows a block as a body. -/
def renderRest (nested : Nested) (block : Block) : Render String :=
  match block.next with
  | some next => nested next 1 .chain
  | none => pure ""

/-- The head of a procedure. -/
def procedureHead (procedure : Procedure) : String :=
  (if procedure.warp then "warp " else "") ++ "fn " ++ procedure.name ++ "(" ++
    ", ".intercalate ((parameters procedure).map Prod.snd) ++ ")"

/-- Writes a procedure. -/
def renderProcedure (nested : Nested) (procedure : Procedure) (definition : Block) :
    Render String := do
  let body ← onFork (inherited (parameters procedure)) (renderRest nested definition)
  return procedureHead procedure ++ " " ++ Layout.braced body

/-- Writes the procedures of the definitions that won their proccode. -/
def renderProcedures (nested : Nested) : List Block → Render (List String)
  | [] => pure []
  | definition :: rest => do
    let session ← get
    match session.scope.definedBy? definition.id with
    | none => renderProcedures nested rest
    | some procedure =>
      let text ← renderProcedure nested procedure definition
      let texts ← renderProcedures nested rest
      return text :: texts

/-- Writes the script of a hat. -/
def renderHat (nested : Nested) (block : Block) (slots : List String) : Render String := do
  let head ← renderCall nested block block.opcode slots
  let body ← renderRest nested block
  return head ++ " " ++ Layout.braced body

/-- What a block at the top level, other than a definition, leaves in the source. -/
inductive Entry where
  /-- The script of a hat with the given slots. -/
  | hat (slots : List String)
  /-- A placeholder. -/
  | undefined
  | nothing
deriving DecidableEq, Repr

/-- What a block at the top level leaves. -/
def entry (table : SignatureTable) (block : Block) : Entry :=
  if block.isArgumentReporter then .nothing
  else match table.get? block.opcode with
    | some signature => if signature.isHat then .hat signature.slots else .nothing
    | none => if block.isSpecial then .nothing else .undefined

/-- Writes the scripts and placeholders of blocks at the top level. -/
def renderEntries (table : SignatureTable) (nested : Nested) : List Block → Render (List String)
  | [] => pure []
  | block :: rest =>
    match entry table block with
    | .hat slots => do
      let text ← renderHat nested block slots
      let texts ← renderEntries table nested rest
      return text :: texts
    | .undefined => do
      let texts ← renderEntries table nested rest
      return undefinedText block.opcode :: texts
    | .nothing => renderEntries table nested rest

/-- The blocks at the top level that define no procedure, in the order of the file. -/
def entryBlocks (blocks : Dict String Block) : List Block :=
  blocks.values.filter fun b => b.topLevel && !b.isDefinition

/-- The notes on blocks at the top level that nothing describes. -/
def undefinedEntries (table : SignatureTable) (blocks : Dict String Block) : List Diagnostic :=
  ((entryBlocks blocks).filter fun b => entry table b == .undefined).map fun b =>
    ⟨some b.id, .undefinedOpcode b.opcode⟩

/-! ## Targets -/

/-- A rendering as a part of the work on a target. -/
def work {α : Type} (render : Render α) : Work α := fun session =>
  match render session with
  | .ok value after => .ok value after
  | .error failure after => .error (Error.ofCause (.block failure.fault)) after

/-- Writes all parts of a target, in the order of the source. -/
def renderTarget (table : SignatureTable) (target : Target) : Work (List String) := do
  let nested := emitAt ⟨table, target.blocks⟩ maxNesting []
  let vars ← work (declareVariables nested target.vars.entries)
  let lists ← work (declareLists target.lists.entries)
  predeclare target.blocks
  modify fun session =>
    { session with
      diagnostics := session.diagnostics ++ undefinedEntries table target.blocks }
  let procedures ← work (renderProcedures nested (definitions target.blocks))
  let entries ← work (renderEntries table nested (entryBlocks target.blocks))
  return vars ++ lists ++ procedures ++ entries

/-- The scope at the start of a target. -/
def startScope (isStage : Bool) (globals : Dict String String) : Scope :=
  inherited globals.entries (Scope.new isStage)

/-- Writes the source of a target that sees the given names of the stage. -/
def ofTarget (table : SignatureTable) (target : Target) (globals : Dict String String) :
    Except Error Script :=
  match renderTarget table target ⟨startScope target.isStage globals, []⟩ with
  | .ok parts session => .ok {
      name := target.name
      isStage := target.isStage
      source := Layout.stack (header :: parts)
      diagnostics := session.diagnostics }
  | .error error _ => .error error

end Script

/-- The names of a stage's variables and lists, as every sprite sees them. -/
def Target.globals (stage : Target) : Dict String String :=
  let raw := stage.vars.entries.map (fun e => (e.1, e.2.name)) ++
    stage.lists.entries.map (fun e => (e.1, e.2.name))
  (raw.foldl (fun s e => (s.bind e.1 e.2).2) (Scope.new true)).bindings

/-- The names that all sprites of a project see: those of its first stage. -/
def Project.globals (project : Project) : Dict String String :=
  ((project.targets.find? Target.isStage).map Target.globals).getD .empty

/-- Writes the sources of all targets, in order. -/
def Project.scripts (table : SignatureTable) (project : Project) : Except Error (List Script) :=
  project.targets.mapM fun target =>
    inContext (.decompiling target.name)
      (Script.ofTarget table target (if target.isStage then .empty else project.globals))

/-- Reads the text of a project and writes the sources of its targets, with the palette alone. -/
def decompileText (text : String) : Except Error (List Script) := do
  let project ← Project.parse text
  let (table, _) ← project.signatures noDescriptors
  project.scripts table

end BlockScribe
