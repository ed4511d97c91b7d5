import BlockScribe.Emission.Render
import BlockScribe.Text.Blank

/-! # Procedures of a target

A procedure is defined by a block whose prototype carries its proccode and its arguments. All
procedures of a target are registered before any script is written, so a call may stand before
the definition. Of several definitions with one proccode the first in the file wins; the others
are noted.
-/

namespace BlockScribe

/-- A computation on sessions that may stop with an error; what it changed before stays. -/
abbrev Work := EStateM Error Session

/-- What the prototype of a procedure says. -/
structure Prototype where
  proccode : String
  argumentIds : List String
  argumentNames : List String
  warp : Bool
deriving DecidableEq, Repr

/-- Whether a block defines a procedure. -/
def Block.isDefinition (block : Block) : Bool := block.opcode == "procedures_definition"

/-- Reads the prototype of a definition. Every part of it is required. -/
def Prototype.ofDefinition (blocks : Dict String Block) (definition : Block) :
    Except Error Prototype :=
  match definition.inputBlock? "custom_block" with
  | none => failWith (.definitionWithoutPrototype definition.id)
  | some id =>
    match blocks.get? id with
    | none => failWith (.block (.missing id))
    | some prototype =>
      match prototype.mutation with
      | none => failWith (.prototypeWithoutMutation id)
      | some mutation =>
        match mutation.proccode with
        | none => failWith (.prototypeWithoutProccode id)
        | some proccode => do
          let ids ← inContext (.argumentsOf id) mutation.readArgumentIds
          let names ← inContext (.argumentsOf id) mutation.readArgumentNames
          if ids.length ≠ names.length then
            failWith (.argumentCounts id ids.length names.length)
          else return ⟨proccode, ids, names, mutation.warp⟩

/-- What stands on the first line before a blank and a percent sign, if they are there. -/
def beforePlaceholder? : List Char → Option (List Char)
  | [] => none
  | ' ' :: '%' :: _ => some []
  | c :: rest => if c = '\n' then none else (beforePlaceholder? rest).map (c :: ·)

/-- The raw name of a procedure: its proccode up to the first placeholder, or all of it when
there is none, without blanks at its ends. -/
def proccodeName (proccode : String) : String :=
  trim (((beforePlaceholder? proccode.toList).map String.ofList).getD proccode)

/-- The definitions that stand at the top level, in the order of the file. -/
def definitions (blocks : Dict String Block) : List Block :=
  blocks.values.filter fun b => b.topLevel && b.isDefinition

/-- Registers the procedure of a definition, unless its proccode is registered. -/
def predeclareOne (blocks : Dict String Block) (definition : Block) : Work Unit := do
  match Prototype.ofDefinition blocks definition with
  | .error error => throw error
  | .ok prototype =>
    modify fun session =>
      match session.scope.procedure? prototype.proccode with
      | some _ =>
        { session with
          diagnostics := session.diagnostics ++
            [⟨some definition.id, .repeatedProcedure prototype.proccode⟩] }
      | none =>
        let name := session.scope.freshName (Identifier.ofRaw (proccodeName prototype.proccode))
        { session with
          scope := session.scope.register prototype.proccode
            ⟨definition.id, name, prototype.argumentIds, prototype.argumentNames,
              prototype.warp⟩ }

/-- Registers the procedures of definitions, one after the other. -/
def predeclareAll (blocks : Dict String Block) : List Block → Work Unit
  | [] => pure ()
  | definition :: rest => do
    predeclareOne blocks definition
    predeclareAll blocks rest

/-- Registers the procedures of a target. -/
def predeclare (blocks : Dict String Block) : Work Unit :=
  predeclareAll blocks (definitions blocks)

end BlockScribe
