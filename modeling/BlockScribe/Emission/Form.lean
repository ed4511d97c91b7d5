import BlockScribe.Project.Block
import BlockScribe.Scope
import BlockScribe.Signature

/-! # Forms

The form of a block is how it is going to be written, decided from its opcode before anything of
it is written: a handful of opcodes have forms of their own, menus and argument reporters stand
for a value, and every other block is written as its signature says. A form names the slots that
are its arguments and the sockets that are its bodies, in writing order.
-/

namespace BlockScribe

/-- What to write of a block. -/
structure Mode where
  /-- Write a construct with bodies as its head alone. -/
  headOnly : Bool
  /-- Go on with the next block of the script. -/
  followNext : Bool
deriving DecidableEq, Repr

namespace Mode

/-- A whole script. -/
def chain : Mode := ⟨false, true⟩

/-- One statement. -/
def single : Mode := ⟨false, false⟩

/-- A value inside a statement. -/
def value : Mode := ⟨true, false⟩

end Mode

/-- The ways to write a block. -/
inductive Form where
  /-- Two values with the sign for "not equal" between them. -/
  | comparison
  /-- The answer of a procedure, from a slot. -/
  | answer (slot : String)
  /-- A call of the logging helper, which leaves no trace. -/
  | logging
  /-- A call of a procedure that the scope does not know. -/
  | unknownCall (proccode : String)
  /-- An assignment to the variable of a field. -/
  | assignment (field : Field)
  /-- An assignment that does not say to what. -/
  | namelessAssignment
  /-- A parameter of the procedure around it. -/
  | parameter (raw : String)
  /-- The selected value of a menu. -/
  | choice (value : String)
  /-- A call with arguments. -/
  | call (name : String) (slots : List String)
  /-- A call with arguments, and bodies behind it. -/
  | branch (slots sockets : List String)
  /-- A block whose opcode nothing describes. -/
  | unknown
deriving DecidableEq, Repr

namespace Form

/-- The slots that are written, in order. -/
def slots : Form → List String
  | comparison => ["OPERAND1", "OPERAND2"]
  | answer slot => [slot]
  | assignment _ => ["VALUE"]
  | call _ slots => slots
  | branch slots _ => slots
  | _ => []

/-- The sockets whose bodies are written, in order. -/
def sockets : Form → List String
  | branch _ sockets => sockets
  | _ => []

end Form

/-- The proccode of the logging helper. -/
def loggingProccode : String := "\u200b\u200blog\u200b\u200b %s"

/-- The slot of an assignment that names its variable. -/
def variableSlot : String := "VARIABLE"

namespace Block

/-- Whether a block reports an argument of the procedure around it. -/
def isArgumentReporter (block : Block) : Bool :=
  "argument_reporter_".toList.isPrefixOf block.opcode.toList

/-- Whether a block has a form that does not come from the table of signatures. -/
def isSpecial (block : Block) : Bool :=
  ["operator_notequal", "procedures_return", "procedures_call", "procedures_prototype"].contains
      block.opcode ||
    block.isArgumentReporter || isMenu block.opcode block.shadow

/-- The form of a call. -/
def callForm (scope : Scope) (block : Block) : Form :=
  let proccode := (block.mutation.bind Mutation.proccode).getD ""
  if proccode = loggingProccode then .logging
  else match scope.procedure? proccode with
    | some procedure => .call procedure.name procedure.arguments
    | none => .unknownCall proccode

/-- The form that the signature of a block gives. -/
def signatureForm (table : SignatureTable) (headOnly : Bool) (block : Block) : Form :=
  match table.get? block.opcode with
  | none => .unknown
  | some signature =>
    match signature.category, headOnly with
    | .branch sockets, false => .branch signature.slots sockets
    | _, _ => .call block.opcode signature.slots

/-- The form of a block. -/
def form (table : SignatureTable) (scope : Scope) (headOnly : Bool) (block : Block) : Form :=
  if block.opcode = "operator_notequal" then .comparison
  else if block.opcode = "procedures_return" then
    .answer (if block.inputs.contains "return" then "return" else "VALUE")
  else if block.opcode = "procedures_call" then callForm scope block
  else if block.opcode = "data_setvariableto" then
    match block.fields.get? variableSlot with
    | some field => .assignment field
    | none => .namelessAssignment
  else if block.isArgumentReporter then .parameter ((block.fieldValue? "VALUE").getD "")
  else if isMenu block.opcode block.shadow then
    .choice ((block.firstField?.map Field.value).getD "")
  else signatureForm table headOnly block

end Block

end BlockScribe
