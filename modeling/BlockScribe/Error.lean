import BlockScribe.Emission.Fault
import BlockScribe.Json.Value

/-! # Errors

An error is a cause, wrapped in the contexts in which it was met. Causes are facts about the
project, the archive or the files; the wording of each stands in one place. Faults of a
document, an archive or the file system have no wording here: only what was being done when they
struck is told.
-/

namespace BlockScribe

/-- Why the file system refuses: there is no such file, the bytes are not what they should be, or
anything else. -/
inductive FileFault where
  | missing
  | invalid
  | refused
deriving DecidableEq, Repr

/-- What stopped the work. -/
inductive Cause where
  | json (fault : Json.Fault)
  | archive
  | file (fault : FileFault)
  | block (fault : BlockFault)
  | missingTargets
  | unnamedTarget
  | unflaggedTarget (name : String)
  | blockNotObject
  | blockWithoutOpcode
  | definitionWithoutPrototype (definition : String)
  | prototypeWithoutMutation (prototype : String)
  | prototypeWithoutProccode (prototype : String)
  | missingArguments (key : String)
  | argumentCounts (prototype : String) (ids names : Nat)
  | descriptorWithoutId
  | descriptorWithoutBlocks (id : String)
  | missingProjectFile (path : String)
  | missingProjectEntry (path : String)
  | escapingEntry (name : String)
  | missingInput (path : String)
deriving DecidableEq, Repr

/-- The wording of a cause, if it has one. -/
def Cause.message? : Cause → Option String
  | json _ => none
  | archive => none
  | file _ => none
  | block fault => some fault.message
  | missingTargets => some "Invalid project.json: missing 'targets' array."
  | unnamedTarget => some "Target missing 'name'."
  | unflaggedTarget name => some ("Target '" ++ name ++ "' missing isStage.")
  | blockNotObject => some "block is not an object"
  | blockWithoutOpcode => some "block missing 'opcode'"
  | definitionWithoutPrototype definition =>
    some ("Procedure definition '" ++ definition ++ "' missing custom_block input.")
  | prototypeWithoutMutation prototype =>
    some ("Procedure prototype '" ++ prototype ++ "' missing mutation.")
  | prototypeWithoutProccode prototype =>
    some ("Procedure prototype '" ++ prototype ++ "' missing proccode.")
  | missingArguments key => some ("mutation missing '" ++ key ++ "'.")
  | argumentCounts prototype ids names =>
    some ("Procedure prototype '" ++ prototype ++ "' lists " ++ toString ids ++
      " argument ids but " ++ toString names ++ " argument names.")
  | descriptorWithoutId => some "descriptor missing 'id'."
  | descriptorWithoutBlocks id => some ("descriptor '" ++ id ++ "' missing 'blocks' array.")
  | missingProjectFile path => some ("'" ++ path ++ "' does not contain project.json.")
  | missingProjectEntry path => some ("project.json not found in '" ++ path ++ "'.")
  | escapingEntry name =>
    some ("Archive entry '" ++ name ++ "' escapes the extraction directory.")
  | missingInput path => some ("Input not found: '" ++ path ++ "'.")

/-- What was being done when an error was met. -/
inductive Context where
  | projectText
  | blockOf (target id : String)
  | argumentsOf (prototype : String)
  | argumentList (key raw : String)
  | decompiling (target : String)
  | reading (path : String)
  | writing (path : String)
  | creating (path : String)
  | opening (path : String)
  | descriptor (path : String)
  | archive (path : String)
  | project (path : String)
  | workingDirectory
deriving DecidableEq, Repr

/-- The wording of a context. -/
def Context.message : Context → String
  | projectText => "Invalid project.json."
  | blockOf target id => "Target '" ++ target ++ "' has an invalid block '" ++ id ++ "'."
  | argumentsOf prototype => "Procedure prototype '" ++ prototype ++ "' has bad arguments."
  | argumentList key raw => "mutation '" ++ key ++ "' is not a JSON string list: " ++ raw
  | decompiling target => "Failed to decompile target '" ++ target ++ "'."
  | reading path => "Failed to read '" ++ path ++ "'."
  | writing path => "Failed to write '" ++ path ++ "'."
  | creating path => "Failed to create '" ++ path ++ "'."
  | opening path => "Failed to open '" ++ path ++ "'."
  | descriptor path => "Invalid extension descriptor '" ++ path ++ "'."
  | archive path => "'" ++ path ++ "' is not a valid zip/.sb3 file."
  | project path => "Invalid project in '" ++ path ++ "'."
  | workingDirectory => "Failed to create a working directory for extraction."

/-- A cause and the contexts around it, the outermost first. -/
structure Error where
  contexts : List Context
  cause : Cause
deriving DecidableEq, Repr

namespace Error

/-- A cause without any context. -/
def ofCause (cause : Cause) : Error := ⟨[], cause⟩

/-- The error inside one more context. -/
def within (context : Context) (error : Error) : Error :=
  { error with contexts := context :: error.contexts }

/-- The wordings from the outermost context inwards. -/
def message (error : Error) : String :=
  ": ".intercalate (error.contexts.map Context.message ++ error.cause.message?.toList)

end Error

/-- Puts a context around the errors of a computation. -/
def inContext {α : Type} (context : Context) : Except Error α → Except Error α :=
  Except.mapError (Error.within context)

/-- A result does not depend on the context. -/
theorem inContext_eq_ok {α : Type} {context : Context} {result : Except Error α} {value : α}
    (h : inContext context result = .ok value) : result = .ok value := by
  cases result with
  | error error => cases h
  | ok found =>
    cases h
    rfl

/-- A sequence that ends well consists of two parts that end well. -/
theorem exists_of_except_bind_eq_ok {ε α β : Type} {first : Except ε α} {next : α → Except ε β}
    {value : β} (h : (first >>= next) = .ok value) :
    ∃ found, first = .ok found ∧ next found = .ok value := by
  cases first with
  | error error => cases h
  | ok found => exact ⟨found, rfl, h⟩

/-- Fails with a cause. -/
def failWith {α : Type} (cause : Cause) : Except Error α := .error (Error.ofCause cause)

end BlockScribe
