/-! # Diagnostics

A problem that does not stop the work is noted: what it is, and the block that caused it, if one
did.
-/

namespace BlockScribe

/-- A recoverable problem. -/
inductive Notice where
  | undefinedOpcode (opcode : String)
  | unknownProcedure (proccode : String)
  | assignmentWithoutVariable
  | unknownLiteral (code : Int)
  | repeatedProcedure (proccode : String)
  | missingDescriptor (extension : String) (locator : Option String)
  | missingAsset (name file : String)
  | changedAsset (name digest id : String)
deriving DecidableEq, Repr

/-- The wording of a notice. -/
def Notice.message : Notice → String
  | undefinedOpcode opcode => "undefined definition for " ++ opcode
  | unknownProcedure proccode => "custom block of proccode \"" ++ proccode ++ "\" not found"
  | assignmentWithoutVariable => "variable assignment without a VARIABLE field"
  | unknownLiteral code => "INPUT TYPE " ++ toString code ++ " NOT IMPLEMENTED"
  | repeatedProcedure proccode => "procedure \"" ++ proccode ++ "\" is defined more than once"
  | missingDescriptor extension locator =>
    "no descriptor for extension '" ++ extension ++ "'" ++
      (match locator with
        | some place => " (" ++ place ++ ")"
        | none => "") ++
      "; its blocks will be placeholders"
  | missingAsset name file => "asset '" ++ name ++ "' missing (" ++ file ++ ")"
  | changedAsset name digest id =>
    "asset '" ++ name ++ "' checksum " ++ digest ++ " does not match asset id " ++ id

/-- A notice and the block that caused it. -/
structure Diagnostic where
  block : Option String
  notice : Notice
deriving DecidableEq, Repr

/-- The wording of a diagnostic. -/
def Diagnostic.message (d : Diagnostic) : String := d.notice.message

end BlockScribe
