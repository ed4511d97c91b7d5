import BlockScribe.Dict
import BlockScribe.Text.Identifier

/-! # Scopes

A scope holds the names that a script can see: the names bound to variables and lists, by id,
and the procedures of the target, by proccode. A variable gets its name when it is first seen: its
raw name as a bare word, made fresh against the reserved words and every name in the scope.

A name that comes from elsewhere (a stage variable seen by a sprite, a parameter inside its
procedure) is taken over as it is.
-/

namespace BlockScribe

/-- A procedure of a target. -/
structure Procedure where
  /-- The block that defines it. -/
  definition : String
  name : String
  /-- The ids of the arguments, in order; a call keys its inputs by them. -/
  arguments : List String
  argumentNames : List String
  warp : Bool
deriving DecidableEq, Repr

/-- The names that are visible at a place. -/
structure Scope where
  procedures : Dict String Procedure
  bindings : Dict String String
  isStage : Bool

namespace Scope

/-- A scope without names. -/
def new (isStage : Bool) : Scope := ⟨.empty, .empty, isStage⟩

/-- All names in use: of variables and lists, then of procedures. -/
def names (scope : Scope) : List String :=
  scope.bindings.values ++ scope.procedures.values.map Procedure.name

/-- Whether a name is in use. -/
def isTaken (scope : Scope) (name : String) : Bool := scope.names.contains name

/-- The name bound to an id. -/
def name? (scope : Scope) (id : String) : Option String := scope.bindings.get? id

/-- Whether an id has a name. -/
def isDeclared (scope : Scope) (id : String) : Bool := scope.bindings.contains id

/-- The candidate, made fresh against the reserved words and the names in use. -/
def freshName (scope : Scope) (candidate : String) : String :=
  Identifier.fresh (Identifier.reserved ++ scope.names) candidate

/-- Binds an id on first sight and gives its name. An id that has a name keeps it. -/
def bind (scope : Scope) (id raw : String) : String × Scope :=
  match scope.name? id with
  | some name => (name, scope)
  | none =>
    let name := scope.freshName (Identifier.ofRaw raw)
    (name, { scope with bindings := scope.bindings.insert id name })

/-- Takes over a name that was chosen elsewhere. -/
def inherit (scope : Scope) (id name : String) : Scope :=
  { scope with bindings := scope.bindings.insert id name }

/-- The procedure with a given proccode. -/
def procedure? (scope : Scope) (proccode : String) : Option Procedure :=
  scope.procedures.get? proccode

/-- Registers a procedure under its proccode. -/
def register (scope : Scope) (proccode : String) (procedure : Procedure) : Scope :=
  { scope with procedures := scope.procedures.insert proccode procedure }

/-- The procedure that a block defines, if that block won its proccode. -/
def definedBy? (scope : Scope) (definition : String) : Option Procedure :=
  scope.procedures.values.find? fun p => p.definition == definition

end Scope

end BlockScribe
