import BlockScribe.Emission.Render

/-! # The emitter

An emitter writes the blocks of one target and remembers between calls what the calls left
behind: the blocks that were being written when a call failed, the depth, and the diagnostics.
After a call that succeeds, no block is being written that was not before.
-/

namespace BlockScribe

/-- The state between two calls. -/
structure Emitter where
  sources : Sources
  /-- The blocks that count as being written. -/
  entered : List String
  /-- The levels that are in use. -/
  depth : Nat
  diagnostics : List Diagnostic

namespace Emitter

/-- An emitter that has not written anything. -/
def new (table : SignatureTable) (blocks : Dict String Block) : Emitter :=
  ⟨⟨table, blocks⟩, [], 0, []⟩

/-- The answer of a call, with the scope and the emitter that it leaves. -/
structure Outcome (α : Type) where
  result : Except BlockFault α
  scope : Scope
  emitter : Emitter

/-- The way to write blocks from the emitter's own level. -/
def nested (emitter : Emitter) : Nested :=
  emitAt emitter.sources (maxNesting - emitter.depth) emitter.entered

/-- Runs a rendering from the emitter's state. -/
def run {α : Type} (emitter : Emitter) (scope : Scope) (render : Render α) : Outcome α :=
  match EStateM.run render ⟨scope, emitter.diagnostics⟩ with
  | .ok value session =>
    ⟨.ok value, session.scope, { emitter with diagnostics := session.diagnostics }⟩
  | .error failure session =>
    ⟨.error failure.fault, session.scope,
      { emitter with diagnostics := session.diagnostics, entered := failure.entered }⟩

/-- The block with a given id. -/
def block (emitter : Emitter) (id : String) : Except BlockFault Block :=
  match emitter.sources.blocks.get? id with
  | some block => .ok block
  | none => .error (.missing id)

/-- Writes a script or a part of it. -/
def emit (emitter : Emitter) (scope : Scope) (id : String) (level : Nat) (mode : Mode) :
    Outcome String :=
  emitter.run scope (emitter.nested id level mode)

/-- Writes a call with arguments from the given slots of a block. -/
def call (emitter : Emitter) (scope : Scope) (block : Block) (name : String)
    (slots : List String) : Outcome String :=
  emitter.run scope (renderCall emitter.nested block name slots)

/-- Writes an assignment that declares its variable. -/
def declare (emitter : Emitter) (scope : Scope) (block : Block) : Outcome String :=
  emitter.run scope (renderDeclaration emitter.nested block)

/-- Writes an input of a block. -/
def input (emitter : Emitter) (scope : Scope) (block : Block) (content : Input) :
    Outcome (Option String) :=
  emitter.run scope (renderInput emitter.nested block content)

/-- Hands out the diagnostics and forgets them. -/
def takeDiagnostics (emitter : Emitter) : List Diagnostic × Emitter :=
  (emitter.diagnostics, { emitter with diagnostics := [] })

end Emitter

end BlockScribe
