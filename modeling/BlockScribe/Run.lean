import BlockScribe.Bundle
import BlockScribe.Descriptor
import BlockScribe.Output

/-! # A run

A run opens a project, reads it, loads the descriptors of its extensions, writes the sources of
its targets and, if it is told where, puts them into files. Each stage is announced before it
begins.

Notes on extensions go in front of those of the first target, so the report counts them there.
-/

namespace BlockScribe

/-- What a run is told beside where to read and write. -/
structure Options extends OutputOptions where
  extensionDirectories : List String := []
deriving DecidableEq, Repr

/-- The stages of a run, in order. -/
inductive Stage where
  | opening
  | parsing
  | loading
  | decompiling
  | writing
deriving DecidableEq, Repr

/-- The number of a stage. -/
def Stage.step : Stage → Nat
  | opening => 1
  | parsing => 2
  | loading => 3
  | decompiling => 4
  | writing => 5

/-- The wording of a stage. -/
def Stage.label : Stage → String
  | opening => "Opening project"
  | parsing => "Parsing project.json"
  | loading => "Loading extension signatures"
  | decompiling => "Decompiling targets"
  | writing => "Writing sources and assets"

/-- A stage that begins, and how many there are in all. -/
structure Progress where
  stage : Stage
  total : Nat
deriving DecidableEq, Repr

/-- What came of a run. -/
structure Report where
  scripts : List Script
  /-- What was written, if anything was. -/
  manifest : Option Manifest
  /-- What was noted on assets. -/
  assetDiagnostics : List Diagnostic

/-- The number of all notes. -/
def Report.diagnosticCount (report : Report) : Nat :=
  (report.scripts.flatMap Script.diagnostics).length + report.assetDiagnostics.length

/-- Puts notes in front of those of the first target. Without targets, they are dropped. -/
def noteFirst (notes : List Diagnostic) : List Script → List Script
  | [] => []
  | first :: rest => { first with diagnostics := notes ++ first.diagnostics } :: rest

/-- The number of stages: the last one only takes place if something is written. -/
def stageCount (output : Option String) : Nat := if output.isSome then 5 else 4

variable {m : Type → Type} [Monad m]

/-- Works on an opened project. -/
def processProject (files : Files m) (announce : Stage → m Unit) (options : Options)
    (output : Option String) (directory : String) : ExceptT Error m Report := do
  announce .parsing
  let project ← readProject files directory
  announce .loading
  let (table, notes) ← project.signatures (loadDescriptor files options.extensionDirectories)
  announce .decompiling
  let compiled ← ExceptT.mk (pure (project.scripts table))
  let scripts := noteFirst notes compiled
  match output with
  | none => return ⟨scripts, none, []⟩
  | some output =>
    announce .writing
    let (manifest, assetNotes) ←
      writeProject files options.toOutputOptions output directory project scripts
    return ⟨scripts, some manifest, assetNotes⟩

/-- Runs on the project at `input`. Without `output`, nothing is written. -/
def run (files : Files m) (announce : Progress → m Unit) (options : Options) (input : String)
    (output : Option String) : ExceptT Error m Report := do
  let tell (stage : Stage) : m Unit := announce ⟨stage, stageCount output⟩
  tell .opening
  withProject files input (processProject files tell options output)

end BlockScribe
