import BlockScribe.CommandLine.Arguments

/-! # The command

The command resolves its input, runs, and prints sources or leaves them in files. Each stage is
told in a line with a bar that fills up as the stages go by; finding the input is the first of
them. At the end, the number of notes is told, if there are any.
-/

namespace BlockScribe.CommandLine

/-! ## Progress -/

/-- How much of a bar is filled, rounded to the nearest. -/
def filled (width step total : Nat) : Nat := (step * width + total / 2) / total

/-- A bar between brackets. -/
def bar (width step total : Nat) : String :=
  let count := filled width step total
  String.ofList ('[' :: ((List.range width).map fun i => if i < count then '=' else '-') ++ [']'])

/-- The line for a stage. -/
def progressLine (step total : Nat) (label : String) : String :=
  "[Decompile] " ++ label ++ "... (" ++ toString step ++ "/" ++ toString total ++ ") " ++
    bar 14 step total

/-- The line for finding the input. -/
def firstLine : String := progressLine 1 6 "Resolving input path"

/-- The line for a stage of the run. -/
def stageLine (progress : Progress) : String :=
  progressLine (1 + progress.stage.step) (1 + progress.total) progress.stage.label

/-! ## Running -/

/-- Where the command prints to. -/
structure Console (m : Type → Type) where
  /-- Prints to the standard output. -/
  print : String → m Unit
  /-- Prints a line for whoever watches. -/
  tell : String → m Unit

/-- A source on the standard output, under the name of its target. -/
def printed (script : Script) : String :=
  "/* " ++ script.name ++ " */\n" ++ script.source ++ "\n\n"

/-- The last line, if something was noted. -/
def closingLine? (count : Nat) : Option String :=
  if count = 0 then none
  else some ("Decompiled with " ++ toString count ++ " diagnostic(s); see the warnings above.")

variable {m : Type → Type} [Monad m]

/-- The path of the input without detours. -/
def resolveInput (files : Files m) (input : String) : ExceptT Error m String := do
  match ← files.canonical input with
  | .ok path => return path
  | .error _ => throw (Error.ofCause (.missingInput input))

/-- Does what the arguments ask for. -/
def execute (files : Files m) (console : Console m) (arguments : Arguments) :
    ExceptT Error m Unit := do
  console.tell firstLine
  let input ← resolveInput files arguments.input
  let output := arguments.output.getD (Path.defaultOutput input)
  let toFiles := !arguments.has .stdout
  let report ← run files (fun progress => console.tell (stageLine progress))
    arguments.options input (if toFiles then some output else none)
  if !toFiles then report.scripts.forM fun script => console.print (printed script)
  (closingLine? report.diagnosticCount).forM fun line => console.tell line

end BlockScribe.CommandLine
