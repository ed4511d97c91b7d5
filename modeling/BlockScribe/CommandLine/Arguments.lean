import BlockScribe.Run

/-! # Arguments

Arguments are read from left to right. A word with two dashes is an option, a word with one dash
is a row of flags of one letter, a single dash and every other word is a place: the input, then
the output. Behind a bare double dash, every word is a place.

A value is looked at only when the next argument asks for a place of its own, or at the end. So
an empty value is a fault that an unknown option behind it hides, and an option whose value is
missing is a fault only then, too.
-/

namespace BlockScribe.CommandLine

/-- Why arguments cannot be used. -/
inductive Fault where
  /-- There is no input. -/
  | missingInput
  /-- An option is not known, or there is one place too many. -/
  | unknown
  /-- A value is empty, or not there. -/
  | invalidValue
  /-- A flag is given twice. -/
  | repeatedFlag
  /-- A flag is given a value. -/
  | unexpectedValue
  /-- Nothing is wrong: help is asked for. -/
  | help
deriving DecidableEq, Repr

/-- What can be switched on. -/
inductive Flag where
  | noAssets
  | noManifest
  | verifyAssets
  | stdout
  | verbose
deriving DecidableEq, Repr

/-- What the arguments ask for. -/
structure Arguments where
  input : String
  output : Option String
  extensionDirectories : List String
  flags : List Flag
deriving DecidableEq, Repr

/-- Whether a flag is given. -/
def Arguments.has (arguments : Arguments) (flag : Flag) : Bool := arguments.flags.contains flag

/-- The options of the run. -/
def Arguments.options (arguments : Arguments) : Options where
  copyAssets := !arguments.has .noAssets
  verifyAssets := arguments.has .verifyAssets
  writeManifest := !arguments.has .noManifest
  extensionDirectories := arguments.extensionDirectories

/-! ## Words -/

/-- The form of an argument. -/
inductive Word where
  /-- The bare double dash. -/
  | escape
  /-- An option, and the value behind its equals sign. -/
  | option (name : String) (value : Option String)
  /-- A row of letters. -/
  | letters (row : List Char)
  | plain (text : String)
deriving DecidableEq, Repr

/-- Divides an option at its first equals sign. -/
def Word.ofOption (body : List Char) : Word :=
  match body.span (· != '=') with
  | (name, []) => .option (String.ofList name) none
  | (name, _ :: value) => .option (String.ofList name) (some (String.ofList value))

/-- Tells the form of an argument. -/
def Word.ofText (text : String) : Word :=
  match text.toList with
  | ['-', '-'] => .escape
  | '-' :: '-' :: body => Word.ofOption body
  | ['-'] => .plain text
  | '-' :: row => .letters row
  | _ => .plain text

/-! ## Reading -/

/-- Where a value goes. -/
inductive Slot where
  | input
  | output
  | extensionDirectory
deriving DecidableEq, Repr

/-- What is still to be looked at. -/
inductive Pending where
  | nothing
  /-- An option waits for its value. -/
  | awaiting (slot : Slot)
  | value (slot : Slot) (text : String)
deriving DecidableEq, Repr

/-- What has been read so far. -/
structure Draft where
  input : Option String := none
  output : Option String := none
  extensionDirectories : List String := []
  flags : List Flag := []
  /-- How many places have been taken. -/
  places : Nat := 0
  pending : Pending := .nothing

namespace Draft

/-- Puts a value where it goes. -/
def store (draft : Draft) (slot : Slot) (text : String) : Draft :=
  match slot with
  | .input => { draft with input := some text }
  | .output => { draft with output := some text }
  | .extensionDirectory =>
    { draft with extensionDirectories := draft.extensionDirectories ++ [text] }

/-- Looks at what is pending: a value must be there and must not be empty. -/
def settle (draft : Draft) : Except Fault Draft :=
  match draft.pending with
  | .nothing => .ok draft
  | .awaiting _ => .error .invalidValue
  | .value slot text =>
    if text.isEmpty then .error .invalidValue
    else .ok { draft.store slot text with pending := .nothing }

/-- Leaves something pending, once nothing else is. -/
def suspend (draft : Draft) (pending : Pending) : Except Fault Draft := do
  let draft ← draft.settle
  return { draft with pending := pending }

/-- Switches something on. -/
def raise (draft : Draft) (flag : Flag) : Except Fault Draft := do
  let draft ← draft.settle
  if draft.flags.contains flag then throw .repeatedFlag
  return { draft with flags := draft.flags ++ [flag] }

/-- Asks for help. -/
def help (draft : Draft) : Except Fault Draft := do
  let _ ← draft.settle
  throw .help

/-- What an option without a value asks for. -/
def flagAction? : String → Option (Draft → Except Fault Draft)
  | "no-assets" => some (raise · .noAssets)
  | "no-manifest" => some (raise · .noManifest)
  | "verify-assets" => some (raise · .verifyAssets)
  | "stdout" => some (raise · .stdout)
  | "verbose" => some (raise · .verbose)
  | "help" => some help
  | _ => none

/-- Reads an option. A value behind an equals sign is looked at once. -/
def readOption (draft : Draft) (name : String) (value : Option String) : Except Fault Draft :=
  if name = "extensions" then
    match value with
    | none => draft.suspend (.awaiting .extensionDirectory)
    | some text => do (← draft.suspend (.value .extensionDirectory text)).settle
  else
    match flagAction? name, value with
    | none, _ => .error .unknown
    | some _, some _ => .error .unexpectedValue
    | some action, none => action draft

/-- Reads a flag of one letter. -/
def readLetter (draft : Draft) (letter : Char) : Except Fault Draft :=
  match letter with
  | 'v' => draft.raise .verbose
  | 'h' => draft.help
  | _ => .error .unknown

/-- Reads a place. There are two of them. -/
def readPlace (draft : Draft) (text : String) : Except Fault Draft := do
  let slot ← match draft.places with
    | 0 => .ok Slot.input
    | 1 => .ok Slot.output
    | _ => .error .unknown
  let draft ← draft.suspend (.value slot text)
  return { draft with places := draft.places + 1 }

/-- Reads a plain word: the value that an option waits for, or a place. -/
def readPlain (draft : Draft) (text : String) : Except Fault Draft :=
  match draft.pending with
  | .awaiting slot => .ok { draft with pending := .value slot text }
  | _ => draft.readPlace text

/-- Reads arguments from left to right. -/
def read (draft : Draft) : List String → Except Fault Draft
  | [] => draft.settle
  | argument :: rest =>
    match Word.ofText argument with
    | .escape => do (← rest.foldlM readPlace draft).settle
    | .option name value => do read (← draft.readOption name value) rest
    | .letters row => do read (← row.foldlM readLetter draft) rest
    | .plain text => do read (← draft.readPlain text) rest

end Draft

/-- Reads arguments. -/
def Arguments.parse (arguments : List String) : Except Fault Arguments := do
  let draft ← ({} : Draft).read arguments
  match draft.input with
  | none => throw .missingInput
  | some input => return ⟨input, draft.output, draft.extensionDirectories, draft.flags⟩

end BlockScribe.CommandLine
