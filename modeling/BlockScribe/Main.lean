import BlockScribe.CommandLine.Command

/-! # The program

The outermost layer: the real file system and the real console.
-/

namespace BlockScribe.Main

open BlockScribe.CommandLine

/-- The reason for a refusal by the operating system. -/
def faultOf : IO.Error → FileFault
  | .noFileOrDirectory .. => .missing
  | _ => .refused

/-- Turns a refusal by the operating system into a value. -/
def guarded {α : Type} (action : IO α) : IO (Except FileFault α) := do
  try return .ok (← action)
  catch error => return .error (faultOf error)

/-- Whether a path leads to something of a given type. -/
def hasType (type : IO.FS.FileType) (path : String) : IO Bool := do
  try
    let real ← IO.FS.realPath path
    return (← real.metadata).type == type
  catch _ => return false

/-- The real file system. -/
def files : Files IO where
  isFile := hasType .file
  isDirectory := hasType .dir
  read path := guarded (IO.FS.readBinFile path)
  write path bytes := guarded (IO.FS.writeBinFile path bytes)
  createDirectory path := guarded (IO.FS.createDir path)
  canonical path := guarded (return (← IO.FS.realPath path).toString)
  scratchDirectory := guarded (return (← IO.FS.createTempDir).toString)
  removeTree path := IO.FS.removeDirAll path

/-- The real console. -/
def console : Console IO where
  print := IO.print
  tell := IO.eprintln

/-- How the program is called. -/
def usage : String := "\n".intercalate [
  "Decompile an .sb3 block project into BSL source files.",
  "",
  "Usage: blockscribe [OPTIONS] <INPUT> [OUTPUT]",
  "",
  "Arguments:",
  "  <INPUT>   An .sb3 archive or an extracted project directory.",
  "  [OUTPUT]  Output directory. Defaults to '<input stem>_bsl' next to the input.",
  "",
  "Options:",
  "      --extensions <DIR>  Directory of extension descriptor files (<id>.json). Repeatable.",
  "      --no-assets         Do not copy costume and sound files.",
  "      --no-manifest       Do not write manifest.json.",
  "      --verify-assets     Check each asset's md5 against its asset id.",
  "      --stdout            Print generated sources to stdout instead of writing files.",
  "  -v, --verbose           Enable debug logging.",
  "  -h, --help              Print help"]

/-- What is wrong with the arguments. -/
def complaint : CommandLine.Fault → String
  | .missingInput => "error: the required argument <INPUT> was not provided"
  | .unknown => "error: unexpected argument found"
  | .invalidValue => "error: a value is required but none was supplied"
  | .repeatedFlag => "error: a flag cannot be used multiple times"
  | .unexpectedValue => "error: unexpected value for a flag found"
  | .help => usage

/-- What stopped a run. -/
def describe (error : Error) : String :=
  "Error: " ++ if error.message.isEmpty then "the file could not be used." else error.message

/-- Runs the program and answers its exit code. -/
def exec (arguments : List String) : IO UInt32 := do
  match Arguments.parse arguments with
  | .error .help =>
    IO.println usage
    return 0
  | .error fault =>
    IO.eprintln (complaint fault)
    return 2
  | .ok parsed =>
    match ← (execute files console parsed).run with
    | .ok _ => return 0
    | .error error =>
      IO.eprintln (describe error)
      return 1

end BlockScribe.Main

/-- The program. -/
def main (arguments : List String) : IO UInt32 := BlockScribe.Main.exec arguments
