import BlockScribe.Archive.Directory
import BlockScribe.Files
import BlockScribe.Path
import BlockScribe.Project.Reader

/-! # Opening a project

A project is a directory with a `project.json` in it and the payloads of its assets beside that,
or an archive of such a directory. An archive is unpacked into a directory of its own, which is
there for as long as the work on the project lasts (`withProject`).

Unpacking writes only what stays inside: the name of an entry must not start at the root and must
never lead above the directory (`isEnclosed`).
-/

namespace BlockScribe

/-- The file that holds a project. -/
def projectFile : String := "project.json"

namespace Archive

/-- How far below its start a path leads, if it never leads above it or to the root. -/
def depth? : (depth : Nat) → List Path.Component → Option Nat
  | depth, [] => some depth
  | _, .root :: _ => none
  | depth, .here :: rest => depth? depth rest
  | depth, .name _ :: rest => depth? (depth + 1) rest
  | depth + 1, .up :: rest => depth? depth rest
  | 0, .up :: _ => none

/-- Whether the name of an entry stays inside the directory that it is unpacked into. -/
def isEnclosed (name : String) : Bool :=
  !name.toList.contains '\x00' && (depth? 0 (Path.components name)).isSome

/-- Whether an entry is a directory. -/
def Entry.isDirectory (entry : Entry) : Bool :=
  match entry.name.toList.getLast? with
  | some c => c == '/' || c == '\\'
  | none => false

/-- Whether an archive holds a project that can be unpacked. -/
def hasProject (entries : Entries) : Bool :=
  match entries.get? projectFile with
  | some entry => entry.packed.isSome
  | none => false

section Unpacking

variable {m : Type → Type} [Monad m]

/-- Writes an entry below a directory. Its file is there before its content is looked at. -/
def unpackEntry (files : Files m) (directory : String) (entry : Entry) : ExceptT Error m Unit := do
  let some packed := entry.packed | throw (Error.ofCause .archive)
  if entry.isDirectory then return
  if !isEnclosed entry.name then throw (Error.ofCause (.escapingEntry entry.name))
  let path := Path.join directory entry.name
  attempt (files.createDirectories (Path.parent path))
  during (.creating path) (attempt (files.write path .empty))
  let content ← attempt (pure packed.content)
  attempt (files.write path content)

/-- Writes the entries of an archive below a directory. -/
def unpack (files : Files m) (input directory : String) : ExceptT Error m Unit := do
  let bytes ← during (.opening input) (attempt (files.read input))
  match entries? bytes with
  | none => throw ((Error.ofCause .archive).within (.archive input))
  | some entries =>
    if !hasProject entries then throw (Error.ofCause (.missingProjectEntry input))
    entries.values.forM (unpackEntry files directory)

end Unpacking

end Archive

section Opening

variable {m : Type → Type} [Monad m] {α : Type}

/-- Works on the project in a directory. -/
def withDirectory (files : Files m) (input : String) (work : String → ExceptT Error m α) :
    ExceptT Error m α := do
  if ← files.isFile (Path.join input projectFile) then work input
  else throw (Error.ofCause (.missingProjectFile input))

/-- Works on the project in an archive, and cleans up behind it, however the work ends. -/
def withArchive (files : Files m) (input : String) (work : String → ExceptT Error m α) :
    ExceptT Error m α := do
  let directory ← during .workingDirectory (attempt files.scratchDirectory)
  ExceptT.mk do
    let outcome ← (Archive.unpack files input directory *> work directory).run
    files.removeTree directory
    return outcome

/-- Works on a project, given the directory in which it is then. -/
def withProject (files : Files m) (input : String) (work : String → ExceptT Error m α) :
    ExceptT Error m α := do
  if ← files.isDirectory input then withDirectory files input work
  else withArchive files input work

/-- Reads the project in a directory. -/
def readProject (files : Files m) (directory : String) : ExceptT Error m Project := do
  let path := Path.join directory projectFile
  let text ← during (.reading path) (files.readText path)
  during (.project path) (ExceptT.mk (pure (Project.parse text)))

end Opening

end BlockScribe
