import BlockScribe.Error
import BlockScribe.Path

/-! # Files

A run asks for a handful of things outside of it: to look at paths, to read and write whole
files, to make directories, and to have a directory of its own for a while. `Files m` is that
list, in a monad of choice. Refusals are values, so that each caller says in which context it met
them.
-/

namespace BlockScribe

universe u

/-- What a run asks of a file system. -/
structure Files (m : Type → Type u) where
  /-- Whether a path leads to a file. -/
  isFile : String → m Bool
  /-- Whether a path leads to a directory. -/
  isDirectory : String → m Bool
  /-- The bytes of a file. -/
  read : String → m (Except FileFault ByteArray)
  /-- Makes the bytes the content of a file, new or old. -/
  write : String → ByteArray → m (Except FileFault Unit)
  /-- Makes a directory where nothing stands yet. -/
  createDirectory : String → m (Except FileFault Unit)
  /-- The path from the root without detours to what a path leads to. -/
  canonical : String → m (Except FileFault String)
  /-- Makes a directory that nobody else uses. -/
  scratchDirectory : m (Except FileFault String)
  /-- Removes a directory with all that is in it. -/
  removeTree : String → m Unit

/-- The same file system, seen from another monad. -/
def Files.lift {m n : Type → Type u} [MonadLiftT m n] (files : Files m) : Files n where
  isFile path := liftM (files.isFile path)
  isDirectory path := liftM (files.isDirectory path)
  read path := liftM (files.read path)
  write path bytes := liftM (files.write path bytes)
  createDirectory path := liftM (files.createDirectory path)
  canonical path := liftM (files.canonical path)
  scratchDirectory := liftM files.scratchDirectory
  removeTree path := liftM (files.removeTree path)

section Directories

variable {m : Type → Type u} [Monad m]

/-- Makes a directory, unless it is there. -/
def Files.ensureDirectory (files : Files m) (path : String) : m (Except FileFault Unit) := do
  match ← files.createDirectory path with
  | .ok _ => return .ok ()
  | .error fault => if ← files.isDirectory path then return .ok () else return .error fault

/-- Makes the first of some directories, each of which is the parent of the one in front of it.
Where one is missing on the way, those behind are made first. -/
def Files.ensureFirst (files : Files m) : List String → m (Except FileFault Unit)
  | [] => return .ok ()
  | path :: parents => do
    match ← files.ensureDirectory path with
    | .error .missing =>
      match ← files.ensureFirst parents with
      | .ok _ => files.ensureDirectory path
      | .error fault => return .error fault
    | outcome => return outcome

/-- Makes a directory and those on the way to it, where they are missing. The empty path asks for
nothing. -/
def Files.createDirectories (files : Files m) (path : String) : m (Except FileFault Unit) :=
  files.ensureFirst (Path.ancestors path)

end Directories

/-- A refusal of the file system as an error without context. -/
def FileFault.error (fault : FileFault) : Error := Error.ofCause (.file fault)

section Attempts

variable {m : Type → Type} [Monad m] {α : Type}

/-- Turns a refusal into an error without context. -/
def attempt (action : m (Except FileFault α)) : ExceptT Error m α :=
  ExceptT.mk (Except.mapError FileFault.error <$> action)

/-- Puts a context around the errors of a computation. -/
def during (context : Context) (action : ExceptT Error m α) : ExceptT Error m α :=
  ExceptT.mk (inContext context <$> action.run)

/-- The text of a file. -/
def Files.readText (files : Files m) (path : String) : ExceptT Error m String := do
  let bytes ← attempt (files.read path)
  match String.fromUTF8? bytes with
  | some text => return text
  | none => throw (FileFault.error .invalid)

end Attempts

end BlockScribe
