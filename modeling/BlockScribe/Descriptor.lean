import BlockScribe.Extension
import BlockScribe.Files
import BlockScribe.Path

/-! # Finding descriptors

The descriptor of an extension is a file: the one that the project names, if that is a file whose
extension is `json`, and otherwise the first file named after the extension in the directories
to search.
-/

namespace BlockScribe

variable {m : Type → Type} [Monad m]

/-- The first path that leads to a file. -/
def Files.firstFile? (files : Files m) : List String → m (Option String)
  | [] => return none
  | path :: rest => do
    if ← files.isFile path then return some path else firstFile? files rest

/-- The paths where the descriptor of an extension may be, in the order of preference. -/
def ExtensionUse.candidates (directories : List String) (use : ExtensionUse) : List String :=
  use.locator.toList.filter (fun path => Path.extension? path == some "json") ++
    directories.map fun directory => Path.join directory (use.id ++ ".json")

/-- Reads the descriptor of an extension, if there is one. -/
def loadDescriptor (files : Files m) (directories : List String) (use : ExtensionUse) :
    ExceptT Error m (Option Extension) := do
  match ← files.firstFile? (use.candidates directories) with
  | none => return none
  | some path =>
    let text ← during (.reading path) (files.readText path)
    some <$> during (.descriptor path) (ExceptT.mk (pure (Extension.parse text)))

end BlockScribe
