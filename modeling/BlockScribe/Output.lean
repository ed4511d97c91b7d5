import BlockScribe.Checksum.Md5
import BlockScribe.Files
import BlockScribe.Json.Printer
import BlockScribe.Path
import BlockScribe.Script
import BlockScribe.Text.Lowercase

/-! # Writing a project out

Every target gets a directory of its own, with its source in it, its costumes and its sounds; a
manifest in front of them tells what is where.

Names in the file system must stay apart even where upper and lower case are the same: each name
is made fresh against the lower-cased forms of the names in use (`freshFileName`). In the
manifest, an asset is listed under its own name, made fresh against the names listed before.

A payload that is missing is noted and left out; one whose digest is not the asset's id is noted,
if that is asked for, and written all the same.
-/

namespace BlockScribe

/-- What is written beside the sources. -/
structure OutputOptions where
  copyAssets : Bool := true
  verifyAssets : Bool := false
  writeManifest : Bool := true
deriving DecidableEq, Repr

/-! ## The manifest -/

/-- Where the payload of an asset is. -/
structure AssetEntry where
  format : String
  path : String
deriving DecidableEq, Repr

/-- What was written for a target. -/
structure TargetEntry where
  name : String
  isStage : Bool
  source : String
  costumes : Dict String AssetEntry
  sounds : Dict String AssetEntry

/-- What was written for a project. -/
structure Manifest where
  targets : List TargetEntry

/-- An entry for an asset. -/
def AssetEntry.toJson (entry : AssetEntry) : Json :=
  .object [("format", .text entry.format), ("path", .text entry.path)]

/-- The entries for costumes or sounds. -/
def assetsJson (entries : Dict String AssetEntry) : Json :=
  .object (entries.entries.map fun e => (e.1, e.2.toJson))

/-- An entry for a target. -/
def TargetEntry.toJson (entry : TargetEntry) : Json :=
  .object [("name", .text entry.name), ("stage", .bool entry.isStage),
    ("source", .text entry.source), ("costumes", assetsJson entry.costumes),
    ("sounds", assetsJson entry.sounds)]

/-- The manifest as a document. -/
def Manifest.toJson (manifest : Manifest) : Json :=
  .object [("targets", .list (manifest.targets.map TargetEntry.toJson))]

/-- The file that holds the manifest. -/
def manifestFile : String := "manifest.json"

/-! ## Names of files and directories -/

/-- A bare name that differs from the names in use in more than the case of its letters. The
names in use are given in lower case. -/
def freshFileName (used : List String) (raw : String) : String :=
  Identifier.freshBy lowercase used (Identifier.ofRaw raw)

/-- The directories of targets, by their names. -/
def directoryNames : (used : List String) → (names : List String) → List String
  | _, [] => []
  | used, name :: rest =>
    let directory := freshFileName used name
    directory :: directoryNames (lowercase directory :: used) rest

/-- Every target has a directory. -/
theorem length_directoryNames (used names : List String) :
    (directoryNames used names).length = names.length := by
  induction names generalizing used with
  | nil => rfl
  | cons name rest ih => simp [directoryNames, ih]

/-- The path of the source in a target's directory. -/
def sourcePath (directory : String) : String := directory ++ "/" ++ directory ++ ".bsl"

/-- The path of a payload in a target's directory. -/
def assetPath (directory kind stem format : String) : String :=
  directory ++ "/" ++ kind ++ "/" ++ stem ++ "." ++ format

/-! ## Assets -/

/-- Where assets come from and go to. -/
structure Placement where
  options : OutputOptions
  /-- The directory that everything is written to. -/
  output : String
  /-- The directory of the payloads. -/
  payloads : String
  /-- The directory of the target. -/
  directory : String
  /-- The directory of the assets in it. -/
  kind : String

/-- The assets placed so far: their entries, the names of their files in lower case, and what
was noted. -/
structure Placed where
  entries : Dict String AssetEntry
  stems : List String
  diagnostics : List Diagnostic

namespace Placed

/-- Nothing is placed. -/
def empty : Placed := ⟨.empty, [], []⟩

/-- The name under which an asset is listed. -/
def key (placed : Placed) (asset : Asset) : String :=
  Identifier.fresh placed.entries.keys asset.name

/-- Lists an asset. -/
def list (placed : Placed) (asset : Asset) (path : String) : Placed :=
  { placed with entries := placed.entries.insert (placed.key asset) ⟨asset.dataFormat, path⟩ }

/-- Notes something. -/
def note (placed : Placed) (notice : Notice) : Placed :=
  { placed with diagnostics := placed.diagnostics ++ [⟨none, notice⟩] }

end Placed

/-- What the digest of a payload gives cause to note. -/
def Asset.mismatch? (asset : Asset) (payload : ByteArray) : Option Notice :=
  let digest := Checksum.md5 payload
  if digest = asset.assetId then none else some (.changedAsset asset.name digest asset.assetId)

section Writing

variable {m : Type → Type} [Monad m]

/-- Copies the payload of an asset under a fresh name, and lists it. -/
def Placement.copy (files : Files m) (p : Placement) (placed : Placed) (asset : Asset)
    (payload : ByteArray) : ExceptT Error m Placed := do
  let stem := freshFileName placed.stems asset.name
  let path := assetPath p.directory p.kind stem asset.dataFormat
  let destination := Path.join p.output path
  attempt (files.createDirectories (Path.parent destination))
  during (.writing destination) (attempt (files.write destination payload))
  return { placed.list asset path with stems := lowercase stem :: placed.stems }

/-- Places one more asset. Without copying, it is listed with the file that holds its payload. -/
def Placement.placeOne (files : Files m) (p : Placement) (placed : Placed) (asset : Asset) :
    ExceptT Error m Placed := do
  if !p.options.copyAssets then return placed.list asset asset.fileName
  let source := Path.join p.payloads asset.fileName
  if !(← files.isFile source) then
    return placed.note (.missingAsset asset.name asset.fileName)
  let payload ← during (.reading source) (attempt (files.read source))
  let notice := if p.options.verifyAssets then asset.mismatch? payload else none
  p.copy files (notice.elim placed placed.note) asset payload

/-- Places assets, one after the other. -/
def Placement.place (files : Files m) (p : Placement) (assets : List Asset) :
    ExceptT Error m Placed :=
  assets.foldlM (p.placeOne files) .empty

/-- Writes a target into its directory. -/
def writeTarget (files : Files m) (options : OutputOptions) (output payloads directory : String)
    (target : Target) (script : Script) : ExceptT Error m (TargetEntry × List Diagnostic) := do
  attempt (files.createDirectories (Path.join output directory))
  let source := sourcePath directory
  let path := Path.join output source
  during (.writing path) (attempt (files.write path (script.source ++ "\n").toUTF8))
  let costumes ← Placement.place files ⟨options, output, payloads, directory, "costumes"⟩
    target.costumes
  let sounds ← Placement.place files ⟨options, output, payloads, directory, "sounds"⟩
    target.sounds
  return (⟨script.name, script.isStage, source, costumes.entries, sounds.entries⟩,
    costumes.diagnostics ++ sounds.diagnostics)

/-- Writes targets into their directories, one after the other. -/
def writeTargets (files : Files m) (options : OutputOptions) (output payloads : String) :
    List (String × Target × Script) → ExceptT Error m (List (TargetEntry × List Diagnostic))
  | [] => return []
  | (directory, target, script) :: rest => do
    let first ← writeTarget files options output payloads directory target script
    let others ← writeTargets files options output payloads rest
    return first :: others

/-- Writes the sources and assets of a project. -/
def writeProject (files : Files m) (options : OutputOptions) (output payloads : String)
    (project : Project) (scripts : List Script) : ExceptT Error m (Manifest × List Diagnostic) := do
  during (.creating output) (attempt (files.createDirectories output))
  let directories := directoryNames [] (scripts.map Script.name)
  let written ← writeTargets files options output payloads
    (directories.zip (project.targets.zip scripts))
  let manifest : Manifest := ⟨written.map Prod.fst⟩
  if options.writeManifest then
    let path := Path.join output manifestFile
    during (.writing path) (attempt (files.write path manifest.toJson.pretty.toUTF8))
  return (manifest, written.flatMap Prod.snd)

end Writing

end BlockScribe
