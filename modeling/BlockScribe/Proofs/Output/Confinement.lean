import BlockScribe.FileTree
import BlockScribe.Output
import BlockScribe.Proofs.Files.Accesses
import BlockScribe.Proofs.Files.Resolution
import BlockScribe.Proofs.Naming

/-! # Where a project is written and its payloads are read

The names of targets and assets become bare words before they stand in a path, so a source and the
manifest always lie below the output directory. The format of an asset is put behind the name of
its copy as it is, and the file of its payload is taken as it is: slashes and dots in them lead
wherever they lead.

* `Placement.Touches`, `ProjectTouches`: the files that placing assets and writing a project ask
  for, whatever the file system answers (`logs_place`, `logs_writeProject`).
* `written_below_output_or_format_climbs`: the one way out of the output directory is a format that
  climbs out of it.
* `payloads_read_inside_or_name_climbs`: the same for the payloads, with names that begin at the
  root beside those that climb.
-/

namespace BlockScribe

open BlockScribe.Path

/-! ## Bare names in paths -/

namespace Identifier

theorem isPart_slash : Identifier.isPart '/' = false := by decide +kernel

theorem isPart_dot : Identifier.isPart '.' = false := by decide +kernel

theorem IsBare.slash_not_mem {name : String} (h : IsBare name) : '/' ∉ name.toList := by
  intro hmem
  have hpart := h.isPart '/' hmem
  rw [isPart_slash] at hpart
  cases hpart

/-- A bare name begins with a character, and it is not a dot. -/
theorem IsBare.toList_eq_cons {name : String} (h : IsBare name) :
    ∃ c rest, name.toList = c :: rest ∧ c ≠ '.' := by
  cases hlist : name.toList with
  | nil => exact absurd (String.toList_injective hlist) h.ne_empty
  | cons c rest =>
    refine ⟨c, rest, rfl, ?_⟩
    rintro rfl
    have hpart := h.isPart '.' (by simp [hlist])
    rw [isPart_dot] at hpart
    cases hpart

end Identifier

open Identifier (IsBare)

/-- A piece that does not begin with a dot is a name. -/
theorem ofPiece?_cons {c : Char} (h : c ≠ '.') (rest : List Char) :
    Component.ofPiece? (c :: rest) = some (.name (String.ofList (c :: rest))) := by
  unfold Component.ofPiece?
  split
  · rename_i hnil
    cases hnil
  · rename_i hdot
    cases hdot
    contradiction
  · rename_i hdots
    cases hdots
    contradiction
  · rfl

theorem isAbsolute_append_isBare {name : String} (h : IsBare name) (rest : String) :
    isAbsolute (name ++ rest) = false := by
  rcases h.toList_eq_cons with ⟨c, others, hlist, -⟩
  have hslash : c ≠ '/' := by
    rintro rfl
    exact h.slash_not_mem (by simp [hlist])
  unfold isAbsolute
  rw [String.toList_append, hlist]
  simpa using hslash

/-- A bare name in front of a text joins the first piece of it, which is a name then. -/
theorem way_append_isBare {name : String} (h : IsBare name) {rest piece : List Char}
    {others : List (List Char)} (hrest : pieces rest = piece :: others) :
    way (name.toList ++ rest) =
      .name (name ++ String.ofList piece) :: others.filterMap Component.ofPiece? := by
  rcases h.toList_eq_cons with ⟨c, cs, hlist, hdot⟩
  have hfirst : Component.ofPiece? (name.toList ++ piece) =
      some (.name (name ++ String.ofList piece)) := by
    have hname : String.ofList (name.toList ++ piece) = name ++ String.ofList piece := by
      apply String.toList_injective
      simp
    rw [← hname, hlist]
    exact ofPiece?_cons hdot _
  unfold way
  rw [pieces_append_of_not_mem h.slash_not_mem hrest, List.filterMap_cons, hfirst]

/-- A bare name and a slash are one step down. -/
theorem way_isBare_slash {name : String} (h : IsBare name) (rest : List Char) :
    way (name.toList ++ '/' :: rest) = .name name :: way rest := by
  have hempty : pieces [] = [[]] := rfl
  have hname := way_append_isBare h hempty
  rw [List.append_nil] at hname
  rw [way_append_slash, hname]
  simp

/-- What stands behind the first slash of a format. -/
def detour (format : String) : List Component :=
  (pieces format.toList).tail.filterMap Component.ofPiece?

/-- A stem, a dot and a format are one step down, and then whatever the format says. -/
theorem way_stem_format {stem : String} (h : IsBare stem) (format : String) :
    ∃ file, way (stem.toList ++ '.' :: format.toList) = .name file :: detour format := by
  obtain ⟨piece, others, hpieces⟩ := List.exists_cons_of_ne_nil (pieces_ne_nil format.toList)
  have hdot : pieces ('.' :: format.toList) = ('.' :: piece) :: others := by
    simp [pieces, hpieces]
  refine ⟨stem ++ String.ofList ('.' :: piece), ?_⟩
  rw [way_append_isBare h hdot]
  simp [detour, hpieces]

theorem descent?_sourcePath {directory : String} (h : IsBare directory) :
    descent? 0 (components (sourcePath directory)) = some 2 := by
  have hlist : (sourcePath directory).toList =
      directory.toList ++ '/' :: (directory.toList ++ '.' :: "bsl".toList) := by
    simp [sourcePath]
  have habsolute : isAbsolute (sourcePath directory) = false := by
    unfold sourcePath
    rw [String.append_assoc, String.append_assoc]
    exact isAbsolute_append_isBare h _
  rcases way_stem_format h "bsl" with ⟨file, hfile⟩
  have hdetour : detour "bsl" = [] := by decide +kernel
  rw [descent?_components habsolute, hlist, way_isBare_slash h, hfile, hdetour]
  rfl

theorem descent?_assetPath {directory kind stem : String} (hdirectory : IsBare directory)
    (hkind : IsBare kind) (hstem : IsBare stem) (format : String) :
    descent? 0 (components (assetPath directory kind stem format)) =
      descent? 3 (detour format) := by
  have hlist : (assetPath directory kind stem format).toList =
      directory.toList ++ '/' :: (kind.toList ++ '/' :: (stem.toList ++ '.' :: format.toList)) := by
    simp [assetPath]
  have habsolute : isAbsolute (assetPath directory kind stem format) = false := by
    unfold assetPath
    simp only [String.append_assoc]
    exact isAbsolute_append_isBare hdirectory _
  rcases way_stem_format hstem format with ⟨file, hfile⟩
  rw [descent?_components habsolute, hlist, way_isBare_slash hdirectory, way_isBare_slash hkind,
    hfile]
  rfl

/-- A name for a file is a bare name. -/
theorem isBare_freshFileName (used : List String) (raw : String) :
    IsBare (freshFileName used raw) := by
  rcases Identifier.extend_eq_suffixed (fun name => used.contains (lowercase name)) used.length
    (Identifier.ofRaw raw) with ⟨count, -, heq, -, -⟩
  have hname : freshFileName used raw = Identifier.suffixed (Identifier.ofRaw raw) count := heq
  rw [hname]
  exact (Identifier.isBare_ofRaw raw).suffixed count

theorem isBare_of_mem_directoryNames {used names : List String} {directory : String}
    (h : directory ∈ directoryNames used names) : IsBare directory := by
  induction names generalizing used with
  | nil => exact absurd h List.not_mem_nil
  | cons name rest ih =>
    unfold directoryNames at h
    rcases List.mem_cons.1 h with rfl | hrest
    · exact isBare_freshFileName used name
    · exact ih hrest

/-! ## What is asked of the file system -/

/-- The files that placing assets asks for: the payloads, and the copies of them. -/
inductive Placement.Touches (p : Placement) (assets : List Asset) : Access → Prop
  | payload {asset : Asset} (hmem : asset ∈ assets) :
    Touches p assets (.read (join p.payloads asset.fileName))
  | copy {asset : Asset} (hmem : asset ∈ assets) {stem : String} (hstem : IsBare stem) :
    Touches p assets (.write (join p.output (assetPath p.directory p.kind stem asset.dataFormat)))

section Placing

variable {W : Type} {files : Files (StateM W)} {p : Placement} {assets : List Asset}

theorem logs_copy {asset : Asset} (hmem : asset ∈ assets) (placed : Placed) (payload : ByteArray) :
    LogsExcept (p.Touches assets) (p.copy files.logged placed asset payload)
      (p.copy files placed asset payload) := by
  unfold Placement.copy
  refine (logsExcept_attempt (logs_createDirectories _)).bind fun _ => ?_
  have hwrite : p.Touches assets (.write (join p.output
      (assetPath p.directory p.kind (freshFileName placed.stems asset.name) asset.dataFormat))) :=
    .copy hmem (isBare_freshFileName placed.stems asset.name)
  refine ((logsExcept_attempt (logs_write hwrite payload)).during _).bind fun _ => ?_
  exact logsExcept_pure _

theorem logs_placeOne {asset : Asset} (hmem : asset ∈ assets) (placed : Placed) :
    LogsExcept (p.Touches assets) (p.placeOne files.logged placed asset)
      (p.placeOne files placed asset) := by
  unfold Placement.placeOne
  cases p.options.copyAssets with
  | false => exact logsExcept_pure _
  | true =>
    refine (logsExcept_lift (logs_lift _)).bind fun known => ?_
    cases known with
    | false => exact logsExcept_pure _
    | true =>
      have hread : p.Touches assets (.read (join p.payloads asset.fileName)) := .payload hmem
      refine ((logsExcept_attempt (logs_read hread)).during _).bind fun payload => ?_
      exact logs_copy hmem _ payload

/-- Whatever the file system answers, placing assets asks for their payloads and their copies. -/
theorem logs_place : LogsExcept (p.Touches assets) (p.place files.logged assets)
    (p.place files assets) := by
  have hfold : ∀ (list : List Asset) (placed : Placed), (∀ asset ∈ list, asset ∈ assets) →
      LogsExcept (p.Touches assets) (list.foldlM (p.placeOne files.logged) placed)
        (list.foldlM (p.placeOne files) placed) := by
    intro list
    induction list with
    | nil => exact fun placed _ => logsExcept_pure placed
    | cons asset rest ih =>
      intro placed hlist
      rw [List.foldlM_cons, List.foldlM_cons]
      refine (logs_placeOne (hlist asset List.mem_cons_self) placed).bind fun next => ?_
      exact ih next fun other hother => hlist other (List.mem_cons_of_mem _ hother)
  exact hfold assets .empty fun _ h => h

end Placing

/-- The files that writing a project asks for: its manifest, the sources of its targets, and what
placing their assets asks for. -/
inductive ProjectTouches (options : OutputOptions) (output payloads : String) (project : Project) :
    Access → Prop
  | manifest : ProjectTouches options output payloads project (.write (join output manifestFile))
  | source {directory : String} (hdirectory : IsBare directory) :
    ProjectTouches options output payloads project (.write (join output (sourcePath directory)))
  | asset {directory kind : String} (hdirectory : IsBare directory) (hkind : IsBare kind)
    {target : Target} (htarget : target ∈ project.targets) {assets : List Asset}
    (hassets : assets ⊆ target.costumes ++ target.sounds) {access : Access}
    (htouches : Placement.Touches ⟨options, output, payloads, directory, kind⟩ assets access) :
    ProjectTouches options output payloads project access

section Writing

variable {W : Type} {files : Files (StateM W)} {options : OutputOptions}
  {output payloads : String} {project : Project}

theorem isBare_of_ofRaw_eq {name : String} (h : Identifier.ofRaw name = name) : IsBare name := by
  have hbare := Identifier.isBare_ofRaw name
  rwa [h] at hbare

theorem logs_writeTarget {directory : String} (hdirectory : IsBare directory) {target : Target}
    (htarget : target ∈ project.targets) (script : Script) :
    LogsExcept (ProjectTouches options output payloads project)
      (writeTarget files.logged options output payloads directory target script)
      (writeTarget files options output payloads directory target script) := by
  -- both kinds of assets are placed alike, below the directory of the target
  have hassets : ∀ {kind : String} (_ : Identifier.ofRaw kind = kind) {assets : List Asset}
      (_ : assets ⊆ target.costumes ++ target.sounds),
      LogsExcept (ProjectTouches options output payloads project)
        (Placement.place files.logged ⟨options, output, payloads, directory, kind⟩ assets)
        (Placement.place files ⟨options, output, payloads, directory, kind⟩ assets) := by
    intro kind hkind assets hsub
    refine logs_place.mono fun access htouches => ?_
    exact .asset hdirectory (isBare_of_ofRaw_eq hkind) htarget hsub htouches
  unfold writeTarget
  -- making directories is no write
  refine (logsExcept_attempt (logs_createDirectories _)).bind fun _ => ?_
  refine ((logsExcept_attempt (logs_write (.source hdirectory) _)).during _).bind fun _ => ?_
  refine (hassets (by decide +kernel) (List.subset_append_left _ _)).bind fun costumes => ?_
  refine (hassets (by decide +kernel) (List.subset_append_right _ _)).bind fun sounds => ?_
  exact logsExcept_pure _

theorem logs_writeTargets {targets : List (String × Target × Script)}
    (htargets : ∀ t ∈ targets, IsBare t.1 ∧ t.2.1 ∈ project.targets) :
    LogsExcept (ProjectTouches options output payloads project)
      (writeTargets files.logged options output payloads targets)
      (writeTargets files options output payloads targets) := by
  induction targets with
  | nil => exact logsExcept_pure _
  | cons t rest ih =>
    obtain ⟨directory, target, script⟩ := t
    have hfirst := htargets (directory, target, script) List.mem_cons_self
    have hrest := ih fun other hother => htargets other (List.mem_cons_of_mem _ hother)
    unfold writeTargets
    refine (logs_writeTarget hfirst.1 hfirst.2 script).bind fun _ => ?_
    exact hrest.bind fun _ => logsExcept_pure _

/-- Whatever the file system answers, writing a project asks for its sources, its manifest and the
payloads and copies of its assets. -/
theorem logs_writeProject (scripts : List Script) :
    LogsExcept (ProjectTouches options output payloads project)
      (writeProject files.logged options output payloads project scripts)
      (writeProject files options output payloads project scripts) := by
  unfold writeProject
  refine ((logsExcept_attempt (logs_createDirectories _)).during _).bind fun _ => ?_
  -- every target is written into one of the names found for the directories
  have htargets : ∀ t ∈ (directoryNames [] (scripts.map Script.name)).zip
      (project.targets.zip scripts), IsBare t.1 ∧ t.2.1 ∈ project.targets := by
    rintro ⟨directory, target, script⟩ hmem
    have hparts := List.of_mem_zip hmem
    exact ⟨isBare_of_mem_directoryNames hparts.1, (List.of_mem_zip hparts.2).1⟩
  refine (logs_writeTargets htargets).bind fun written => ?_
  cases options.writeManifest with
  | false => exact logsExcept_pure _
  | true =>
    refine ((logsExcept_attempt (logs_write .manifest _)).during _).bind fun _ => ?_
    exact logsExcept_pure _

end Writing

/-! ## What is written -/

/-- Whether the copy of an asset stays below the output directory, wherever that is. The copy stands
three levels below, and its format may lead on from there, but neither above that directory on its
way nor to it at its end. -/
def Asset.StaysBelow (asset : Asset) : Prop :=
  ∃ depth, descent? 3 (detour asset.dataFormat) = some (depth + 1)

theorem assetPath_stays_iff {directory kind stem : String} (hdirectory : IsBare directory)
    (hkind : IsBare kind) (hstem : IsBare stem) (asset : Asset) :
    (∀ base, (resolve (join base (assetPath directory kind stem asset.dataFormat))).IsBelow
      (resolve base)) ↔ asset.StaysBelow := by
  rw [forall_isBelow_iff, descent?_assetPath hdirectory hkind hstem]
  rfl

/-- Everything that is written for a project lies strictly below the output directory, but for
the copy of an asset whose format climbs; and of such a copy it is not so for all directories. -/
theorem ProjectTouches.isBelow_or_climbs {options : OutputOptions} {output payloads : String}
    {project : Project} {path : String}
    (h : ProjectTouches options output payloads project (.write path)) :
    (resolve path).IsBelow (resolve output) ∨
      ∃ target ∈ project.targets, ∃ asset ∈ target.costumes ++ target.sounds,
        ∃ directory kind stem, path = join output (assetPath directory kind stem asset.dataFormat) ∧
          ¬ asset.StaysBelow ∧
          ¬ ∀ base, (resolve (join base
            (assetPath directory kind stem asset.dataFormat))).IsBelow (resolve base) := by
  cases h with
  | manifest =>
    -- the manifest is one level down, a source two
    have hdescent : descent? 0 (components manifestFile) = some 1 := by decide +kernel
    exact .inl ((forall_isBelow_iff manifestFile).2 ⟨0, hdescent⟩ output)
  | source hdirectory =>
    exact .inl ((forall_isBelow_iff _).2 ⟨1, descent?_sourcePath hdirectory⟩ output)
  | asset hdirectory hkind htarget hassets htouches =>
    cases htouches with
    | @copy asset hmem stem hstem =>
      have hiff := assetPath_stays_iff hdirectory hkind hstem asset
      -- the copy of an asset stays below exactly if its format does not climb
      by_cases hstays : asset.StaysBelow
      · exact .inl (hiff.2 hstays output)
      · refine .inr ⟨_, htarget, asset, hassets hmem, _, _, stem, rfl, hstays, ?_⟩
        exact fun hall => hstays (hiff.1 hall)

/-- On every file system, a file that writing a project creates or overwrites lies strictly below
the output directory, unless it is the copy of an asset whose format climbs out of it. -/
theorem written_below_output_or_format_climbs {W : Type} (files : Files (StateM W))
    (options : OutputOptions) (output payloads : String) (project : Project)
    (scripts : List Script) (world : W) :
    let action := (writeProject files.logged options output payloads project scripts).run
    outcome action world =
        (writeProject files options output payloads project scripts).run.run world ∧
    ∀ path, .write path ∈ accesses action world →
      (resolve path).IsBelow (resolve output) ∨
      ∃ target ∈ project.targets, ∃ asset ∈ target.costumes ++ target.sounds,
        ∃ directory kind stem, path = join output (assetPath directory kind stem asset.dataFormat) ∧
          ¬ asset.StaysBelow ∧
          ¬ ∀ base, (resolve (join base
            (assetPath directory kind stem asset.dataFormat))).IsBelow (resolve base) := by
  intro action
  have hlogs : LogsExcept (ProjectTouches options output payloads project)
      (writeProject files.logged options output payloads project scripts)
      (writeProject files options output payloads project scripts) := logs_writeProject scripts
  refine ⟨hlogs.outcome_eq world, ?_⟩
  intro path hmem
  exact (hlogs.allowed_of_mem hmem).isBelow_or_climbs

/-- A file system with the payloads of a project, the output of an earlier run, and a file beside
both. -/
def den : FileTree where
  nodes := Dict.ofList [
    (["den"], .directory),
    (["den", "t.svg"], .file "tail".toUTF8),
    (["hen"], .file "egg".toUTF8),
    (["out"], .directory),
    (["out", "Fox"], .directory),
    (["out", "Fox", "costumes"], .directory),
    (["out", "Fox", "costumes", "tail.svg"], .directory)]
  current := []
  scratch := ["scratch"]

/-- An asset whose format climbs. -/
def foxTail : Asset := ⟨"tail", "t", "svg/../../../../yard", "t.svg"⟩

def fox : Project where
  targets := [⟨"Fox", false, .empty, .empty, .empty, [foxTail], []⟩]
  extensions := []
  extensionUrls := .empty

def foxScripts : List Script := [⟨"Fox", false, Script.header, []⟩]

theorem accesses_fox :
    accesses (writeProject FileTree.files.logged {} "out" "den" fox foxScripts).run den =
      [.write "out/Fox/Fox.bsl", .read "den/t.svg",
        .write "out/Fox/costumes/tail.svg/../../../../yard", .write "out/manifest.json"] := by
  decide +kernel

theorem fox_yard_not_isBelow :
    ¬ (resolve "out/Fox/costumes/tail.svg/../../../../yard").IsBelow (resolve "out") := by
  decide +kernel

/-- The copy of the asset is written outside of the output directory, beside it. -/
theorem fox_tail_is_copied_outside :
    let action := (writeProject FileTree.files.logged {} "out" "den" fox foxScripts).run
    let path := "out/Fox/costumes/tail.svg/../../../../yard"
    .write path ∈ accesses action den ∧ ¬ (resolve path).IsBelow (resolve "out") ∧
      (outcome action den).2.read "yard" = .ok "tail".toUTF8 := by
  refine ⟨?_, fox_yard_not_isBelow, by decide +kernel⟩
  rw [accesses_fox]
  simp

/-- The copy outside of the output directory is that of an asset whose format climbs. -/
theorem fox_tail_climbs :
    let action := (writeProject FileTree.files.logged {} "out" "den" fox foxScripts).run
    let path := "out/Fox/costumes/tail.svg/../../../../yard"
    .write path ∈ accesses action den ∧
    ∃ target ∈ fox.targets, ∃ asset ∈ target.costumes ++ target.sounds,
      ∃ directory kind stem, path = join "out" (assetPath directory kind stem asset.dataFormat) ∧
        ¬ asset.StaysBelow ∧
        ¬ ∀ base, (resolve (join base
          (assetPath directory kind stem asset.dataFormat))).IsBelow (resolve base) := by
  intro action path
  have hmem : .write path ∈ accesses action den := by
    rw [accesses_fox]
    simp [path]
  refine ⟨hmem, ?_⟩
  -- the yard is not below the output, so it is the other case
  rcases (written_below_output_or_format_climbs FileTree.files {} "out" "den" fox foxScripts
    den).2 path hmem with hbelow | hclimbs
  · exact absurd hbelow fox_yard_not_isBelow
  · exact hclimbs

/-! ## What is read -/

/-- On every file system, a payload that placing assets reads lies inside the directory of the
payloads, unless the name of its file climbs out of it or begins at the root. -/
theorem payloads_read_inside_or_name_climbs {W : Type} (files : Files (StateM W)) (p : Placement)
    (assets : List Asset) (world : W) :
    let action := (p.place files.logged assets).run
    outcome action world = (p.place files assets).run.run world ∧
    ∀ path, .read path ∈ accesses action world →
      ∃ asset ∈ assets, path = join p.payloads asset.fileName ∧
        ((resolve path).IsWithin (resolve p.payloads) ∨
          descent? 0 (components asset.fileName) = none ∧
            ¬ ∀ base, (resolve (join base asset.fileName)).IsWithin (resolve base)) := by
  intro action
  have hlogs : LogsExcept (p.Touches assets) (p.place files.logged assets)
      (p.place files assets) := logs_place
  refine ⟨hlogs.outcome_eq world, ?_⟩
  intro path hmem
  cases hlogs.allowed_of_mem hmem with
  | @payload asset hasset =>
    refine ⟨asset, hasset, rfl, ?_⟩
    -- a name that never climbs stays inside of every directory, and only such a name
    have hiff := forall_isWithin_iff asset.fileName
    cases hdescent : descent? 0 (components asset.fileName) with
    | some depth => exact .inl (hiff.2 (by simp [hdescent]) p.payloads)
    | none =>
      refine .inr ⟨rfl, ?_⟩
      intro hall
      have hsome := hiff.1 hall
      rw [hdescent] at hsome
      cases hsome

/-- An asset whose file stands beside the payloads. -/
def foxPrey : Asset := ⟨"prey", "p", "txt", "../hen"⟩

def foxPlacement : Placement := ⟨{}, "out", "den", "Fox", "sounds"⟩

theorem accesses_foxPrey :
    accesses (foxPlacement.place FileTree.files.logged [foxPrey]).run den =
      [.read "den/../hen", .write "out/Fox/sounds/prey.txt"] := by
  decide +kernel

theorem fox_hen_not_isWithin : ¬ (resolve "den/../hen").IsWithin (resolve "den") := by
  decide +kernel

/-- A file beside the payloads is read as one of them, and copied. -/
theorem fox_prey_is_read_outside :
    let action := (foxPlacement.place FileTree.files.logged [foxPrey]).run
    let path := "den/../hen"
    .read path ∈ accesses action den ∧ ¬ (resolve path).IsWithin (resolve "den") ∧
      (outcome action den).2.read "out/Fox/sounds/prey.txt" = .ok "egg".toUTF8 := by
  refine ⟨?_, fox_hen_not_isWithin, by decide +kernel⟩
  rw [accesses_foxPrey]
  simp

/-- The file that is read outside is that of an asset whose name climbs. -/
theorem fox_prey_climbs :
    let action := (foxPlacement.place FileTree.files.logged [foxPrey]).run
    let path := "den/../hen"
    .read path ∈ accesses action den ∧
    ∃ asset ∈ [foxPrey], path = join "den" asset.fileName ∧
      descent? 0 (components asset.fileName) = none ∧
        ¬ ∀ base, (resolve (join base asset.fileName)).IsWithin (resolve base) := by
  intro action path
  have hmem : .read path ∈ accesses action den := by
    rw [accesses_foxPrey]
    simp [path]
  refine ⟨hmem, ?_⟩
  -- the hen is not inside of the den, so it is the other case
  rcases (payloads_read_inside_or_name_climbs FileTree.files foxPlacement [foxPrey] den).2 path
    hmem with ⟨asset, hasset, hpath, hinside | hclimbs⟩
  · exact absurd hinside fox_hen_not_isWithin
  · exact ⟨asset, hasset, hpath, hclimbs⟩

end BlockScribe
