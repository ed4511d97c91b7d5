import BlockScribe.Output
import BlockScribe.Proofs.Output.Confinement
import BlockScribe.Proofs.Text.Lines
import Mathlib.Data.List.Nodup

/-! # Names that stay apart in lower case

The search for a file name appends underscores to a name as it is written, while the names that it
must avoid are in lower case. Lower-casing can change the length of a name, and what becomes of a
capital sigma depends on the letters around it. But an underscore is no letter and no mark: it
stays an underscore, and it tells nothing about a sigma in front of it that the end of the name
would not tell (`lowercase_suffixed`). So the candidates stay apart in lower case as well, the
search ends with a free name (`lowercase_freshFileName_not_mem`), and the names that are chosen one
after the other are different in more than the case of their letters
(`nodup_lowercase_directoryNames`).

With such names the paths of a project stay apart. A path that leads nowhere but down is told by its
`address`, the names on its way: a source has two of them, a copy has three, the manifest has one,
and the names have no dots that could blur a stem and its format (`nodup_projectPaths`).
-/

namespace BlockScribe

open BlockScribe.Path

/-! ## Underscores in lower case -/

namespace Lowercase

theorem isIgnorable_underscore : isIgnorable '_' = false := rfl

theorem isCased_underscore : isCased '_' = false := rfl

theorem ofChar_underscore : ofChar '_' = ['_'] := rfl

/-- No letter stands behind a text if there are only underscores behind it. -/
theorem startsCased_append_underscores (cs : List Char) (count : Nat) :
    startsCased (cs ++ List.replicate count '_') = startsCased cs := by
  unfold startsCased
  rw [List.dropWhile_append]
  cases hdrop : cs.dropWhile isIgnorable with
  | cons c rest => rfl
  | nil =>
    -- nothing in the text counts, so the first underscore is looked at
    cases count with
    | zero => rfl
    | succ count => simp [List.replicate_succ, isIgnorable_underscore, isCased_underscore]

theorem after_underscores (before : List Char) (count : Nat) :
    after before (List.replicate count '_') = List.replicate count '_' := by
  induction count generalizing before with
  | zero => rfl
  | succ count ih =>
    have hsigma : ¬ '_' = 'Σ' := by decide
    rw [List.replicate_succ, after, if_neg hsigma, ofChar_underscore, ih]
    rfl

theorem after_append_underscores (before cs : List Char) (count : Nat) :
    after before (cs ++ List.replicate count '_') =
      after before cs ++ List.replicate count '_' := by
  induction cs generalizing before with
  | nil => exact after_underscores before count
  | cons c rest ih =>
    rw [List.cons_append, after, after, ih, sigma, sigma, startsCased_append_underscores,
      List.append_assoc]

end Lowercase

open Identifier (IsBare suffixed)

/-- Underscores behind a name stay what they are in lower case, and so does what stands before
them. -/
theorem lowercase_suffixed (name : String) (count : Nat) :
    lowercase (suffixed name count) = suffixed (lowercase name) count := by
  apply String.toList_injective
  simp [lowercase, Lowercase.after_append_underscores]

/-! ## Fresh names -/

theorem lowercase_freshFileName_not_mem (used : List String) (raw : String) :
    lowercase (freshFileName used raw) ∉ used :=
  Identifier.freshBy_not_mem lowercase_suffixed used (Identifier.ofRaw raw)

/-- None of the names chosen one after the other is in use, or chosen before, in lower case. -/
theorem nodup_lowercase_directoryNames (used names : List String) :
    ((directoryNames used names).map lowercase).Nodup ∧
      ∀ directory ∈ directoryNames used names, lowercase directory ∉ used := by
  induction names generalizing used with
  | nil => simp [directoryNames]
  | cons name rest ih =>
    rcases ih (lowercase (freshFileName used name) :: used) with ⟨hnodup, hapart⟩
    rw [directoryNames, List.map_cons, List.nodup_cons, List.forall_mem_cons]
    refine ⟨⟨?_, hnodup⟩, lowercase_freshFileName_not_mem used name, ?_⟩
    · intro hmem
      rcases List.mem_map.1 hmem with ⟨directory, hdirectory, heq⟩
      exact hapart directory hdirectory (by simp [heq])
    · intro directory hdirectory hused
      exact hapart directory hdirectory (List.mem_cons_of_mem _ hused)

theorem nodup_directoryNames (used names : List String) : (directoryNames used names).Nodup :=
  List.Nodup.of_map lowercase (nodup_lowercase_directoryNames used names).1

/-- The names chosen so far do not depend on what follows, and the next one avoids them. -/
theorem directoryNames_append (used names others : List String) :
    directoryNames used (names ++ others) =
      directoryNames used names ++
        directoryNames (((directoryNames used names).map lowercase).reverse ++ used) others := by
  induction names generalizing used with
  | nil => rfl
  | cons name rest ih =>
    rw [List.cons_append, directoryNames, directoryNames, ih]
    simp

/-- A bare name is a single component of a path. -/
theorem components_of_isBare {name : String} (h : IsBare name) :
    components name = [.name name] := by
  rcases h.toList_eq_cons with ⟨c, rest, hlist, hdot⟩
  have hslash := h.slash_not_mem
  -- a bare name has no slash, so it is one piece
  have hpieces : pieces (c :: rest) = [c :: rest] := by
    have hempty : pieces [] = [[]] := rfl
    have hone := pieces_append_of_not_mem hslash hempty
    rwa [List.append_nil, hlist] at hone
  have hname : String.ofList (c :: rest) = name := by
    rw [← hlist, String.ofList_toList]
  unfold components
  rw [hlist]
  split
  · -- nor does it begin with one
    rename_i heq
    rw [hlist, (List.cons.inj heq).1] at hslash
    exact absurd List.mem_cons_self hslash
  · rw [hpieces]
    -- and it is no dot, which only the first piece could be
    have hfirst : Component.ofFirst? (c :: rest) = Component.ofPiece? (c :: rest) := by
      unfold Component.ofFirst?
      split
      · rename_i heq
        exact absurd (List.cons.inj heq).1 hdot
      · rfl
    simp [hfirst, ofPiece?_cons hdot, hname]

/-! ## Paths -/

/-- The names on the way of a path. -/
def address (path : String) : List String :=
  (way path.toList).filterMap fun
    | .name text => some text
    | _ => none

/-- A path leads nowhere but down. -/
structure LeadsDown (path : String) : Prop where
  relative : isAbsolute path = false
  way_eq : way path.toList = (address path).map .name

theorem leadsDown_of_way {path : String} {names : List String} (hrelative : isAbsolute path = false)
    (hway : way path.toList = names.map .name) : LeadsDown path ∧ address path = names := by
  have haddress : address path = names := by
    unfold address
    rw [hway, List.filterMap_map]
    exact List.filterMap_some
  exact ⟨⟨hrelative, by rw [haddress, hway]⟩, haddress⟩

/-- Steps down are taken one after the other. -/
theorem Path.Location.walk_names (location : Location) (names : List String) :
    location.walk (names.map .name) = location.below names := by
  induction names generalizing location with
  | nil => exact (Location.below_nil location).symm
  | cons name rest ih =>
    rw [List.map_cons, Location.walk_cons, ih]
    simp [Location.step, Location.below]

/-- A path that leads down leads from a directory to its address below it. -/
theorem LeadsDown.resolve_join {path : String} (h : LeadsDown path) (base : String) :
    resolve (join base path) = (resolve base).below (address path) := by
  rw [Path.resolve_join h.relative, walk_components h.relative, h.way_eq, Location.walk_names]

theorem Path.Location.below_injective (location : Location) :
    Function.Injective location.below := by
  intro names others h
  exact List.append_cancel_left (congrArg Location.names h)

/-- Paths that lead down to different addresses lead to different places from every directory. -/
theorem nodup_resolve_join {paths : List String} (hdown : ∀ path ∈ paths, LeadsDown path)
    (hnodup : (paths.map address).Nodup) (base : String) :
    ((paths.map (join base)).map resolve).Nodup := by
  have hresolve : (paths.map (join base)).map resolve =
      (paths.map address).map (resolve base).below := by
    rw [List.map_map, List.map_map]
    exact List.map_congr_left fun path hpath => (hdown path hpath).resolve_join base
  rw [hresolve]
  exact hnodup.map (Location.below_injective _)

theorem leadsDown_manifestFile :
    LeadsDown manifestFile ∧ address manifestFile = ["manifest.json"] :=
  leadsDown_of_way rfl rfl

/-- A stem, a dot and a format without slashes are one step down. -/
theorem way_stem_dot {stem format : String} (hstem : IsBare stem) (hformat : '/' ∉ format.toList) :
    way (stem.toList ++ '.' :: format.toList) = [.name (stem ++ "." ++ format)] := by
  have hempty : pieces [] = [[]] := rfl
  have hone : pieces ('.' :: format.toList) = ['.' :: format.toList] := by
    have hdot : '/' ∉ '.' :: format.toList := by simpa using hformat
    have hpieces := pieces_append_of_not_mem hdot hempty
    rwa [List.append_nil] at hpieces
  have hfile : stem ++ String.ofList ('.' :: format.toList) = stem ++ "." ++ format := by
    apply String.toList_injective
    simp
  rw [way_append_isBare hstem hone, hfile]
  rfl

theorem leadsDown_sourcePath {directory : String} (h : IsBare directory) :
    LeadsDown (sourcePath directory) ∧
      address (sourcePath directory) = [directory, directory ++ ".bsl"] := by
  have hlist : (sourcePath directory).toList =
      directory.toList ++ '/' :: (directory.toList ++ '.' :: "bsl".toList) := by
    simp [sourcePath]
  have hrelative : isAbsolute (sourcePath directory) = false := by
    unfold sourcePath
    rw [String.append_assoc, String.append_assoc]
    exact isAbsolute_append_isBare h _
  refine leadsDown_of_way hrelative ?_
  rw [hlist, way_isBare_slash h, way_stem_dot h (by decide), String.append_assoc]
  rfl

theorem leadsDown_assetPath {directory kind stem format : String} (hdirectory : IsBare directory)
    (hkind : IsBare kind) (hstem : IsBare stem) (hformat : '/' ∉ format.toList) :
    LeadsDown (assetPath directory kind stem format) ∧
      address (assetPath directory kind stem format) =
        [directory, kind, stem ++ "." ++ format] := by
  have hlist : (assetPath directory kind stem format).toList =
      directory.toList ++ '/' :: (kind.toList ++ '/' :: (stem.toList ++ '.' :: format.toList)) := by
    simp [assetPath]
  have hrelative : isAbsolute (assetPath directory kind stem format) = false := by
    unfold assetPath
    simp only [String.append_assoc]
    exact isAbsolute_append_isBare hdirectory _
  refine leadsDown_of_way hrelative ?_
  rw [hlist, way_isBare_slash hdirectory, way_isBare_slash hkind, way_stem_dot hstem hformat]
  rfl

theorem Identifier.IsBare.dot_not_mem {name : String} (h : IsBare name) : '.' ∉ name.toList := by
  intro hmem
  have hpart := h.isPart '.' hmem
  rw [isPart_dot] at hpart
  cases hpart

/-- A bare stem is told by the file, whatever the formats are. -/
theorem stem_eq_of_file_eq {stem other format ending : String} (hstem : IsBare stem)
    (hother : IsBare other) (h : stem ++ "." ++ format = other ++ "." ++ ending) :
    stem = other := by
  have hlist : stem.toList ++ '.' :: format.toList = other.toList ++ '.' :: ending.toList := by
    simpa using congrArg String.toList h
  exact String.toList_injective (append_cons_inj hstem.dot_not_mem hother.dot_not_mem hlist).1

/-! ## All that is written -/

/-- The paths of the copies of some assets, in their order. -/
def copyPaths (directory kind : String) (copied : List Asset) : List String :=
  ((directoryNames [] (copied.map Asset.name)).zip copied).map fun c =>
    assetPath directory kind c.1 c.2.dataFormat

/-- The assets of a target that are copied. -/
structure Copied where
  costumes : List Asset
  sounds : List Asset

/-- The paths of what is written for a target. -/
def targetPaths (directory : String) (copied : Copied) : List String :=
  sourcePath directory :: (copyPaths directory "costumes" copied.costumes ++
    copyPaths directory "sounds" copied.sounds)

/-- The paths of what is written for targets with these directories. -/
def targetsPaths (directories : List String) (copied : List Copied) : List String :=
  (directories.zip copied).flatMap fun t => targetPaths t.1 t.2

/-- The paths of what is written for targets with these names, and of the manifest. -/
def projectPaths (names : List String) (copied : List Copied) : List String :=
  targetsPaths (directoryNames [] names) copied ++ [manifestFile]

/-- No format has a slash in it. -/
def PlainFormats (assets : List Asset) : Prop := ∀ asset ∈ assets, '/' ∉ asset.dataFormat.toList

section Apart

variable {directory kind : String} {copied : List Asset}

/-- A name for a copy stands before the asset that it is for. -/
theorem isBare_of_mem_copies {c : String × Asset}
    (h : c ∈ (directoryNames [] (copied.map Asset.name)).zip copied) :
    IsBare c.1 ∧ c.2 ∈ copied := by
  have hparts := List.of_mem_zip h
  exact ⟨isBare_of_mem_directoryNames hparts.1, hparts.2⟩

theorem leadsDown_of_mem_copyPaths (hdirectory : IsBare directory) (hkind : IsBare kind)
    (hformats : PlainFormats copied) {path : String} (h : path ∈ copyPaths directory kind copied) :
    LeadsDown path ∧ ∃ file, address path = [directory, kind, file] := by
  rcases List.mem_map.1 h with ⟨c, hc, rfl⟩
  rcases isBare_of_mem_copies hc with ⟨hstem, hmem⟩
  have hpath := leadsDown_assetPath hdirectory hkind hstem (hformats c.2 hmem)
  exact ⟨hpath.1, _, hpath.2⟩

theorem nodup_copyPaths (hdirectory : IsBare directory) (hkind : IsBare kind)
    (hformats : PlainFormats copied) :
    ((copyPaths directory kind copied).map address).Nodup := by
  have hstems : (((directoryNames [] (copied.map Asset.name)).zip copied).map Prod.fst).Nodup := by
    rw [List.map_fst_zip (by simp [length_directoryNames])]
    exact nodup_directoryNames [] _
  unfold copyPaths
  rw [List.map_map]
  refine List.Nodup.map_on ?_ hstems.of_map
  -- the address tells the file, the file tells the stem, and every stem is chosen once
  intro c hc other hother heq
  rcases isBare_of_mem_copies hc with ⟨hstem, hmem⟩
  rcases isBare_of_mem_copies hother with ⟨hstem', hmem'⟩
  have haddress := (leadsDown_assetPath hdirectory hkind hstem (hformats c.2 hmem)).2
  have haddress' := (leadsDown_assetPath hdirectory hkind hstem' (hformats other.2 hmem')).2
  have hsame : [directory, kind, c.1 ++ "." ++ c.2.dataFormat] =
      [directory, kind, other.1 ++ "." ++ other.2.dataFormat] := by
    rw [← haddress, ← haddress']
    exact heq
  have hfile : c.1 ++ "." ++ c.2.dataFormat = other.1 ++ "." ++ other.2.dataFormat := by
    simpa using hsame
  exact List.inj_on_of_nodup_map hstems hc hother (stem_eq_of_file_eq hstem hstem' hfile)

variable {assets : Copied}

theorem isBare_costumes : IsBare "costumes" := isBare_of_ofRaw_eq rfl

theorem isBare_sounds : IsBare "sounds" := isBare_of_ofRaw_eq rfl

/-- All that is written for a target lies in its directory. -/
theorem leadsDown_of_mem_targetPaths (hdirectory : IsBare directory)
    (hcostumes : PlainFormats assets.costumes) (hsounds : PlainFormats assets.sounds)
    {path : String} (h : path ∈ targetPaths directory assets) :
    LeadsDown path ∧ ∃ name rest, address path = directory :: name :: rest := by
  unfold targetPaths at h
  rw [List.mem_cons, List.mem_append] at h
  rcases h with rfl | hcostume | hsound
  · have hsource := leadsDown_sourcePath hdirectory
    exact ⟨hsource.1, _, _, hsource.2⟩
  · rcases leadsDown_of_mem_copyPaths hdirectory isBare_costumes hcostumes hcostume with
      ⟨hdown, file, haddress⟩
    exact ⟨hdown, _, _, haddress⟩
  · rcases leadsDown_of_mem_copyPaths hdirectory isBare_sounds hsounds hsound with
      ⟨hdown, file, haddress⟩
    exact ⟨hdown, _, _, haddress⟩

theorem nodup_targetPaths (hdirectory : IsBare directory)
    (hcostumes : PlainFormats assets.costumes) (hsounds : PlainFormats assets.sounds) :
    ((targetPaths directory assets).map address).Nodup := by
  unfold targetPaths
  rw [List.map_cons, List.map_append, List.nodup_cons, List.nodup_append]
  refine ⟨?_, nodup_copyPaths hdirectory isBare_costumes hcostumes,
    nodup_copyPaths hdirectory isBare_sounds hsounds, ?_⟩
  · -- the source is two levels down, a copy is three
    rw [(leadsDown_sourcePath hdirectory).2, List.mem_append]
    rintro (hmem | hmem)
    · rcases List.mem_map.1 hmem with ⟨path, hpath, heq⟩
      rcases leadsDown_of_mem_copyPaths hdirectory isBare_costumes hcostumes hpath with
        ⟨-, file, haddress⟩
      simp [haddress] at heq
    · rcases List.mem_map.1 hmem with ⟨path, hpath, heq⟩
      rcases leadsDown_of_mem_copyPaths hdirectory isBare_sounds hsounds hpath with
        ⟨-, file, haddress⟩
      simp [haddress] at heq
  · intro first hfirst second hsecond heq
    rcases List.mem_map.1 hfirst with ⟨path, hpath, rfl⟩
    rcases List.mem_map.1 hsecond with ⟨other, hother, rfl⟩
    rcases leadsDown_of_mem_copyPaths hdirectory isBare_costumes hcostumes hpath with
      ⟨-, file, haddress⟩
    rcases leadsDown_of_mem_copyPaths hdirectory isBare_sounds hsounds hother with
      ⟨-, file', haddress'⟩
    rw [haddress, haddress'] at heq
    simp at heq

end Apart

section Project

variable {names : List String} {copied : List Copied}
  (hformats : ∀ c ∈ copied, PlainFormats c.costumes ∧ PlainFormats c.sounds)

include hformats

/-- All that is written for a project lies below the directory that it is written to. -/
theorem leadsDown_of_mem_projectPaths {path : String} (h : path ∈ projectPaths names copied) :
    LeadsDown path := by
  unfold projectPaths targetsPaths at h
  rw [List.mem_append, List.mem_flatMap, List.mem_singleton] at h
  rcases h with ⟨t, ht, hpath⟩ | rfl
  · have hparts := List.of_mem_zip ht
    have hplain := hformats t.2 hparts.2
    exact (leadsDown_of_mem_targetPaths (isBare_of_mem_directoryNames hparts.1) hplain.1 hplain.2
      hpath).1
  · exact leadsDown_manifestFile.1

/-- Nothing that is written for a project has the address of something else. -/
theorem nodup_projectPaths : ((projectPaths names copied).map address).Nodup := by
  have hdirectories : (((directoryNames [] names).zip copied).map Prod.fst).Nodup := by
    rw [List.zip_eq_zip_take_min, List.map_fst_zip (by simp)]
    exact (nodup_directoryNames [] names).sublist (List.take_sublist _ _)
  have htarget : ∀ t ∈ (directoryNames [] names).zip copied,
      IsBare t.1 ∧ PlainFormats t.2.costumes ∧ PlainFormats t.2.sounds := by
    intro t ht
    have hparts := List.of_mem_zip ht
    exact ⟨isBare_of_mem_directoryNames hparts.1, hformats t.2 hparts.2⟩
  unfold projectPaths targetsPaths
  rw [List.map_append, List.map_flatMap, List.nodup_append]
  refine ⟨List.nodup_flatMap.2 ⟨?_, ?_⟩, List.nodup_singleton _, ?_⟩
  · intro t ht
    rcases htarget t ht with ⟨hbare, hcostumes, hsounds⟩
    exact nodup_targetPaths hbare hcostumes hsounds
  · -- what is written for different targets lies in different directories
    refine (List.pairwise_map.1 hdirectories).imp_of_mem ?_
    intro t other ht hother hne
    rcases htarget t ht with ⟨hbare, hcostumes, hsounds⟩
    rcases htarget other hother with ⟨hbare', hcostumes', hsounds'⟩
    intro names hmem hmem'
    rcases List.mem_map.1 hmem with ⟨path, hpath, rfl⟩
    rcases List.mem_map.1 hmem' with ⟨path', hpath', heq⟩
    rcases leadsDown_of_mem_targetPaths hbare hcostumes hsounds hpath with
      ⟨-, name, rest, haddress⟩
    rcases leadsDown_of_mem_targetPaths hbare' hcostumes' hsounds' hpath' with
      ⟨-, name', rest', haddress'⟩
    rw [haddress, haddress'] at heq
    exact hne (List.cons.inj heq).1.symm
  · -- the manifest lies in no directory of a target
    intro names hmem manifest hmanifest heq
    rcases List.mem_flatMap.1 hmem with ⟨t, ht, haddress⟩
    rcases List.mem_map.1 haddress with ⟨path, hpath, rfl⟩
    rcases htarget t ht with ⟨hbare, hcostumes, hsounds⟩
    rcases leadsDown_of_mem_targetPaths hbare hcostumes hsounds hpath with
      ⟨-, name, rest, haddress⟩
    rw [List.map_singleton, List.mem_singleton, leadsDown_manifestFile.2] at hmanifest
    rw [haddress, hmanifest] at heq
    simp at heq

end Project

end BlockScribe
