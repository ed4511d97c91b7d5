import BlockScribe.Proofs.Files.Growth
import BlockScribe.Proofs.Output.Course

/-! # The manifest accounts for every asset

A run that nothing stops has an entry for every asset that it lists and a notice for every payload
that it misses; and whatever was found of the payloads while it ran, every file that the manifest
names holds at the end what was read for its asset. Nothing that is written later comes upon an
earlier file, since no two paths lead to one place.

* `nodup_spot`: paths that lead down to different addresses have different places in a file tree.
* `manifest_accounts_for_every_asset`: the result.
-/

namespace BlockScribe

open BlockScribe.Path

/-! ## Places below a directory -/

theorem isAbsolute_join {path : String} (h : isAbsolute path = false) (base : String) :
    isAbsolute (join base path) = isAbsolute base := by
  -- a relative path keeps the origin of its base, and the two origins differ
  have horigin := (origin_and_way_join h base).1
  unfold origin at horigin
  cases hjoin : isAbsolute (join base path) with
  | false =>
    cases hbase : isAbsolute base with
    | false => rfl
    | true =>
      rw [hjoin, hbase] at horigin
      cases horigin
  | true =>
    cases hbase : isAbsolute base with
    | false =>
      rw [hjoin, hbase] at horigin
      cases horigin
    | true => rfl

theorem foldl_stride_names (place names : List String) :
    (names.map Component.name).foldl FileTree.stride place = place ++ names := by
  induction names generalizing place with
  | nil => exact (List.append_nil place).symm
  | cons name rest ih =>
    rw [List.map_cons, List.foldl_cons, ih]
    simp [FileTree.stride]

/-- A path that leads down leads from a directory to its address below it. -/
theorem LeadsDown.spot_join {path : String} (h : LeadsDown path) (current : List String)
    (base : String) :
    FileTree.spot current (join base path) = FileTree.spot current base ++ address path := by
  unfold FileTree.spot
  rw [(origin_and_way_join h.relative base).2, isAbsolute_join h.relative, List.foldl_append,
    h.way_eq, foldl_stride_names]

/-- Paths that lead down to different addresses have different places. -/
theorem nodup_spot {paths : List String} (hdown : ∀ path ∈ paths, LeadsDown path)
    (hnodup : (paths.map address).Nodup) (current : List String) (base : String) :
    ((paths.map (join base)).map (FileTree.spot current)).Nodup := by
  have hspots : (paths.map (join base)).map (FileTree.spot current) =
      (paths.map address).map (FileTree.spot current base ++ ·) := by
    rw [List.map_map, List.map_map]
    exact List.map_congr_left fun path hpath => (hdown path hpath).spot_join current base
  rw [hspots]
  exact hnodup.map (List.append_right_injective _)

/-! ## The manifest -/

/-- Writing a project either stops at a request that the file system refuses, or it returns a
manifest that accounts for every asset. What was found for the assets is what the file system
answered when they were reached; what is listed and what is noted follows from it; and each file
that the manifest lists holds the payload that was read for its asset when all is done, as the file
of the manifest holds the manifest. -/
theorem manifest_accounts_for_every_asset (options : OutputOptions) (output payloads : String)
    (project : Project) (scripts : List Script) (tree : FileTree)
    (hformats : ∀ target ∈ project.targets, ∀ asset ∈ target.costumes ++ target.sounds,
      '/' ∉ asset.dataFormat.toList) :
    let run := (writeProject FileTree.files options output payloads project scripts).run.run tree
    let action :=
      (writeProject FileTree.files.journaled options output payloads project scripts).run
    let after := run.2
    (action.run []).run tree = ((run.1, journal action tree), after) ∧
    ((∃ error, run.1 = .error error ∧ error.FromRefusal (journal action tree)) ∨
      ∃ (manifest : Manifest) (diagnostics : List Diagnostic) (finds : List Finds),
        run.1 = .ok (manifest, diagnostics) ∧
        List.Forall₂ (fun f t => f.IsFor t.1) finds (project.targets.zip scripts) ∧
        inquiries (journal action tree) =
          finds.flatMap (fun f => f.all.flatMap (Find.inquiries options payloads)) ∧
        diagnostics = finds.flatMap (fun f => f.all.flatMap (Find.diagnostics options)) ∧
        List.Forall₂
          (fun f entry => entry.Covers options
            (fun path payload => after.read (join output path) = .ok payload) f)
          finds manifest.targets ∧
        (options.writeManifest = true →
          after.read (join output manifestFile) = .ok manifest.toJson.pretty.toUTF8)) := by
  intro run action after
  have hrecords :=
    recordsExcept_writeProject FileTree.files options output payloads project scripts
  rcases Records.journal hrecords tree with ⟨hrun, hunfolds, hresult⟩
  refine ⟨hrun, ?_⟩
  have hvalue : (writeProject FileTree.files options output payloads project scripts).run.run
    tree = (run.1, after) := rfl
  rw [hvalue] at hresult hunfolds
  cases houtcome : run.1 with
  | error error =>
    rw [houtcome] at hresult
    exact .inl ⟨error, rfl, hresult.1⟩
  | ok result =>
    rw [houtcome] at hresult
    obtain ⟨finds, hcourse⟩ := hresult
    -- all that was written has a place of its own, so it is there at the end
    have hkept : ∀ path payload, WroteTo output (journal action tree) path payload →
        after.read (join output path) = .ok payload := by
      rcases hcourse.begun.exists_apart hformats with ⟨paths, hwritten, hdown, hnodup⟩
      have hspots := nodup_spot hdown hnodup tree.current output
      rw [← hwritten] at hspots
      exact fun path payload hwrote => FileTree.read_of_wrote hunfolds hspots hwrote
    refine .inr ⟨result.1, result.2, finds, rfl, hcourse.isFor, hcourse.asked,
      hcourse.diagnostics, ?_, ?_⟩
    · exact hcourse.covers.imp fun f entry hcovers => hcovers.imp hkept
    · exact fun hmanifest => hkept _ _ (hcourse.manifest hmanifest)

/-- A file system with one payload. -/
def burrow : FileTree where
  nodes := Dict.ofList [
    (["burrow"], .directory),
    (["burrow", "t.svg"], .file "tail".toUTF8)]
  current := []
  scratch := ["scratch"]

/-- Two costumes with one name and one payload, and between them one whose payload is missing. -/
def badger : Project where
  targets := [⟨"Badger", false, .empty, .empty, .empty,
    [⟨"tail", "t", "svg", "t.svg"⟩, ⟨"ear", "e", "svg", "e.svg"⟩, ⟨"tail", "t", "svg", "t.svg"⟩],
    []⟩]
  extensions := []
  extensionUrls := .empty

def badgerScripts : List Script := [⟨"Badger", false, Script.header, []⟩]

/-- Both tails are listed and can be read, and the ear is noted. -/
theorem badger_tails_are_accounted_for :
    let run := (writeProject FileTree.files {} "out" "burrow" badger badgerScripts).run.run burrow
    let after := run.2
    (∀ target ∈ badger.targets, ∀ asset ∈ target.costumes ++ target.sounds,
      '/' ∉ asset.dataFormat.toList) ∧
    run.1.toOption.map (fun r => (r.1.targets.map fun entry => entry.costumes.entries, r.2)) =
      some ([[("tail", ⟨"svg", "Badger/costumes/tail.svg"⟩),
        ("tail_", ⟨"svg", "Badger/costumes/tail_.svg"⟩)]],
        [⟨none, .missingAsset "ear" "e.svg"⟩]) ∧
    ∃ (manifest : Manifest) (diagnostics : List Diagnostic) (finds : List Finds),
      run.1 = .ok (manifest, diagnostics) ∧
      List.Forall₂
        (fun f entry => entry.Covers {}
          (fun path payload => after.read (join "out" path) = .ok payload) f)
        finds manifest.targets := by
  intro run after
  have hformats : ∀ target ∈ badger.targets, ∀ asset ∈ target.costumes ++ target.sounds,
      '/' ∉ asset.dataFormat.toList := by decide
  have hresult : run.1.toOption.map
      (fun r => (r.1.targets.map fun entry => entry.costumes.entries, r.2)) =
      some ([[("tail", ⟨"svg", "Badger/costumes/tail.svg"⟩),
        ("tail_", ⟨"svg", "Badger/costumes/tail_.svg"⟩)]],
        [⟨none, .missingAsset "ear" "e.svg"⟩]) := by decide +kernel
  refine ⟨hformats, hresult, ?_⟩
  rcases (manifest_accounts_for_every_asset {} "out" "burrow" badger badgerScripts burrow
    hformats).2 with ⟨error, herror, -⟩ | ⟨manifest, diagnostics, finds, hok, -, -, -, hcovers, -⟩
  · -- the run has a result, so it did not fail
    have hfails : run.1 = .error error := herror
    rw [hfails] at hresult
    cases hresult
  · exact ⟨manifest, diagnostics, finds, hok, hcovers⟩

end BlockScribe
