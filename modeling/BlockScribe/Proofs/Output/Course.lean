import BlockScribe.Proofs.Output.Placing
import Mathlib.Data.List.Forall2

/-! # The course of writing a project

A project is written target by target: the source of a target, the copies of its costumes and of its
sounds, and the manifest at the end. This module says what the journal of such a run holds, on every
file system: all of it, if nothing is refused (`TargetsCourse`), and where it ends otherwise.

The paths that are written are told by the names of the targets and the assets that are copied
(`projectPaths`), so they are all different (`written_paths_never_collide`).
-/

namespace BlockScribe

open BlockScribe.Path
open Identifier (IsBare)

/-! ## Targets -/

/-- What was found for the assets of a target. -/
structure Finds where
  costumes : List Find
  sounds : List Find

namespace Finds

/-- All that was found, in order. -/
def all (finds : Finds) : List Find := finds.costumes ++ finds.sounds

/-- The assets that are copied. -/
def copied (finds : Finds) : Copied := ⟨copiedOf finds.costumes, copiedOf finds.sounds⟩

/-- There is a find for every asset of a target, in order, and no other. -/
structure IsFor (finds : Finds) (target : Target) : Prop where
  costumes : finds.costumes.map Find.asset = target.costumes
  sounds : finds.sounds.map Find.asset = target.sounds

end Finds

/-- The assets are some of a target's, in order. -/
structure Copied.IsFrom (copied : Copied) (target : Target) : Prop where
  costumes : copied.costumes.Sublist target.costumes
  sounds : copied.sounds.Sublist target.sounds

theorem Finds.IsFor.isFrom {finds : Finds} {target : Target} (h : finds.IsFor target) :
    finds.copied.IsFrom target where
  costumes := h.costumes ▸ copiedOf_sublist finds.costumes
  sounds := h.sounds ▸ copiedOf_sublist finds.sounds

theorem Copied.isFrom_nil (target : Target) : Copied.IsFrom ⟨[], []⟩ target :=
  ⟨List.nil_sublist _, List.nil_sublist _⟩

/-- The tables of a target account for its costumes and its sounds. -/
structure TargetEntry.Covers (options : OutputOptions) (holds : String → ByteArray → Prop)
    (finds : Finds) (entry : TargetEntry) : Prop where
  costumes : Accounts options holds finds.costumes entry.costumes
  sounds : Accounts options holds finds.sounds entry.sounds

theorem TargetEntry.Covers.imp {options : OutputOptions} {holds holds' : String → ByteArray → Prop}
    {finds : Finds} {entry : TargetEntry} (h : entry.Covers options holds finds)
    (himp : ∀ path payload, holds path payload → holds' path payload) :
    entry.Covers options holds' finds :=
  ⟨h.costumes.imp himp, h.sounds.imp himp⟩

/-- What is known once a target is written. -/
structure TargetCourse (options : OutputOptions) (output payloads directory : String)
    (target : Target) (finds : Finds) (events : List Event)
    (result : TargetEntry × List Diagnostic) : Prop where
  isFor : finds.IsFor target
  covers : result.1.Covers options (WroteTo output events) finds
  diagnostics : result.2 = finds.all.flatMap (Find.diagnostics options)
  asked : inquiries events = finds.all.flatMap (Find.inquiries options payloads)
  written : written events = (targetPaths directory finds.copied).map (join output)

section Targets

variable {W : Type} {files : Files (StateM W)} {options : OutputOptions}
  {output payloads : String}

/-- A source that is written, and costumes and sounds that are placed, are a target. -/
theorem targetCourse_of_progress {directory : String} {target : Target} {finds : Finds}
    (hfinds : finds.IsFor target) {quiet events more : List Event} (hquiet : Quiet quiet)
    {costumes sounds : Placed}
    (hcostumes : Placement.Progress ⟨options, output, payloads, directory, "costumes"⟩
      finds.costumes events costumes)
    (hsounds : Placement.Progress ⟨options, output, payloads, directory, "sounds"⟩
      finds.sounds more sounds) (script : Script) (content : ByteArray) :
    TargetCourse options output payloads directory target finds
      (quiet ++ (.wrote (join output (sourcePath directory)) content (.ok ()) :: (events ++ more)))
      (⟨script.name, script.isStage, sourcePath directory, costumes.entries, sounds.entries⟩,
        costumes.diagnostics ++ sounds.diagnostics) where
  isFor := hfinds
  covers := by
    -- the events of the costumes are behind the source, those of the sounds behind both
    refine ⟨hcostumes.accounts.imp fun path payload hwrote => ?_,
      hsounds.accounts.imp fun path payload hwrote => ?_⟩
    · exact List.mem_append_right _ (List.mem_cons_of_mem _ (List.mem_append_left _ hwrote))
    · exact List.mem_append_right _ (List.mem_cons_of_mem _ (List.mem_append_right _ hwrote))
  diagnostics := by
    rw [hcostumes.diagnostics, hsounds.diagnostics, Finds.all, List.flatMap_append]
  asked := by
    -- nothing is asked while directories are made and the source is written
    rw [inquiries_append, hquiet.asked, List.nil_append]
    show inquiries (events ++ more) = _
    rw [inquiries_append, hcostumes.asked, hsounds.asked, Finds.all, List.flatMap_append]
  written := by
    rw [written_append, hquiet.written, List.nil_append]
    show join output (sourcePath directory) :: written (events ++ more) = _
    rw [written_append, hcostumes.written, hsounds.written, targetPaths, List.map_cons,
      List.map_append]
    rfl

/-- Writing a target: its source, its costumes and its sounds, or as much of it as is not
refused. -/
theorem recordsExcept_writeTarget (directory : String) (target : Target) (script : Script) :
    RecordsExcept files
      (writeTarget files.journaled options output payloads directory target script)
      (writeTarget files options output payloads directory target script)
      (fun result events => ∃ finds,
        TargetCourse options output payloads directory target finds events result)
      fun events => ∃ copied : Copied, copied.IsFrom target ∧
        written events <+: (targetPaths directory copied).map (join output) := by
  unfold writeTarget
  refine (recordsExcept_createDirectories _).bind ?_ ?_
  · intro _ quiet hquiet
    refine ((recordsExcept_write _ _).during _).bind ?_ ?_
    · rintro _ _ rfl
      refine (recordsExcept_place target.costumes).bind ?_ ?_
      · rintro costumes events ⟨found, hfound, hcostumes⟩
        refine (recordsExcept_place target.sounds).bind ?_ ?_
        · rintro sounds more ⟨others, hothers, hsounds⟩
          have hfinds : Finds.IsFor ⟨found, others⟩ target := ⟨hfound, hothers⟩
          refine recordsExcept_pure ⟨⟨found, others⟩, ?_⟩
          rw [List.append_nil]
          exact targetCourse_of_progress hfinds hquiet hcostumes hsounds script _
        · -- the costumes are all there, some of the sounds are
          rintro more ⟨copied, hcopied, hwritten⟩
          refine ⟨⟨copiedOf found, copied⟩, ⟨hfound ▸ copiedOf_sublist found, hcopied⟩, ?_⟩
          have hall : join output (sourcePath directory) :: written (events ++ more) =
              (targetPaths directory ⟨copiedOf found, copied⟩).map (join output) := by
            rw [written_append, hcostumes.written, hwritten, targetPaths, List.map_cons,
              List.map_append]
          rw [written_append, hquiet.written, List.nil_append]
          exact hall ▸ List.prefix_rfl
      · -- the source and some of the costumes are there
        rintro events ⟨copied, hcopied, hwritten⟩
        refine ⟨⟨copied, []⟩, ⟨hcopied, List.nil_sublist _⟩, ?_⟩
        rw [written_append, hquiet.written, List.nil_append]
        show join output (sourcePath directory) :: written events <+: _
        rw [hwritten, targetPaths, List.map_cons, List.map_append]
        exact List.cons_prefix_cons.2 ⟨rfl, List.prefix_append _ _⟩
    · rintro _ ⟨fault, rfl⟩
      refine ⟨⟨[], []⟩, Copied.isFrom_nil target, ?_⟩
      rw [written_append, hquiet.written, List.nil_append]
      exact List.cons_prefix_cons.2 ⟨rfl, List.nil_prefix⟩
  · intro quiet hquiet
    refine ⟨⟨[], []⟩, Copied.isFrom_nil target, ?_⟩
    rw [hquiet.written]
    exact List.nil_prefix

end Targets

/-! ## Projects -/

section Projects

variable {W : Type} {files : Files (StateM W)} {options : OutputOptions}
  {output payloads : String}

/-- What is known once some targets are written. -/
structure TargetsCourse (options : OutputOptions) (output payloads : String)
    (targets : List (String × Target × Script)) (finds : List Finds) (events : List Event)
    (results : List (TargetEntry × List Diagnostic)) : Prop where
  isFor : List.Forall₂ (fun f t => f.IsFor t.2.1) finds targets
  covers : List.Forall₂ (fun f result => result.1.Covers options (WroteTo output events) f) finds
    results
  diagnostics : results.flatMap Prod.snd =
    finds.flatMap fun f => f.all.flatMap (Find.diagnostics options)
  asked : inquiries events = finds.flatMap fun f => f.all.flatMap (Find.inquiries options payloads)
  written : written events =
    (targetsPaths (targets.map Prod.fst) (finds.map Finds.copied)).map (join output)

theorem targetsPaths_cons (directory : String) (directories : List String) (copied : Copied)
    (others : List Copied) :
    targetsPaths (directory :: directories) (copied :: others) =
      targetPaths directory copied ++ targetsPaths directories others :=
  List.flatMap_cons

theorem TargetCourse.cons {directory : String} {target : Target} {script : Script} {finds : Finds}
    {events more : List Event} {result : TargetEntry × List Diagnostic}
    (h : TargetCourse options output payloads directory target finds events result)
    {rest : List (String × Target × Script)} {others : List Finds}
    {results : List (TargetEntry × List Diagnostic)}
    (hrest : TargetsCourse options output payloads rest others more results) :
    TargetsCourse options output payloads ((directory, target, script) :: rest) (finds :: others)
      (events ++ more) (result :: results) where
  isFor := .cons h.isFor hrest.isFor
  covers := by
    -- what was written for the first target is still there behind the others
    refine .cons (h.covers.imp fun path payload hwrote => ?_)
      (hrest.covers.imp fun f other hother => hother.imp fun path payload hwrote => ?_)
    · exact List.mem_append_left _ hwrote
    · exact List.mem_append_right _ hwrote
  diagnostics := by
    rw [List.flatMap_cons, List.flatMap_cons, h.diagnostics, hrest.diagnostics]
  asked := by rw [inquiries_append, List.flatMap_cons, h.asked, hrest.asked]
  written := by
    rw [written_append, h.written, hrest.written, List.map_cons, List.map_cons, targetsPaths_cons,
      List.map_append]

/-- Some targets are written, and perhaps a part of the next one. -/
def TargetsBegun (output : String) (targets : List (String × Target × Script))
    (events : List Event) : Prop :=
  ∃ copied : List Copied, List.Forall₂ (fun c t => c.IsFrom t.2.1) copied targets ∧
    written events <+: (targetsPaths (targets.map Prod.fst) copied).map (join output)

theorem recordsExcept_writeTargets (targets : List (String × Target × Script)) :
    RecordsExcept files (writeTargets files.journaled options output payloads targets)
      (writeTargets files options output payloads targets)
      (fun results events => ∃ finds,
        TargetsCourse options output payloads targets finds events results)
      (TargetsBegun output targets) := by
  induction targets with
  | nil => exact recordsExcept_pure ⟨[], .nil, .nil, rfl, rfl, rfl⟩
  | cons t rest ih =>
    obtain ⟨directory, target, script⟩ := t
    unfold writeTargets
    refine (recordsExcept_writeTarget directory target script).bind ?_ ?_
    · rintro result events ⟨finds, hfinds⟩
      refine ih.bind ?_ ?_
      · rintro results more ⟨others, hothers⟩
        refine recordsExcept_pure ⟨finds :: others, ?_⟩
        rw [List.append_nil]
        exact hfinds.cons hothers
      · rintro more ⟨copied, hcopied, hwritten⟩
        refine ⟨finds.copied :: copied, .cons hfinds.isFor.isFrom hcopied, ?_⟩
        rw [written_append, hfinds.written, List.map_cons, targetsPaths_cons, List.map_append]
        exact (List.prefix_append_right_inj _).2 hwritten
    · -- of the targets behind, nothing is written
      rintro events ⟨copied, hcopied, hwritten⟩
      refine ⟨copied :: rest.map fun _ => ⟨[], []⟩, .cons hcopied ?_, ?_⟩
      · rw [List.forall₂_map_left_iff, List.forall₂_same]
        exact fun t _ => Copied.isFrom_nil t.2.1
      · rw [List.map_cons, targetsPaths_cons, List.map_append]
        exact hwritten.trans (List.prefix_append _ _)

/-- The targets of a project, with their directories. -/
def housedTargets (project : Project) (scripts : List Script) : List (String × Target × Script) :=
  (directoryNames [] (scripts.map Script.name)).zip (project.targets.zip scripts)

theorem length_housedTargets (project : Project) (scripts : List Script) :
    (housedTargets project scripts).length = (project.targets.zip scripts).length := by
  unfold housedTargets
  rw [List.length_zip, length_directoryNames, List.length_map, List.length_zip]
  omega

theorem map_snd_housedTargets (project : Project) (scripts : List Script) :
    (housedTargets project scripts).map Prod.snd = project.targets.zip scripts := by
  unfold housedTargets
  rw [List.map_snd_zip]
  rw [length_directoryNames, List.length_map, List.length_zip]
  omega

theorem zip_map_fst_zip {α β γ : Type} (first : List α) (second : List β) (third : List γ)
    (h : third.length ≤ second.length) :
    ((first.zip second).map Prod.fst).zip third = first.zip third := by
  induction first generalizing second third with
  | nil => rfl
  | cons a rest ih =>
    cases second with
    | nil =>
      rw [List.length_eq_zero_iff.1 (Nat.le_zero.1 h), List.zip_nil_right, List.zip_nil_right]
    | cons b others =>
      -- the shortest list ends the zip, and it is not the second one
      cases third with
      | nil => rw [List.zip_nil_right, List.zip_nil_right]
      | cons c more =>
        have hmore : more.length ≤ others.length := Nat.le_of_succ_le_succ h
        rw [List.zip_cons_cons, List.map_cons, List.zip_cons_cons, ih others more hmore,
          List.zip_cons_cons]

/-- What is written for a project, as far as it goes. -/
def ProjectBegun (output : String) (project : Project) (scripts : List Script)
    (events : List Event) : Prop :=
  ∃ copied : List Copied,
    List.Forall₂ (fun c t => c.IsFrom t.1) copied (project.targets.zip scripts) ∧
    written events <+: (projectPaths (scripts.map Script.name) copied).map (join output)

/-- The targets are begun, and perhaps the manifest is. -/
theorem projectBegun_of_targets {project : Project} {scripts : List Script}
    {quiet events : List Event} (hquiet : Quiet quiet) {copied : List Copied}
    (hcopied : List.Forall₂ (fun c t => c.IsFrom t.2.1) copied (housedTargets project scripts))
    (hwritten : written events <+: ((targetsPaths ((housedTargets project scripts).map Prod.fst)
      copied) ++ [manifestFile]).map (join output)) :
    ProjectBegun output project scripts (quiet ++ events) := by
  refine ⟨copied, ?_, ?_⟩
  · rw [← map_snd_housedTargets, List.forall₂_map_right_iff]
    exact hcopied
  · have hlength : copied.length = (project.targets.zip scripts).length := by
      rw [hcopied.length_eq, length_housedTargets]
    -- all targets have been copied from, so no directory is left out of the pairing
    have hzip : ((housedTargets project scripts).map Prod.fst).zip copied =
        (directoryNames [] (scripts.map Script.name)).zip copied :=
      zip_map_fst_zip _ _ _ (Nat.le_of_eq hlength)
    rw [written_append, hquiet.written, List.nil_append]
    unfold projectPaths
    unfold targetsPaths at hwritten ⊢
    rwa [hzip] at hwritten

theorem TargetsCourse.begun {project : Project} {scripts : List Script} {finds : List Finds}
    {quiet events more : List Event} {results : List (TargetEntry × List Diagnostic)}
    (h : TargetsCourse options output payloads (housedTargets project scripts) finds events results)
    (hquiet : Quiet quiet) (hmore : BlockScribe.written more <+: [join output manifestFile]) :
    ProjectBegun output project scripts (quiet ++ (events ++ more)) := by
  have hcopied : List.Forall₂ (fun c t => c.IsFrom t.2.1) (finds.map Finds.copied)
      (housedTargets project scripts) := by
    rw [List.forall₂_map_left_iff]
    exact h.isFor.imp fun f t hfor => hfor.isFrom
  refine projectBegun_of_targets hquiet hcopied ?_
  rw [written_append, h.written, List.map_append]
  exact (List.prefix_append_right_inj _).2 hmore

/-- What is known once a project is written. -/
structure ProjectCourse (options : OutputOptions) (output payloads : String) (project : Project)
    (scripts : List Script) (finds : List Finds) (events : List Event)
    (result : Manifest × List Diagnostic) : Prop where
  isFor : List.Forall₂ (fun f t => f.IsFor t.1) finds (project.targets.zip scripts)
  covers : List.Forall₂ (fun f entry => entry.Covers options (WroteTo output events) f) finds
    result.1.targets
  diagnostics : result.2 = finds.flatMap fun f => f.all.flatMap (Find.diagnostics options)
  asked : inquiries events = finds.flatMap fun f => f.all.flatMap (Find.inquiries options payloads)
  manifest : options.writeManifest = true →
    WroteTo output events manifestFile result.1.toJson.pretty.toUTF8
  begun : ProjectBegun output project scripts events

/-- Nothing but targets and a manifest is put down. -/
theorem projectCourse_of_targets {project : Project} {scripts : List Script} {finds : List Finds}
    {quiet events more : List Event} (hquiet : Quiet quiet)
    {results : List (TargetEntry × List Diagnostic)}
    (h : TargetsCourse options output payloads (housedTargets project scripts) finds events results)
    (hmore : more = if options.writeManifest then
      [.wrote (join output manifestFile)
        (Manifest.toJson ⟨results.map Prod.fst⟩).pretty.toUTF8 (.ok ())] else []) :
    ProjectCourse options output payloads project scripts finds (quiet ++ (events ++ more))
      (⟨results.map Prod.fst⟩, results.flatMap Prod.snd) where
  isFor := by
    rw [← map_snd_housedTargets, List.forall₂_map_right_iff]
    exact h.isFor
  covers := by
    rw [List.forall₂_map_right_iff]
    refine h.covers.imp fun f result hcovers => hcovers.imp fun path payload hwrote => ?_
    exact List.mem_append_right _ (List.mem_append_left _ hwrote)
  diagnostics := h.diagnostics
  asked := by
    -- writing the manifest asks nothing
    have hnone : inquiries more = [] := by
      rw [hmore]
      cases options.writeManifest with
      | false => rfl
      | true => rfl
    rw [inquiries_append, inquiries_append, hquiet.asked, h.asked, hnone, List.append_nil,
      List.nil_append]
  manifest := by
    intro hmanifest
    -- the manifest is the last event
    rw [if_pos hmanifest] at hmore
    rw [hmore]
    exact List.mem_append_right _ (List.mem_append_right _ (List.mem_singleton.2 rfl))
  begun := by
    refine h.begun hquiet ?_
    rw [hmore]
    cases options.writeManifest with
    | false => exact List.nil_prefix
    | true => exact List.cons_prefix_cons.2 ⟨rfl, List.nil_prefix⟩

/-- Writing a project: its targets, and the manifest if that is asked for, or as much of it as is
not refused. -/
theorem recordsExcept_writeProject (files : Files (StateM W)) (options : OutputOptions)
    (output payloads : String) (project : Project) (scripts : List Script) :
    RecordsExcept files (writeProject files.journaled options output payloads project scripts)
      (writeProject files options output payloads project scripts)
      (fun result events => ∃ finds,
        ProjectCourse options output payloads project scripts finds events result)
      (ProjectBegun output project scripts) := by
  unfold writeProject
  refine ((recordsExcept_createDirectories _).during _).bind ?_ ?_
  · intro _ quiet hquiet
    refine (recordsExcept_writeTargets (housedTargets project scripts)).bind ?_ ?_
    · rintro results events ⟨finds, hfinds⟩
      cases hmanifest : options.writeManifest with
      | false =>
        refine recordsExcept_pure ⟨finds, ?_⟩
        exact projectCourse_of_targets hquiet hfinds (by simp [hmanifest])
      | true =>
        refine ((recordsExcept_write _ _).during _).bind ?_ ?_
        · rintro _ _ rfl
          refine recordsExcept_pure ⟨finds, ?_⟩
          rw [List.append_nil]
          exact projectCourse_of_targets hquiet hfinds (by simp [hmanifest])
        · -- the targets are written, and the manifest was refused
          rintro _ ⟨fault, rfl⟩
          exact hfinds.begun hquiet (List.cons_prefix_cons.2 ⟨rfl, List.nil_prefix⟩)
    · -- a target was refused, so the manifest was not tried
      rintro events ⟨copied, hcopied, hwritten⟩
      refine projectBegun_of_targets hquiet hcopied ?_
      rw [List.map_append]
      exact hwritten.trans (List.prefix_append _ _)
  · intro quiet hquiet
    -- not even the directory could be made: nothing is copied from any target
    refine ⟨(project.targets.zip scripts).map fun _ => ⟨[], []⟩, ?_, ?_⟩
    · rw [List.forall₂_map_left_iff, List.forall₂_same]
      exact fun t _ => Copied.isFrom_nil t.1
    · rw [hquiet.written]
      exact List.nil_prefix

end Projects

/-! ## Paths that never collide -/

/-- The formats of assets that are copied are plain if those of all assets are. -/
theorem plainFormats_of_isFrom {copied : List Copied} {targets : List (Target × Script)}
    (h : List.Forall₂ (fun c t => c.IsFrom t.1) copied targets)
    (hformats : ∀ t ∈ targets, PlainFormats (t.1.costumes ++ t.1.sounds)) :
    ∀ c ∈ copied, PlainFormats c.costumes ∧ PlainFormats c.sounds := by
  induction h with
  | nil => exact List.forall_mem_nil _
  | cons hfirst _ ih =>
    rw [List.forall_mem_cons] at hformats ⊢
    refine ⟨⟨fun asset hasset => ?_, fun asset hasset => ?_⟩, ih hformats.2⟩
    · exact hformats.1 asset (List.mem_append_left _ (hfirst.costumes.subset hasset))
    · exact hformats.1 asset (List.mem_append_right _ (hfirst.sounds.subset hasset))

theorem ProjectBegun.exists_apart {output : String} {project : Project} {scripts : List Script}
    {events : List Event} (h : ProjectBegun output project scripts events)
    (hformats : ∀ target ∈ project.targets, PlainFormats (target.costumes ++ target.sounds)) :
    ∃ paths : List String, written events = paths.map (join output) ∧
      (∀ path ∈ paths, LeadsDown path) ∧ (paths.map address).Nodup := by
  rcases h with ⟨copied, hcopied, hprefix⟩
  have hplain := plainFormats_of_isFrom hcopied fun t ht => hformats t.1 (List.of_mem_zip ht).1
  rcases List.prefix_map_iff.1 hprefix with ⟨paths, hpaths, hwritten⟩
  refine ⟨paths, hwritten, ?_, ?_⟩
  · intro path hpath
    exact leadsDown_of_mem_projectPaths hplain (hpaths.subset hpath)
  · -- what was written is the front of a list of different places
    exact (nodup_projectPaths hplain).sublist (hpaths.sublist.map address)

/-- The directories of targets are bare names that differ in more than the case of their letters,
and so are the names of the copies in one directory. On every file system, whatever it refuses, the
paths that writing a project writes to are told by these names, and if no format has a slash in it,
no two of them lead to the same place. -/
theorem written_paths_never_collide {W : Type} (files : Files (StateM W)) (options : OutputOptions)
    (output payloads : String) (project : Project) (scripts : List Script) (world : W) :
    (∀ names : List String,
      (∀ directory ∈ directoryNames [] names,
        IsBare directory ∧ components directory = [.name directory]) ∧
      ((directoryNames [] names).map lowercase).Nodup) ∧
    (∀ (p : Placement) (assets : List Asset), ∃ (stems : List String) (copied : List Asset),
      copied.Sublist assets ∧ stems.length = copied.length ∧
      written (journal (p.place files.journaled assets).run world) =
        (stems.zip copied).map (fun c =>
          join p.output (assetPath p.directory p.kind c.1 c.2.dataFormat)) ∧
      (∀ stem ∈ stems, IsBare stem ∧ components stem = [.name stem]) ∧
      (stems.map lowercase).Nodup) ∧
    let action := (writeProject files.journaled options output payloads project scripts).run
    let plain := (writeProject files options output payloads project scripts).run.run world
    (action.run []).run world = ((plain.1, journal action world), plain.2) ∧
    (∃ copied : List Copied,
      List.Forall₂ (fun c t => c.IsFrom t.1) copied (project.targets.zip scripts) ∧
      written (journal action world) <+:
        (projectPaths (scripts.map Script.name) copied).map (join output)) ∧
    ((∀ target ∈ project.targets, ∀ asset ∈ target.costumes ++ target.sounds,
        '/' ∉ asset.dataFormat.toList) →
      ((written (journal action world)).map resolve).Nodup) := by
  have hnames : ∀ names : List String,
      (∀ directory ∈ directoryNames [] names,
        IsBare directory ∧ components directory = [.name directory]) ∧
      ((directoryNames [] names).map lowercase).Nodup := by
    intro names
    refine ⟨fun directory hmem => ?_, (nodup_lowercase_directoryNames [] names).1⟩
    -- a bare name is a single component, whatever stands in front of it
    have hbare := isBare_of_mem_directoryNames hmem
    exact ⟨hbare, components_of_isBare hbare⟩
  refine ⟨hnames, ?_, ?_⟩
  · intro p assets
    -- whether the placing ends well or not, the journal is a front of the copies
    have hbegun : p.Begun assets (journal (p.place files.journaled assets).run world) := by
      refine (recordsExcept_place assets).journal ?_ (fun _ h => h) world
      rintro placed events ⟨finds, rfl, hprogress⟩
      exact hprogress.begun
    rcases hbegun with ⟨copied, hcopied, hwritten⟩
    refine ⟨directoryNames [] (copied.map Asset.name), copied, hcopied, ?_, ?_, hnames _⟩
    · rw [length_directoryNames, List.length_map]
    · rw [hwritten, copyPaths, List.map_map]
      rfl
  · intro action plain
    have hrecords := recordsExcept_writeProject files options output payloads project scripts
    have hbegun : ProjectBegun output project scripts (journal action world) := by
      refine hrecords.journal ?_ (fun _ h => h) world
      rintro result events ⟨finds, hcourse⟩
      exact hcourse.begun
    refine ⟨(Records.journal hrecords world).1, hbegun, ?_⟩
    intro hformats
    -- plain formats make every path lead down, so different paths lead to different places
    rcases hbegun.exists_apart hformats with ⟨paths, hwritten, hdown, hnodup⟩
    rw [hwritten]
    exact nodup_resolve_join hdown hnodup output

/-- Streets whose names differ only in case, with a sigma that is capital, final, or before an
underscore. -/
def streets : Project where
  targets := [
    ⟨"ΟΔΟΣ", false, .empty, .empty, .empty, [⟨"tail", "t", "svg", "t.svg"⟩,
      ⟨"TAIL", "t", "svg", "t.svg"⟩], []⟩,
    ⟨"οδος", false, .empty, .empty, .empty, [], []⟩,
    ⟨"ΟΔΟΣ_", false, .empty, .empty, .empty, [], []⟩]
  extensions := []
  extensionUrls := .empty

def streetScripts : List Script :=
  streets.targets.map fun target => ⟨target.name, target.isStage, Script.header, []⟩

/-- All that is written for the streets has a place of its own. -/
theorem streets_never_collide :
    let action := (writeProject FileTree.files.journaled {} "out" "den" streets streetScripts).run
    written (journal action den) =
      ["out/ΟΔΟΣ/ΟΔΟΣ.bsl", "out/ΟΔΟΣ/costumes/tail.svg", "out/ΟΔΟΣ/costumes/TAIL_.svg",
        "out/οδος_/οδος_.bsl", "out/ΟΔΟΣ__/ΟΔΟΣ__.bsl", "out/manifest.json"] ∧
    (∀ target ∈ streets.targets, ∀ asset ∈ target.costumes ++ target.sounds,
      '/' ∉ asset.dataFormat.toList) ∧
    ((written (journal action den)).map resolve).Nodup := by
  intro action
  have hformats : ∀ target ∈ streets.targets, ∀ asset ∈ target.costumes ++ target.sounds,
      '/' ∉ asset.dataFormat.toList := by decide
  refine ⟨by decide +kernel, hformats, ?_⟩
  exact (written_paths_never_collide FileTree.files {} "out" "den" streets streetScripts
    den).2.2.2.2 hformats

end BlockScribe
