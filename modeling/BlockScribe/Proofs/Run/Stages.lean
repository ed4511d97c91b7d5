import BlockScribe.FileTree
import BlockScribe.Proofs.Target.Globals
import BlockScribe.Run
import Mathlib.Algebra.GroupWithZero.Nat

/-! # The stages of a run

A run that ends well passed all of its stages, each from the world that the one before it left. This
says what each of them gave on the way to the report, on any file system at all: a world, and what
each request does to it.

The notes on extensions are counted with the first target. So a report counts all notes of the run
if and only if there is a target or there are no such notes (`diagnosticCount_counts_all_iff`).
-/

namespace BlockScribe

variable {W α β : Type}

/-- Started in the world `before`, a computation ends well, with a value and in the world
`after`. -/
def Gives (action : ExceptT Error (StateM W) α) (before : W) (value : α) (after : W) : Prop :=
  action.run.run before = (.ok value, after)

theorem gives_pure_iff {found value : α} {before after : W} :
    Gives (pure found) before value after ↔ found = value ∧ before = after := by
  constructor
  · intro h
    cases h
    exact ⟨rfl, rfl⟩
  · rintro ⟨rfl, rfl⟩
    rfl

/-- A sequence that ends well consists of two parts that end well. -/
theorem exists_of_gives_bind {first : ExceptT Error (StateM W) α}
    {next : α → ExceptT Error (StateM W) β} {value : β} {before after : W}
    (h : Gives (first >>= next) before value after) :
    ∃ found between, Gives first before found between ∧ Gives (next found) between value after := by
  unfold Gives at h ⊢
  rw [ExceptT.run_bind, StateT.run_bind] at h
  cases hfirst : first.run.run before with
  | mk result between =>
    rw [hfirst] at h
    cases result with
    | error error => cases h
    | ok found => exact ⟨found, between, rfl, h⟩

/-- What cannot fail goes on from the world that it leaves. -/
theorem gives_of_lift_bind {action : StateM W α} {next : α → ExceptT Error (StateM W) β} {value : β}
    {before after : W} (h : Gives (liftM action >>= next) before value after) :
    Gives (next (action.run before).1) (action.run before).2 value after := by
  obtain ⟨found, between, hfirst, hnext⟩ := exists_of_gives_bind h
  cases hfirst
  exact hnext

/-! ## Opening -/

/-- A project is opened: it is a directory that holds one, or an archive that is unpacked into a
directory made for that. -/
inductive Opens (files : Files (StateM W)) (input : String) (before : W) : String → W → Prop
  | directory {seen opened : W} (hdirectory : (files.isDirectory input).run before = (true, seen))
    (hproject : (files.isFile (Path.join input projectFile)).run seen = (true, opened)) :
    Opens files input before input opened
  | archive {directory : String} {seen made opened : W}
    (hdirectory : (files.isDirectory input).run before = (false, seen))
    (hmade : Gives (during .workingDirectory (attempt files.scratchDirectory)) seen directory made)
    (hunpacked : Gives (Archive.unpack files input directory) made () opened) :
    Opens files input before directory opened

/-- The work in an archive ends well before it is cleaned up behind it. -/
theorem exists_of_gives_withArchive {files : Files (StateM W)} {input : String}
    {work : String → ExceptT Error (StateM W) α} {value : α} {before after : W}
    (h : Gives (withArchive files input work) before value after) :
    ∃ directory made opened closed,
      Gives (during .workingDirectory (attempt files.scratchDirectory)) before directory made ∧
      Gives (Archive.unpack files input directory) made () opened ∧
      Gives (work directory) opened value closed := by
  unfold withArchive at h
  obtain ⟨directory, made, hmade, h⟩ := exists_of_gives_bind h
  let action : ExceptT Error (StateM W) α :=
    Archive.unpack files input directory *> work directory
  -- the outcome is that of the work, whatever the removal does to the world
  have hends : ((action.run.run made).1,
      ((files.removeTree directory).run (action.run.run made).2).2) = (.ok value, after) := h
  have hgives : Gives action made value (action.run.run made).2 :=
    Prod.ext (Prod.mk.inj hends).1 rfl
  have hsequence : action = Archive.unpack files input directory >>= fun _ => work directory :=
    seqRight_eq_bind _ _
  rw [hsequence] at hgives
  obtain ⟨_, opened, hunpacked, hworked⟩ := exists_of_gives_bind hgives
  exact ⟨directory, made, opened, _, hmade, hunpacked, hworked⟩

theorem exists_opens_of_withProject {files : Files (StateM W)} {input : String}
    {work : String → ExceptT Error (StateM W) α} {value : α} {before after : W}
    (h : Gives (withProject files input work) before value after) :
    ∃ directory opened closed, Opens files input before directory opened ∧
      Gives (work directory) opened value closed := by
  unfold withProject at h
  have hbranch := gives_of_lift_bind h
  -- the input is a directory that holds a project, or it is read as an archive
  cases hlooked : (files.isDirectory input).run before with
  | mk isDirectory seen =>
    rw [hlooked] at hbranch
    cases isDirectory with
    | true =>
      have hinside : Gives (withDirectory files input work) seen value after := hbranch
      have hworked := gives_of_lift_bind hinside
      cases hfile : (files.isFile (Path.join input projectFile)).run seen with
      | mk isFile opened =>
        rw [hfile] at hworked
        cases isFile with
        | true => exact ⟨input, opened, after, .directory hlooked hfile, hworked⟩
        | false => cases hworked
    | false =>
      have harchive : Gives (withArchive files input work) seen value after := hbranch
      obtain ⟨directory, made, opened, closed, hmade, hunpacked, hworked⟩ :=
        exists_of_gives_withArchive harchive
      exact ⟨directory, opened, closed, .archive hlooked hmade hunpacked, hworked⟩

/-! ## From stage to stage -/

/-- The world in which a stage begins: the one before it, once the stage is announced. -/
def told (tell : Stage → StateM W Unit) (stage : Stage) (world : W) : W :=
  ((tell stage).run world).2

section Course

variable (files : Files (StateM W)) (tell : Stage → StateM W Unit) (options : Options)
  (directory : String)

/-- The report says what was written and noted on assets: nothing, if it was not told where to
write. -/
def Report.Written (report : Report) (project : Project) (decompiled closed : W) :
    Option String → Prop
  | none => report.manifest = none ∧ report.assetDiagnostics = [] ∧ closed = decompiled
  | some output => ∃ manifest, report.manifest = some manifest ∧
      Gives (writeProject files options.toOutputOptions output directory project report.scripts)
        (told tell .writing decompiled) (manifest, report.assetDiagnostics) closed

/-- The course of a run on the project in `directory`: what each stage gives, and the worlds behind
opening, parsing and loading and at the end. -/
structure Report.Course (report : Report) (output : Option String)
    (opened parsed loaded closed : W) (project : Project) (table : SignatureTable)
    (notes : List Diagnostic) (compiled : List Script) : Prop where
  parses : Gives (readProject files directory) (told tell .parsing opened) project parsed
  loads : Gives (project.signatures (loadDescriptor files options.extensionDirectories))
    (told tell .loading parsed) (table, notes) loaded
  compiles : project.scripts table = .ok compiled
  scripts_eq : report.scripts = noteFirst notes compiled
  writes : report.Written files tell options directory project (told tell .decompiling loaded)
    closed output

variable {files tell options directory}

theorem exists_course_of_processProject {report : Report} {output : Option String}
    {opened closed : W}
    (h : Gives (processProject files tell options output directory) opened report closed) :
    ∃ parsed loaded project table notes compiled,
      report.Course files tell options directory output opened parsed loaded closed project table
        notes compiled := by
  unfold processProject at h
  -- each stage is announced first, which cannot fail but may change the world
  have hparsing := gives_of_lift_bind h
  obtain ⟨project, parsed, hparses, h⟩ := exists_of_gives_bind hparsing
  have hloading := gives_of_lift_bind h
  obtain ⟨⟨table, notes⟩, loaded, hloads, h⟩ := exists_of_gives_bind hloading
  have hcompiling := gives_of_lift_bind h
  obtain ⟨compiled, _, hcompiles, h⟩ := exists_of_gives_bind hcompiling
  obtain ⟨hcompiled, rfl⟩ := Prod.mk.inj hcompiles
  refine ⟨parsed, loaded, project, table, notes, compiled, ?_⟩
  cases output with
  | none =>
    obtain ⟨rfl, rfl⟩ := gives_pure_iff.1 h
    exact ⟨hparses, hloads, hcompiled, rfl, rfl, rfl, rfl⟩
  | some output =>
    have hwriting := gives_of_lift_bind h
    obtain ⟨⟨manifest, assetNotes⟩, _, hwrites, h⟩ := exists_of_gives_bind hwriting
    obtain ⟨rfl, rfl⟩ := gives_pure_iff.1 h
    exact ⟨hparses, hloads, hcompiled, rfl, manifest, rfl, hwrites⟩

/-- There are as many scripts as targets, so there is one if and only if there is the other. -/
theorem Report.Course.isEmpty_compiled {report : Report} {output : Option String}
    {opened parsed loaded closed : W} {project : Project} {table : SignatureTable}
    {notes : List Diagnostic} {compiled : List Script}
    (h : report.Course files tell options directory output opened parsed loaded closed project
      table notes compiled) : compiled.isEmpty = project.targets.isEmpty := by
  have hlength := (forall₂_of_scripts_eq_ok h.compiles).length_eq
  rw [Bool.eq_iff_iff, List.isEmpty_iff_length_eq_zero, List.isEmpty_iff_length_eq_zero, hlength]

end Course

/-! ## Counting -/

/-- The number of notes on all targets. -/
def noteCount (scripts : List Script) : Nat :=
  (scripts.map fun script => script.diagnostics.length).sum

/-- The notes on extensions are counted if there is a target to count them with. -/
theorem noteCount_noteFirst (notes : List Diagnostic) (scripts : List Script) :
    noteCount (noteFirst notes scripts) =
      (if scripts.isEmpty then 0 else notes.length) + noteCount scripts := by
  cases scripts with
  | nil => rfl
  | cons first rest =>
    simp only [noteFirst, noteCount, List.map_cons, List.sum_cons, List.length_append,
      List.isEmpty_cons]
    exact Nat.add_assoc _ _ _

theorem diagnosticCount_eq (report : Report) :
    report.diagnosticCount = noteCount report.scripts + report.assetDiagnostics.length := by
  unfold Report.diagnosticCount noteCount
  rw [List.length_flatMap]

/-- In a run that ends well, the report counts the notes on the targets and on the assets, and those
on extensions if there is a target. So it counts all notes of its stages if and only if there is a
target or no extension lacks a descriptor. -/
theorem diagnosticCount_counts_all_iff {files : Files (StateM W)}
    {announce : Progress → StateM W Unit} {options : Options} {input : String}
    {output : Option String} {report : Report} {before after : W}
    (h : Gives (run files announce options input output) before report after) :
    let tell (stage : Stage) := announce ⟨stage, stageCount output⟩
    ∃ directory opened parsed loaded closed project table notes compiled,
      Opens files input (told tell .opening before) directory opened ∧
      report.Course files tell options directory output opened parsed loaded closed project table
        notes compiled ∧
      report.diagnosticCount =
        (if project.targets.isEmpty then 0 else notes.length) + noteCount compiled +
          report.assetDiagnostics.length ∧
      (report.diagnosticCount =
          notes.length + noteCount compiled + report.assetDiagnostics.length ↔
        project.targets ≠ [] ∨ notes = []) := by
  intro tell
  unfold run at h
  have hopening := gives_of_lift_bind h
  obtain ⟨directory, opened, closed, hopens, hprocessed⟩ :=
    exists_opens_of_withProject hopening
  obtain ⟨parsed, loaded, project, table, notes, compiled, hcourse⟩ :=
    exists_course_of_processProject hprocessed
  have hcount : report.diagnosticCount =
      (if project.targets.isEmpty then 0 else notes.length) + noteCount compiled +
        report.assetDiagnostics.length := by
    rw [diagnosticCount_eq, hcourse.scripts_eq, noteCount_noteFirst, hcourse.isEmpty_compiled]
  refine ⟨directory, opened, parsed, loaded, closed, project, table, notes, compiled, hopens,
    hcourse, hcount, ?_⟩
  rw [hcount]
  -- without targets the two sums differ by the notes on extensions
  by_cases htargets : project.targets = []
  · simp only [htargets, List.isEmpty_nil, if_true, ne_eq, not_true_eq_false, false_or]
    rw [← List.length_eq_zero_iff]
    omega
  · have hsome : project.targets.isEmpty = false := List.isEmpty_eq_false_iff.2 htargets
    simp [hsome, htargets]

/-- A computation whose answer has a property ends well, with a value that has it. -/
theorem exists_gives_of_map {action : ExceptT Error (StateM W) α} {before : W} {f : α → β}
    {image : β} (h : (action.run.run before).1.map f = .ok image) :
    ∃ value after, Gives action before value after ∧ f value = image := by
  unfold Gives
  cases hrun : action.run.run before with
  | mk result after =>
    rw [hrun] at h
    cases result with
    | error error => cases h
    | ok value => exact ⟨value, after, rfl, Except.ok.inj h⟩

/-- A file system with a project in the directory `den`. -/
def projectTree (text : String) : FileTree where
  nodes := Dict.ofList [(["den"], .directory), (["den", projectFile], .file text.toUTF8)]
  current := []
  scratch := ["scratch"]

/-- A project without targets, with an extension that nothing describes. -/
def ruin : FileTree := projectTree "\x7b\"targets\":[],\"extensions\":[\"ghost\"]\x7d"

/-- The same with a target. -/
def manor : FileTree := projectTree
  "\x7b\"targets\":[\x7b\"name\":\"Owl\",\"isStage\":true\x7d],\"extensions\":[\"ghost\"]\x7d"

/-- In the project without targets the extension is noted, and the report counts nothing. -/
theorem ruin_note_is_lost :
    ∃ report after project parsed table notes loaded,
      Gives (run FileTree.files (fun _ => pure ()) {} "den" none) ruin report after ∧
      Gives (readProject FileTree.files "den") ruin project parsed ∧
      Gives (project.signatures (loadDescriptor FileTree.files [])) parsed (table, notes) loaded ∧
      project.scripts table = .ok [] ∧
      notes = [⟨none, .missingDescriptor "ghost" none⟩] ∧ report.diagnosticCount = 0 := by
  have hreport : ((run FileTree.files (fun _ => pure ()) {} "den" none).run.run ruin).1.map
      Report.diagnosticCount = .ok 0 := by
    decide +kernel
  -- the run tells only the count, so its first stages are run once more to see the note
  let loading : ExceptT Error (StateM FileTree) (Project × SignatureTable × List Diagnostic) := do
    let project ← readProject FileTree.files "den"
    let found ← project.signatures (loadDescriptor FileTree.files [])
    return (project, found)
  have hloading : (loading.run.run ruin).1.map (fun p => (p.1.targets.isEmpty, p.2.2)) =
      .ok (true, [⟨none, .missingDescriptor "ghost" none⟩]) := by
    decide +kernel
  obtain ⟨report, after, hrun, hcount⟩ := exists_gives_of_map hreport
  obtain ⟨_, _, hstages, hvalue⟩ := exists_gives_of_map hloading
  obtain ⟨project, parsed, hparses, hrest⟩ := exists_of_gives_bind hstages
  obtain ⟨⟨table, notes⟩, loaded, hloads, hlast⟩ := exists_of_gives_bind hrest
  obtain ⟨rfl, rfl⟩ := gives_pure_iff.1 hlast
  obtain ⟨htargets, hnotes⟩ := Prod.mk.inj hvalue
  refine ⟨report, after, project, parsed, table, notes, _, hrun, hparses, hloads, ?_, hnotes,
    hcount⟩
  unfold Project.scripts
  rw [List.isEmpty_iff.1 htargets]
  rfl

/-- In the project with a target the note is counted. -/
theorem manor_note_is_counted :
    ∃ report after, Gives (run FileTree.files (fun _ => pure ()) {} "den" (some "out")) manor report
        after ∧
      report.diagnosticCount = 1 ∧
      ∃ directory opened parsed loaded closed project table notes compiled,
        Opens FileTree.files "den" manor directory opened ∧
        report.Course FileTree.files (fun _ => pure ()) {} directory (some "out") opened parsed
          loaded closed project table notes compiled ∧
        1 = notes.length + noteCount compiled + report.assetDiagnostics.length := by
  have hreport : ((run FileTree.files (fun _ => pure ()) {} "den" (some "out")).run.run manor).1.map
      (fun report => (report.diagnosticCount, report.scripts.isEmpty)) = .ok (1, false) := by
    decide +kernel
  obtain ⟨report, after, hrun, hvalue⟩ := exists_gives_of_map hreport
  obtain ⟨hcount, hscripts⟩ := Prod.mk.inj hvalue
  obtain ⟨directory, opened, parsed, loaded, closed, project, table, notes, compiled, hopens,
    hcourse, -, hall⟩ := diagnosticCount_counts_all_iff hrun
  -- a script was written, so there is a target
  have htargets : project.targets ≠ [] := by
    intro hnone
    have hempty := hcourse.isEmpty_compiled
    rw [hnone, List.isEmpty_nil, List.isEmpty_iff] at hempty
    rw [hcourse.scripts_eq, hempty] at hscripts
    cases hscripts
  rw [hcount] at hall
  exact ⟨report, after, hrun, hcount, directory, opened, parsed, loaded, closed, project, table,
    notes, compiled, hopens, hcourse, hall.2 (.inl htargets)⟩

end BlockScribe
