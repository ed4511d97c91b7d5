import BlockScribe.Extension
import BlockScribe.Proofs.Attempts

/-! # What extensions lay over the palette

The table of a project starts as the palette, and each descriptor that is loaded writes its blocks
into it under its own id. What is written later hides what was there, be it of another extension, of
the same one, or of the palette: nothing keeps a descriptor from announcing an opcode of the
palette.

* `Extension.announcements`, `lastAnnounced?`: the opcodes and signatures that descriptors announce.
* `Project.usedIds`, `Project.loads`: the extensions that a project uses, and what a loader says
  about them.
* `signatures_overlay_palette`: the table of a project and its notes.
* `palette_kept_unless_announced`: when the table keeps a signature of the palette.
-/

namespace BlockScribe

/-! ## Announcements -/

/-- What a descriptor announces, in order: each block under the descriptor's id and its own opcode,
with its arguments for slots, as a hat if its type says so and else as a plain call. -/
def Extension.announcements (extension : Extension) : List (String × Signature) :=
  extension.blocks.map fun block =>
    (extension.id ++ "_" ++ block.opcode,
      ⟨block.argumentNames, if block.blockType ∈ ["event", "hat"] then .hat else .plain⟩)

/-- The signature that the descriptors announce last under an opcode. -/
def lastAnnounced? (descriptors : List Extension) (opcode : String) : Option Signature :=
  (descriptors.flatMap Extension.announcements).reverse.lookup opcode

theorem ExtensionBlock.signature_eq (block : ExtensionBlock) :
    block.signature =
      ⟨block.argumentNames, if block.blockType ∈ ["event", "hat"] then .hat else .plain⟩ := by
  unfold ExtensionBlock.signature
  simp only [List.mem_cons, List.not_mem_nil, or_false]

/-- Adding a descriptor writes its announcements from first to last. -/
theorem extendWith_eq_foldl (table : SignatureTable) (extension : Extension) :
    table.extendWith extension.id extension.blocks =
      extension.announcements.foldl (fun t a => t.insert a.1 a.2) table := by
  unfold SignatureTable.extendWith Extension.announcements ExtensionBlock.qualified
  rw [List.foldl_map]
  simp only [ExtensionBlock.signature_eq]

theorem extendAll_eq_foldl (table : SignatureTable) (loaded : List (Option Extension)) :
    table.extendAll loaded =
      ((loaded.filterMap id).flatMap Extension.announcements).foldl
        (fun t a => t.insert a.1 a.2) table := by
  unfold SignatureTable.extendAll
  rw [List.foldl_flatMap]
  simp only [extendWith_eq_foldl]

/-- After a descriptor was added, what it announces last counts, and where it announces nothing,
what the table had. -/
theorem get?_extendWith (table : SignatureTable) (extension : Extension) (opcode : String) :
    (table.extendWith extension.id extension.blocks).get? opcode =
      (lastAnnounced? [extension] opcode).or (table.get? opcode) := by
  rw [extendWith_eq_foldl, Dict.get?_foldl_insert]
  unfold lastAnnounced?
  rw [List.flatMap_singleton]

theorem get?_extendAll (table : SignatureTable) (loaded : List (Option Extension))
    (opcode : String) :
    (table.extendAll loaded).get? opcode =
      (lastAnnounced? (loaded.filterMap id) opcode).or (table.get? opcode) := by
  rw [extendAll_eq_foldl]
  exact Dict.get?_foldl_insert _ table opcode

/-- What is announced last is announced by one of the descriptors, under its id. -/
theorem exists_of_lastAnnounced? {descriptors : List Extension} {opcode : String}
    {signature : Signature} (h : lastAnnounced? descriptors opcode = some signature) :
    ∃ extension ∈ descriptors, (opcode, signature) ∈ extension.announcements := by
  obtain ⟨before, after, hsplit, -⟩ := List.lookup_eq_some_iff.1 h
  have hmem : (opcode, signature) ∈ (descriptors.flatMap Extension.announcements).reverse := by
    rw [hsplit]
    exact List.mem_append_right _ List.mem_cons_self
  exact List.mem_flatMap.1 (List.mem_reverse.1 hmem)

/-- An opcode starts with the id of the descriptor that announces it, and an underscore. -/
theorem Extension.isPrefix_of_mem_announcements {extension : Extension} {opcode : String}
    {signature : Signature} (h : (opcode, signature) ∈ extension.announcements) :
    (extension.id ++ "_").toList <+: opcode.toList := by
  obtain ⟨block, -, heq⟩ := List.mem_map.1 h
  rw [← (Prod.mk.inj heq).1]
  exact ⟨block.opcode.toList, String.toList_append.symm⟩

/-! ## Loading descriptors -/

/-- The ids of the extensions that a project uses: those that it lists, then those that it only
gives a place for, but for the ones whose blocks are in the palette. -/
def Project.usedIds (project : Project) : List String :=
  (project.extensions ++
    project.extensionUrls.keys.filter fun id => id ∉ project.extensions).filter
      fun id => id ∉ ["pen", "music"]

section Loading

variable {ε : Type} (load : (id : String) → (locator : Option String) → Except ε (Option Extension))
  (project : Project)

/-- What a loader says about an extension of a project: it is told the place that the project gives
for it. -/
def Project.loads (id : String) : Except ε (Option Extension) :=
  load id (project.extensionUrls.get? id)

/-- The descriptors that a loader has for the extensions of a project, in order. -/
def Project.descriptors : List Extension :=
  project.usedIds.filterMap fun id =>
    match project.loads load id with
    | .ok found => found
    | .error _ => none

/-- One note for each extension that a loader does not know, in order. -/
def Project.undescribed : List Diagnostic :=
  project.usedIds.filterMap fun id =>
    match project.loads load id with
    | .ok none => some ⟨none, .missingDescriptor id (project.extensionUrls.get? id)⟩
    | _ => none

theorem Project.extensionUses_eq :
    project.extensionUses =
      project.usedIds.map fun id => ⟨id, project.extensionUrls.get? id⟩ := by
  unfold Project.extensionUses Project.usedIds bundledExtensions
  simp

/-- The table and the notes are made of what a row of calls of the loader gives. -/
theorem Project.signatures_eq :
    project.signatures (fun use => load use.id use.locator) =
      (project.usedIds.mapM (project.loads load)).map fun loaded =>
        (SignatureTable.palette.extendAll loaded,
          missingDescriptors project.extensionUses loaded) := by
  have hrow : project.extensionUses.mapM (fun use => load use.id use.locator) =
      project.usedIds.mapM (project.loads load) := by
    rw [project.extensionUses_eq, List.mapM_map]
    rfl
  unfold Project.signatures
  rw [hrow]
  cases project.usedIds.mapM (project.loads load) with
  | error error => rfl
  | ok loaded => rfl

variable {load project} {loaded : List (Option Extension)}

/-- The descriptors are what a row of calls that ends well found. -/
theorem Project.descriptors_of_row
    (h : List.Forall₂ (fun id found => project.loads load id = .ok found) project.usedIds loaded) :
    project.descriptors load = loaded.filterMap id := by
  unfold Project.descriptors
  generalize project.usedIds = ids at h ⊢
  induction h with
  | nil => rfl
  | cons hfirst _ ih => simp only [List.filterMap_cons, hfirst, ih, id]

/-- The notes are on the extensions for which the row found nothing. -/
theorem Project.undescribed_of_row
    (h : List.Forall₂ (fun id found => project.loads load id = .ok found) project.usedIds loaded) :
    project.undescribed load = missingDescriptors project.extensionUses loaded := by
  rw [project.extensionUses_eq]
  unfold Project.undescribed missingDescriptors
  generalize project.usedIds = ids at h ⊢
  induction h with
  | nil => rfl
  | @cons id found ids others hfirst _ ih =>
    rw [List.map_cons, List.zip_cons_cons, List.filterMap_cons, List.filterMap_cons, ← ih, hfirst]
    cases found with
    | none => rfl
    | some extension => rfl

/-- Making the table fails as the row of calls does. -/
theorem Project.signatures_eq_error_iff {error : ε} :
    project.signatures (fun use => load use.id use.locator) = .error error ↔
      FailsFirst (project.loads load) project.usedIds error := by
  rw [project.signatures_eq, ← mapM_eq_error_iff]
  cases project.usedIds.mapM (project.loads load) with
  | error found => simp [Except.map]
  | ok loaded => simp [Except.map]

/-- What a table that is made says about an opcode, and the notes that come with it. -/
theorem Project.of_signatures_eq_ok {table : SignatureTable} {notes : List Diagnostic}
    (h : project.signatures (fun use => load use.id use.locator) = .ok (table, notes)) :
    notes = project.undescribed load ∧
      ∀ opcode, table.get? opcode =
        (lastAnnounced? (project.descriptors load) opcode).or
          (SignatureTable.palette.get? opcode) := by
  rw [project.signatures_eq] at h
  cases hrow : project.usedIds.mapM (project.loads load) with
  | error error =>
    rw [hrow] at h
    cases h
  | ok loaded =>
    rw [hrow] at h
    cases h
    -- no loader failed, so notes and descriptors are those of the answers
    have hfound := mapM_eq_ok_iff.1 hrow
    rw [Project.undescribed_of_row hfound, Project.descriptors_of_row hfound]
    exact ⟨rfl, get?_extendAll SignatureTable.palette loaded⟩

end Loading

/-! ## The table of a project -/

/-- The table of a project is the palette with the announcements of the loaded descriptors laid over
it. It is made unless the loader fails for an extension, and then the first such failure is what is
reported; the notes are one for each extension that the loader does not know. -/
theorem signatures_overlay_palette {ε : Type}
    (load : (id : String) → (locator : Option String) → Except ε (Option Extension))
    (project : Project) :
    let result := project.signatures fun use => load use.id use.locator
    ((∃ error, result = .error error) ↔
      ∃ id ∈ project.usedIds, ∃ error, project.loads load id = .error error) ∧
    (∀ error, result = .error error ↔
      FailsFirst (project.loads load) project.usedIds error) ∧
    ((∀ id ∈ project.usedIds, ∃ found, project.loads load id = .ok found) →
      ∃ table, result = .ok (table, project.undescribed load) ∧
        ∀ opcode, table.get? opcode =
          (lastAnnounced? (project.descriptors load) opcode).or
            (SignatureTable.palette.get? opcode)) := by
  intro result
  -- ids are loaded in order, so the first that fails gives its error to the whole
  have herror : ∀ error, result = .error error ↔
      FailsFirst (project.loads load) project.usedIds error :=
    fun error => Project.signatures_eq_error_iff
  refine ⟨?_, herror, ?_⟩
  · simp only [herror]
    exact exists_failsFirst_iff
  · intro hloaded
    obtain ⟨⟨table, notes⟩, hmade⟩ := (exists_ok_iff_of_failsFirst herror).2 hloaded
    obtain ⟨rfl, hlookup⟩ := Project.of_signatures_eq_ok hmade
    exact ⟨table, hmade, hlookup⟩

/-! ## What becomes of the palette -/

/-- A signature of the palette is kept unless some loaded descriptor announces another one under its
opcode, the last of them if there are several. No descriptor does whose id, with an underscore
behind it, is not what the opcode starts with. -/
theorem palette_kept_unless_announced {ε : Type}
    {load : (id : String) → (locator : Option String) → Except ε (Option Extension)}
    {project : Project} {table : SignatureTable} {notes : List Diagnostic}
    (h : project.signatures (fun use => load use.id use.locator) = .ok (table, notes))
    {opcode : String} {signature : Signature}
    (hpalette : SignatureTable.palette.get? opcode = some signature) :
    (table.get? opcode = some signature ↔
      ∀ announced, lastAnnounced? (project.descriptors load) opcode = some announced →
        announced = signature) ∧
    ((∀ extension ∈ project.descriptors load,
        ¬ (extension.id ++ "_").toList <+: opcode.toList) →
      table.get? opcode = some signature) := by
  obtain ⟨-, hlookup⟩ := Project.of_signatures_eq_ok h
  -- the last announcement hides the palette, so it has to say the same
  have hkept : table.get? opcode = some signature ↔
      ∀ announced, lastAnnounced? (project.descriptors load) opcode = some announced →
        announced = signature := by
    rw [hlookup, hpalette]
    cases lastAnnounced? (project.descriptors load) opcode with
    | none => simp
    | some announced => simp
  refine ⟨hkept, ?_⟩
  intro hapart
  rw [hkept]
  intro announced hannounced
  -- announced opcodes begin with the id of their extension
  obtain ⟨extension, hmem, hin⟩ := exists_of_lastAnnounced? hannounced
  exact absurd (Extension.isPrefix_of_mem_announcements hin) (hapart extension hmem)

/-- A descriptor that announces a loop of the palette as a plain block. -/
def hollowLoop : Extension := ⟨"control", [⟨"forever", [], "command"⟩]⟩

/-- A descriptor with the id of a bundled extension. It announces a block of that extension, with an
argument. -/
def colouredClear : Extension := ⟨"pen", [⟨"clear", ["COLOR"], "command"⟩]⟩

/-- A project that uses a bundled extension and two others. -/
def inkwell : Project := ⟨[], ["pen", "control", "ink"], .empty⟩

/-- Knows the descriptors of the two others. -/
def loadInk (id : String) (_locator : Option String) : Except Error (Option Extension) :=
  .ok (if id = "control" then some hollowLoop else if id = "ink" then some colouredClear else none)

/-- The table of the project. -/
def inkTable : SignatureTable :=
  SignatureTable.palette.extendAll [some hollowLoop, some colouredClear]

theorem signatures_inkwell :
    inkwell.signatures (fun use => loadInk use.id use.locator) = .ok (inkTable, []) :=
  rfl

/-- A loop of the palette loses its body to a descriptor, and a block of a bundled extension gets an
argument, without any note. -/
theorem ink_changes_palette :
    inkwell.signatures (fun use => loadInk use.id use.locator) = .ok (inkTable, []) ∧
    SignatureTable.palette.get? "control_forever" = some ⟨[], .branch ["SUBSTACK"]⟩ ∧
    inkTable.get? "control_forever" = some ⟨[], .plain⟩ ∧
    SignatureTable.palette.get? "pen_clear" = some ⟨[], .plain⟩ ∧
    inkTable.get? "pen_clear" = some ⟨["COLOR"], .plain⟩ := by
  unfold SignatureTable.palette
  rw [Dict.get?_ofList, Dict.get?_ofList, inkTable, get?_extendAll, get?_extendAll]
  exact ⟨rfl, by decide +kernel, by decide +kernel, by decide +kernel, by decide +kernel⟩

/-- What the two descriptors do not announce is as the palette has it, also under their ids. -/
theorem ink_keeps_condition :
    inkwell.signatures (fun use => loadInk use.id use.locator) = .ok (inkTable, []) ∧
    SignatureTable.palette.get? "control_if" = some ⟨["CONDITION"], .branch ["SUBSTACK"]⟩ ∧
    lastAnnounced? (inkwell.descriptors loadInk) "control_if" = none ∧
    inkTable.get? "control_if" = some ⟨["CONDITION"], .branch ["SUBSTACK"]⟩ := by
  -- the palette is looked up through its list of entries
  have hpalette : SignatureTable.palette.get? "control_if" =
      some ⟨["CONDITION"], .branch ["SUBSTACK"]⟩ := by
    unfold SignatureTable.palette
    rw [Dict.get?_ofList]
    decide +kernel
  have hnone : lastAnnounced? (inkwell.descriptors loadInk) "control_if" = none := by
    decide +kernel
  refine ⟨signatures_inkwell, hpalette, hnone, ?_⟩
  refine (palette_kept_unless_announced signatures_inkwell hpalette).1.2 ?_
  intro announced hannounced
  rw [hnone] at hannounced
  cases hannounced

end BlockScribe
