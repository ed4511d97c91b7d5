import BlockScribe.Proofs.Emission.Dependence
import BlockScribe.Proofs.Target.Draft

/-! # Blocks that nothing leads to

The work on a target starts from its blocks at the top level and follows links: hats and bodies of
procedures are written, prototypes of definitions are read. A block that is not reached this way
has no part in the result. Two tables that agree on what is reached, and have the same blocks at
the top level, give the same sources, the same diagnostics and the same errors
(`renderTarget_congr`); taking away blocks that are not reached is a case of this
(`ofTarget_without`).
-/

namespace BlockScribe

open Script

/-- The ids of the blocks at the top level. -/
def topLevelIds (blocks : Dict String Block) : Set String :=
  { id | ∃ block, blocks.get? id = some block ∧ block.topLevel = true }

/-- Which blocks stand at the top level can be read off the entries of the table. -/
theorem topLevelIds_subset_of_entries {blocks : Dict String Block} {kept : Set String}
    (h : ∀ entry ∈ blocks.entries, entry.2.topLevel = true → entry.1 ∈ kept) :
    topLevelIds blocks ⊆ kept := by
  rintro id ⟨block, hget, hlevel⟩
  exact h (id, block) (Dict.mem_entries_of_get? hget) hlevel

/-! ## Definitions -/

/-- Of the blocks around a definition, its prototype reads the mutation of the linked one. -/
theorem Prototype.ofDefinition_congr {blocks blocks' : Dict String Block}
    {definition definition' : Block} (hid : definition'.id = definition.id)
    (hinputs : definition'.inputs = definition.inputs)
    (hlookup : ∀ id ∈ definition.links,
      (blocks'.get? id).map Block.mutation = (blocks.get? id).map Block.mutation) :
    Prototype.ofDefinition blocks' definition' = Prototype.ofDefinition blocks definition := by
  -- of the definition only its id and its inputs are read
  have hsame : definition'.inputBlock? "custom_block" = definition.inputBlock? "custom_block" := by
    unfold Block.inputBlock?
    rw [hinputs]
  unfold Prototype.ofDefinition
  rw [hid, hsame]
  cases hlink : definition.inputBlock? "custom_block" with
  | none => rfl
  | some id =>
    -- of the prototype only the mutation
    have hmutation := hlookup id (Block.mem_links_of_input (Block.inputBlock?_eq_some hlink))
    cases hget : blocks.get? id with
    | none =>
      rw [hget] at hmutation
      have hget' : blocks'.get? id = none := Option.map_eq_none_iff.1 hmutation
      dsimp only
      rw [hget, hget']
    | some prototype =>
      rw [hget] at hmutation
      rcases Option.map_eq_some_iff.1 hmutation with ⟨prototype', hget', hmutation'⟩
      dsimp only
      rw [hget, hget']
      dsimp only
      rw [hmutation']

/-- Definitions with the same ids and the same prototypes register the same procedures. -/
theorem predeclareAll_congr {blocks blocks' : Dict String Block} {list list' : List Block}
    (h : List.Forall₂ (fun definition definition' => definition'.id = definition.id ∧
      Prototype.ofDefinition blocks' definition' = Prototype.ofDefinition blocks definition)
      list list') :
    predeclareAll blocks' list' = predeclareAll blocks list := by
  induction h with
  | nil => rfl
  | cons hfirst _ ih =>
    rcases hfirst with ⟨hid, hread⟩
    unfold predeclareAll predeclareOne
    rw [ih, hid, hread]

/-! ## Scripts -/

/-- Initial values are literals, so declarations do not write any blocks. -/
theorem declareVariables_congr (nested nested' : Nested) (entries : List (String × Variable)) :
    declareVariables nested' entries = declareVariables nested entries := by
  rw [declareVariables_eq_draftVariables, declareVariables_eq_draftVariables]

section Nested

variable {nested nested' : Nested} {kept : Set String}
  (hnested : ∀ id ∈ kept, nested' id = nested id)
include hnested

theorem renderRest_congr {block : Block} (hlinks : ∀ id ∈ block.links, id ∈ kept) :
    renderRest nested' block = renderRest nested block := by
  unfold renderRest
  cases hnext : block.next with
  | none => rfl
  | some next =>
    dsimp only
    rw [hnested next (hlinks next (Block.mem_links_of_next hnext))]

theorem renderHat_congr {block : Block} (hlinks : ∀ id ∈ block.links, id ∈ kept)
    (slots : List String) : renderHat nested' block slots = renderHat nested block slots := by
  unfold renderHat
  rw [renderCall_congr hnested hlinks, renderRest_congr hnested hlinks]

theorem renderProcedures_congr {list : List Block}
    (hlinks : ∀ block ∈ list, ∀ id ∈ block.links, id ∈ kept) :
    renderProcedures nested' list = renderProcedures nested list := by
  induction list with
  | nil => rfl
  | cons definition rest ih =>
    have hrest := ih fun block hblock => hlinks block (List.mem_cons_of_mem _ hblock)
    have hbody := renderRest_congr hnested (hlinks definition List.mem_cons_self)
    unfold renderProcedures renderProcedure
    rw [hrest, hbody]

theorem renderEntries_congr (table : SignatureTable) {list : List Block}
    (hlinks : ∀ block ∈ list, ∀ id ∈ block.links, id ∈ kept) :
    renderEntries table nested' list = renderEntries table nested list := by
  induction list with
  | nil => rfl
  | cons block rest ih =>
    have hrest := ih fun other hother => hlinks other (List.mem_cons_of_mem _ hother)
    unfold renderEntries
    rw [hrest]
    cases entry table block with
    | hat slots =>
      dsimp only
      rw [renderHat_congr hnested (hlinks block List.mem_cons_self)]
    | undefined => rfl
    | nothing => rfl

end Nested

/-! ## The whole work -/

/-- What blocks at the top level link to lies in every closed set around them. -/
theorem links_mem_of_topLevel {kept : Set String} {blocks : Dict String Block}
    (hclosed : ClosedUnderLinks blocks kept) (htop : topLevelIds blocks ⊆ kept)
    (chosen : Block → Bool) {block : Block}
    (hblock : block ∈ blocks.values.filter fun block => block.topLevel && chosen block) :
    ∀ id ∈ block.links, id ∈ kept := by
  rcases List.mem_filter.1 hblock with ⟨hvalue, hchosen⟩
  rcases Dict.exists_get?_of_mem_values hvalue with ⟨key, hget⟩
  have hkey : key ∈ kept := htop ⟨block, hget, (Bool.and_eq_true_iff.1 hchosen).1⟩
  intro id hid
  exact hclosed key hkey id ⟨block, hget, hid⟩

/-- The work on a target depends on what its blocks at the top level lead to, and on no other
block. -/
theorem renderTarget_congr (table : SignatureTable) (target : Target) {kept : Set String}
    {blocks' : Dict String Block} (hagree : AgreeOn kept target.blocks blocks')
    (htop : topLevelIds target.blocks ⊆ kept)
    (hsame : blocks'.values.filter Block.topLevel = target.blocks.values.filter Block.topLevel) :
    renderTarget table { target with blocks := blocks' } = renderTarget table target := by
  -- definitions and entries are chosen among the blocks at the top level
  have hchosen : ∀ (choose : Block → Bool) (blocks : Dict String Block),
      (blocks.values.filter fun block => block.topLevel && choose block) =
        (blocks.values.filter Block.topLevel).filter choose := by
    intro choose blocks
    rw [List.filter_filter]
    exact List.filter_congr fun block _ => Bool.and_comm _ _
  have hdefinitions : definitions blocks' = definitions target.blocks := by
    unfold definitions
    rw [hchosen, hchosen, hsame]
  have hentries : entryBlocks blocks' = entryBlocks target.blocks := by
    unfold entryBlocks
    rw [hchosen, hchosen, hsame]
  -- and all that they link to is kept
  have hdefinitionLinks : ∀ block ∈ definitions target.blocks, ∀ id ∈ block.links, id ∈ kept :=
    fun block hblock => links_mem_of_topLevel hagree.closed htop Block.isDefinition hblock
  have hentryLinks : ∀ block ∈ entryBlocks target.blocks, ∀ id ∈ block.links, id ∈ kept :=
    fun block hblock =>
      links_mem_of_topLevel hagree.closed htop (fun block => !block.isDefinition) hblock
  have hpredeclare : predeclare blocks' = predeclare target.blocks := by
    unfold predeclare
    rw [hdefinitions]
    refine predeclareAll_congr (List.forall₂_same.2 fun definition hdefinition => ⟨rfl, ?_⟩)
    refine Prototype.ofDefinition_congr rfl rfl fun id hid => ?_
    rw [hagree.get?_eq id (hdefinitionLinks definition hdefinition id hid)]
  have hnested : ∀ id ∈ kept, emitAt ⟨table, blocks'⟩ maxNesting [] id =
      emitAt ⟨table, target.blocks⟩ maxNesting [] id :=
    fun id hid => emitAt_congr hagree table maxNesting [] hid
  unfold renderTarget undefinedEntries
  dsimp only
  rw [declareVariables_congr (emitAt ⟨table, target.blocks⟩ maxNesting []), hpredeclare,
    hdefinitions, hentries, renderProcedures_congr hnested hdefinitionLinks,
    renderEntries_congr hnested table hentryLinks]

/-! ## Taking blocks away -/

section Filter

variable {α : Type} (d : Dict String α) (p : String → α → Bool)

theorem Dict.entries_filter : (d.filter p).entries = d.entries.filter fun e => p e.1 e.2 := by
  unfold Dict.filter Dict.filterMap
  dsimp only
  induction d.entries with
  | nil => rfl
  | cons e rest ih =>
    rw [List.filterMap_cons, List.filter_cons, ih]
    cases p e.1 e.2 with
    | true => rfl
    | false => rfl

theorem Dict.get?_filter {key : String} (hkey : ∀ value, p key value = true) :
    (d.filter p).get? key = d.get? key := by
  unfold Dict.get?
  rw [Dict.entries_filter]
  induction d.entries with
  | nil => rfl
  | cons e rest ih =>
    obtain ⟨k, value⟩ := e
    -- entries of the key are kept, and all others make no difference
    by_cases hk : key = k
    · subst hk
      simp only [List.filter_cons, hkey, if_true, List.lookup_cons_self]
    · have hb : (key == k) = false := by simpa using hk
      rw [List.lookup_cons, hb, List.filter_cons]
      split
      · rw [List.lookup_cons, hb]
        exact ih
      · exact ih

end Filter

/-- The target without the blocks whose ids are in a set. -/
def Target.without (target : Target) (unused : Set String) [DecidablePred (· ∈ unused)] : Target :=
  { target with blocks := target.blocks.filter fun id _ => decide (id ∉ unused) }

/-- Blocks at the top level that are not taken away are still there, in their order. -/
theorem topLevel_filter {blocks : Dict String Block} {p : String → Block → Bool}
    (h : ∀ id block, blocks.get? id = some block → block.topLevel = true → p id block = true) :
    (blocks.filter p).values.filter Block.topLevel = blocks.values.filter Block.topLevel := by
  unfold Dict.values
  rw [Dict.entries_filter, List.filter_map, List.filter_map, List.filter_filter]
  refine congrArg (List.map Prod.snd) (List.filter_congr fun e he => ?_)
  cases hlevel : e.2.topLevel with
  | false => simp [hlevel]
  | true => simp [hlevel, h e.1 e.2 (Dict.get?_of_mem_entries he) hlevel]

/-- Blocks that no block at the top level leads to do not matter: without them a target gives the
same script, or the same error. -/
theorem ofTarget_without (table : SignatureTable) (target : Target)
    (globals : Dict String String) (unused : Set String) [DecidablePred (· ∈ unused)]
    (hunused : ∀ id ∈ unused, id ∉ reachedFrom target.blocks (topLevelIds target.blocks)) :
    Script.ofTarget table (target.without unused) globals =
      Script.ofTarget table target globals := by
  have hkept : ∀ id ∈ reachedFrom target.blocks (topLevelIds target.blocks), id ∉ unused :=
    fun id hid hmem => hunused id hmem hid
  -- the work looks at reached blocks only, and none of them is unused
  have hagree : AgreeOn (reachedFrom target.blocks (topLevelIds target.blocks)) target.blocks
      (target.without unused).blocks := by
    refine ⟨closedUnderLinks_reachedFrom _ _, fun id hid => ?_⟩
    exact Dict.get?_filter _ _ fun _ => decide_eq_true (hkept id hid)
  -- blocks at the top level are reached, so all of them are kept
  have hsame : (target.without unused).blocks.values.filter Block.topLevel =
      target.blocks.values.filter Block.topLevel := by
    refine topLevel_filter fun id block hget hlevel => decide_eq_true ?_
    exact hkept id (subset_reachedFrom _ _ ⟨block, hget, hlevel⟩)
  have hwork : renderTarget table (target.without unused) = renderTarget table target :=
    renderTarget_congr table target hagree (subset_reachedFrom _ _) hsame
  unfold Script.ofTarget
  rw [hwork]
  rfl

/-- A table with a hat, a statement and a reporter. -/
def atticTable : SignatureTable :=
  Dict.ofList [("event_whenflagclicked", ⟨[], .hat⟩), ("motion_movesteps", ⟨["STEPS"], .plain⟩),
    ("operator_add", ⟨["NUM1", "NUM2"], .plain⟩)]

/-- A target with a hat, a procedure, and blocks that nothing leads to: one that comes back to
itself, and one of an unknown opcode that links to a missing block and into the script. -/
def attic : Target where
  name := "Attic"
  isStage := false
  blocks := Dict.ofList [
    ("loop", ⟨"loop", "motion_movesteps", some "loop", .empty, .empty, false, false, none⟩),
    ("flag", ⟨"flag", "event_whenflagclicked", some "move", .empty, .empty, false, true, none⟩),
    ("move", ⟨"move", "motion_movesteps", none,
      Dict.ofList [("STEPS", .block "sum")], .empty, false, false, none⟩),
    ("sum", ⟨"sum", "operator_add", none,
      Dict.ofList [("NUM1", .literal ⟨.number, "1", none⟩),
        ("NUM2", .literal ⟨.number, "2", none⟩)], .empty, false, false, none⟩),
    ("odd", ⟨"odd", "pen_odd", some "move",
      Dict.ofList [("SIZE", .block "gone")], .empty, false, false, none⟩),
    ("define", ⟨"define", "procedures_definition", some "turn",
      Dict.ofList [("custom_block", .block "type")], .empty, false, true, none⟩),
    ("type", ⟨"type", "procedures_prototype", none, .empty, .empty, true, false,
      some ⟨some "turn", some "[]", some "[]", false⟩⟩),
    ("turn", ⟨"turn", "motion_movesteps", none,
      Dict.ofList [("STEPS", .literal ⟨.number, "-1", none⟩)], .empty, false, false, none⟩)]
  vars := .empty
  lists := .empty
  costumes := []
  sounds := []

def atticScript : Script :=
  ⟨"Attic", false, Layout.stack [header,
    "fn turn() \x7b", "\tmotion_movesteps(-1)", "\x7d",
    "event_whenflagclicked() \x7b", "\tmotion_movesteps(operator_add(1, 2))", "\x7d"], []⟩

def atticLoft : Set String := { id | id ∈ ["loop", "odd", "gone"] }

instance : DecidablePred (· ∈ atticLoft) :=
  fun id => inferInstanceAs (Decidable (id ∈ ["loop", "odd", "gone"]))

/-- With its loft cleared, the attic gives the script that it gave before. -/
theorem attic_without_loft :
    (∀ id ∈ atticLoft, id ∉ reachedFrom attic.blocks (topLevelIds attic.blocks)) ∧
    (attic.without atticLoft).blocks.keys = ["flag", "move", "sum", "define", "type", "turn"] ∧
    Script.ofTarget atticTable (attic.without atticLoft) .empty = .ok atticScript := by
  -- no link leads from the rest of the attic into the loft
  have hlinks : ∀ entry ∈ attic.blocks.entries, entry.1 ∉ atticLoft →
      ∀ other ∈ entry.2.links, other ∉ atticLoft := by
    decide +kernel
  have hlevels : ∀ entry ∈ attic.blocks.entries, entry.2.topLevel = true →
      entry.1 ∉ atticLoft := by
    decide +kernel
  have hclosed : ClosedUnderLinks attic.blocks { id | id ∉ atticLoft } :=
    closedUnderLinks_of_entries hlinks
  have htop : topLevelIds attic.blocks ⊆ { id | id ∉ atticLoft } :=
    topLevelIds_subset_of_entries hlevels
  have hunused : ∀ id ∈ atticLoft, id ∉ reachedFrom attic.blocks (topLevelIds attic.blocks) :=
    fun id hid => hclosed.not_mem_reachedFrom htop fun hkept => hkept hid
  have hscript : Script.ofTarget atticTable attic .empty = .ok atticScript := by
    decide +kernel
  refine ⟨hunused, by decide +kernel, ?_⟩
  rw [ofTarget_without atticTable attic .empty atticLoft hunused]
  exact hscript

end BlockScribe
