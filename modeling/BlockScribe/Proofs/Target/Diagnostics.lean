import BlockScribe.Proofs.Emission.Notices
import BlockScribe.Proofs.Target.Calls

/-! # The diagnostics of a target

The diagnostics of a target account for its recoverable problems, each of them once:

* `repeatedDefinitions`: definitions whose proccode an earlier definition has;
* `strayBlocks`: blocks at the top level that nothing describes;
* the problems that the draft of the target shows, of its procedures first and then of its hats.

Registration notes the first kind before anything is drafted, the second kind is noted next, and
the third while the draft is made. The declarations of variables and lists note nothing.
-/

namespace BlockScribe

open Script

/-! ## Definitions and blocks at the top level -/

/-- The notes on the definitions whose proccode is known, or is that of a definition in front of
them. -/
def repeatedDefinitions (blocks : Dict String Block) :
    (known : List String) → List Block → List Diagnostic
  | _, [] => []
  | known, definition :: rest =>
    match Prototype.ofDefinition blocks definition with
    | .error _ => repeatedDefinitions blocks known rest
    | .ok prototype =>
      if prototype.proccode ∈ known then
        ⟨some definition.id, .repeatedProcedure prototype.proccode⟩ ::
          repeatedDefinitions blocks known rest
      else repeatedDefinitions blocks (prototype.proccode :: known) rest

/-- A run over definitions notes those with a proccode that is registered when they come. -/
theorem diagnostics_predeclareAll {blocks : Dict String Block} {list : List Block}
    {session after : Session} (h : predeclareAll blocks list session = .ok () after)
    {known : List String}
    (hknown : ∀ proccode, proccode ∈ known ↔ session.scope.procedure? proccode ≠ none) :
    after.diagnostics = session.diagnostics ++ repeatedDefinitions blocks known list := by
  induction list generalizing session known with
  | nil =>
    cases h
    exact (List.append_nil _).symm
  | cons definition rest ih =>
    rcases predeclareAll_cons_eq_ok h with ⟨prototype, hread, hrest⟩
    unfold repeatedDefinitions
    rw [hread]
    dsimp only
    -- the known proccodes are the registered ones, so a repetition is noted and nothing else
    by_cases hmem : prototype.proccode ∈ known
    · rw [if_pos hmem]
      have hregistered := (hknown prototype.proccode).1 hmem
      have hnoted : predeclared definition prototype session =
          { session with
            diagnostics := session.diagnostics ++
              [⟨some definition.id, .repeatedProcedure prototype.proccode⟩] } := by
        unfold predeclared
        split
        · rfl
        · rename_i hnone
          exact absurd hnone hregistered
      rw [hnoted] at hrest
      rw [ih hrest hknown, List.append_assoc, List.singleton_append]
    · rw [if_neg hmem]
      have hnew : session.scope.procedure? prototype.proccode = none := by
        by_contra hregistered
        exact hmem ((hknown _).2 hregistered)
      have hquiet : (predeclared definition prototype session).diagnostics =
          session.diagnostics := by
        unfold predeclared
        rw [hnew]
      -- registering makes the proccode known and leaves the others as they were
      have hnext : ∀ proccode, proccode ∈ prototype.proccode :: known ↔
          (predeclared definition prototype session).scope.procedure? proccode ≠ none := by
        intro proccode
        by_cases heq : proccode = prototype.proccode
        · rw [heq, procedure?_predeclared_of_new hnew]
          simp
        · rw [procedure?_predeclared_of_ne heq, ← hknown proccode]
          simp [heq]
      rw [ih hrest hnext, hquiet]

/-- The blocks at the top level that define no procedure, report no argument, are not in the table
and are not special, in the order of the file. -/
def strayBlocks (table : SignatureTable) (blocks : Dict String Block) : List Block :=
  blocks.values.filter fun b =>
    b.topLevel && !b.isDefinition && !b.isArgumentReporter && !table.contains b.opcode &&
      !b.isSpecial

theorem entry_eq_undefined_iff (table : SignatureTable) (block : Block) :
    entry table block = .undefined ↔
      block.isArgumentReporter = false ∧ table.contains block.opcode = false ∧
        block.isSpecial = false := by
  have hcontains : table.contains block.opcode = (table.get? block.opcode).isSome :=
    (Dict.isSome_get? table block.opcode).symm
  rw [hcontains]
  unfold entry
  -- the checks of an entry, in their order
  cases block.isArgumentReporter with
  | true => simp
  | false =>
    cases table.get? block.opcode with
    | some signature =>
      cases hhat : signature.isHat with
      | true => simp [hhat]
      | false => simp [hhat]
    | none =>
      cases block.isSpecial with
      | true => simp
      | false => simp

theorem undefinedEntries_eq_strayBlocks (table : SignatureTable) (blocks : Dict String Block) :
    undefinedEntries table blocks =
      (strayBlocks table blocks).flatMap fun b => b.noted (some (.undefinedOpcode b.opcode)) := by
  have hfilter : (entryBlocks blocks).filter (fun b => entry table b == .undefined) =
      strayBlocks table blocks := by
    unfold entryBlocks strayBlocks
    rw [List.filter_filter]
    refine List.filter_congr fun b _ => ?_
    rw [Bool.eq_iff_iff]
    simp only [Bool.and_eq_true, beq_iff_eq, Bool.not_eq_true', entry_eq_undefined_iff]
    constructor
    · rintro ⟨⟨hreporter, htable, hspecial⟩, htop, hdefinition⟩
      exact ⟨⟨⟨⟨htop, hdefinition⟩, hreporter⟩, htable⟩, hspecial⟩
    · rintro ⟨⟨⟨⟨htop, hdefinition⟩, hreporter⟩, htable⟩, hspecial⟩
      exact ⟨⟨hreporter, htable, hspecial⟩, htop, hdefinition⟩
  unfold undefinedEntries
  rw [hfilter, List.map_eq_flatMap]
  rfl

/-! ## Declarations -/

/-- Declarations note nothing if their values do not. -/
theorem notes_draftDeclarations {α : Type} {word : Bool → String} {raw : α → String}
    {value : String → α → Render String}
    (hvalue : ∀ id content, Notes (value id content) fun _ => [])
    (entries : List (String × α)) :
    Notes (draftDeclarations word raw value entries) fun _ => [] := by
  induction entries with
  | nil =>
    intro session after declarations h
    cases h
    exact (List.append_nil _).symm
  | cons e rest ih =>
    obtain ⟨id, content⟩ := e
    intro session after declarations h
    unfold draftDeclarations at h
    rcases exists_of_bind_eq_ok h with ⟨text, between, htext, h⟩
    rw [bind_of_ok (bindName_run id (raw content) between)] at h
    rcases exists_of_bind_eq_ok h with ⟨_, _, hget, h⟩
    cases hget
    rcases exists_of_bind_eq_ok h with ⟨others, finish, hrest, h⟩
    cases h
    -- binding notes nothing, so only the value could, and it does not
    have hfirst := hvalue id content htext
    have hothers := ih hrest
    exact append_of_append hfirst hothers

theorem notice?_ofValue (value : Json) : (Literal.ofValue value).notice? = none := by
  cases value with
  | _ => simp [Literal.ofValue, Literal.notice?, LiteralKind.written, LiteralKind.ofCode,
      List.range_succ]

theorem notes_initialText (id : String) (v : Variable) :
    Notes (initialText id v) fun _ => [] := by
  intro session after text h
  unfold initialText at h
  rcases exists_of_map_eq_ok h with ⟨_, hliteral, -⟩
  have hnoted := diagnostics_renderLiteral (initialAssignment id v) (Literal.ofValue v.value)
    session
  rw [endOf_of_ok hliteral, notice?_ofValue] at hnoted
  exact hnoted

/-! ## Procedures and hats -/

/-- The problems in the body of a procedure. -/
def ProcedureDraft.notices (draft : ProcedureDraft) : List Diagnostic := noticesOf draft.body

namespace EntryDraft

/-- The block at the top level. -/
def block : EntryDraft → Block
  | hat head _ => head.block
  | placeholder block => block

/-- The problems in the script of a hat. A placeholder is noted before any script is written. -/
def notices : EntryDraft → List Diagnostic
  | hat head body => head.notices ++ noticesOf body
  | placeholder _ => []

end EntryDraft

/-- The copy of a scope is dropped, what was noted on it is not. -/
theorem notes_onFork {α : Type} {render : Render α} {shown : α → List Diagnostic}
    (h : Notes render shown) (change : Scope → Scope) : Notes (onFork change render) shown := by
  intro session after value hrun
  rcases onFork_eq_ok hrun with ⟨inner, hinner, rfl⟩
  have hnoted := h hinner
  exact hnoted

section Drafting

variable {drafting : Drafting} (hdrafting : ∀ id mode, Notes (drafting id mode) noticesOf)
include hdrafting

/-- Procedures note the problems in their bodies, in order. -/
theorem notes_draftProcedures (list : List Block) :
    Notes (draftProcedures drafting list) fun drafts => drafts.flatMap ProcedureDraft.notices := by
  induction list with
  | nil =>
    intro session after drafts h
    cases h
    exact (List.append_nil _).symm
  | cons definition rest ih =>
    intro session after drafts h
    unfold draftProcedures at h
    rcases exists_of_bind_eq_ok h with ⟨_, _, hget, h⟩
    cases hget
    cases hdefined : session.scope.definedBy? definition.id with
    | none =>
      rw [hdefined] at h
      exact ih h
    | some procedure =>
      rw [hdefined] at h
      rcases exists_of_bind_eq_ok h with ⟨body, between, hbody, h⟩
      rcases exists_of_bind_eq_ok h with ⟨others, finish, hrest, h⟩
      cases h
      -- the body works on a copy of the scope, but its notes stay
      have hnoted := notes_onFork (notes_draftLink hdrafting definition.next) _ hbody
      exact append_of_append hnoted (ih hrest)

theorem notes_draftHat (block : Block) (slots : List String) :
    Notes (draftHat drafting block slots) EntryDraft.notices := by
  intro session after draft h
  rcases draftHat_eq_ok h with ⟨head, between, body, hhead, hbody, rfl⟩
  exact append_of_append (notes_draftForm hdrafting block _ hhead)
    (notes_draftLink hdrafting _ hbody)

theorem notes_draftEntries (table : SignatureTable) (list : List Block) :
    Notes (draftEntries table drafting list) fun drafts => drafts.flatMap EntryDraft.notices := by
  induction list with
  | nil =>
    intro session after drafts h
    cases h
    exact (List.append_nil _).symm
  | cons block rest ih =>
    intro session after drafts h
    unfold draftEntries at h
    cases hentry : entry table block with
    | hat slots =>
      rw [hentry] at h
      rcases exists_of_bind_eq_ok h with ⟨hat, between, hhat, h⟩
      rcases exists_of_bind_eq_ok h with ⟨others, finish, hothers, h⟩
      cases h
      exact append_of_append (notes_draftHat hdrafting block slots hhat) (ih hothers)
    | undefined =>
      rw [hentry] at h
      rcases exists_of_bind_eq_ok h with ⟨others, finish, hothers, h⟩
      cases h
      -- a placeholder was noted before the scripts were written
      have hnoted := ih hothers
      exact hnoted
    | nothing =>
      rw [hentry] at h
      exact ih h

end Drafting

/-- The drafts of entries are those of the blocks that leave something, in order. -/
theorem blocks_of_draftEntries {table : SignatureTable} {drafting : Drafting} {list : List Block}
    {session after : Session} {drafts : List EntryDraft}
    (h : draftEntries table drafting list session = .ok drafts after) :
    drafts.map EntryDraft.block = list.filter fun b => entry table b != .nothing := by
  induction list generalizing session drafts with
  | nil =>
    cases h
    rfl
  | cons block rest ih =>
    unfold draftEntries at h
    cases hentry : entry table block with
    | hat slots =>
      rw [hentry] at h
      rcases exists_of_bind_eq_ok h with ⟨hat, between, hhat, h⟩
      rcases exists_of_bind_eq_ok h with ⟨others, finish, hothers, h⟩
      cases h
      -- the block of a hat is the one that its head was drafted from
      have hblock : hat.block = block := by
        rcases draftHat_eq_ok hhat with ⟨head, _, body, hhead, -, rfl⟩
        rcases draftForm_eq_ok hhead with ⟨_, _, _, _, _, _, _, rfl⟩
        rfl
      rw [List.map_cons, hblock, ih hothers, List.filter_cons_of_pos]
      simp [hentry]
    | undefined =>
      rw [hentry] at h
      rcases exists_of_bind_eq_ok h with ⟨others, finish, hothers, h⟩
      cases h
      rw [List.map_cons, ih hothers, List.filter_cons_of_pos]
      · rfl
      · simp [hentry]
    | nothing =>
      rw [hentry] at h
      rw [ih h, List.filter_cons_of_neg]
      simp [hentry]

/-! ## Targets -/

/-- The work on a target notes, in this order, the repeated definitions, the stray blocks, and the
problems that its procedures and its hats show. -/
theorem Draft.Course.diagnostics {table : SignatureTable} {target : Target}
    {start declared registered finish : Session} {draft : Draft}
    (h : draft.Course table target start declared registered finish)
    (hstart : start.scope.procedures = .empty) :
    finish.diagnostics = start.diagnostics ++
      (repeatedDefinitions target.blocks [] (definitions target.blocks) ++
        undefinedEntries table target.blocks ++
        draft.procedures.flatMap ProcedureDraft.notices ++
        draft.entries.flatMap EntryDraft.notices) := by
  have hnone := h.phases.no_procedures hstart
  rcases h with ⟨⟨bound, hvars, hlists⟩, hregisters, forked, hprocedures, hentries⟩
  have hbound := notes_draftDeclarations notes_initialText _ hvars
  have hdeclared := notes_draftDeclarations (fun _ _ _ _ _ hpure => by
    cases hpure
    exact (List.append_nil _).symm) _ hlists
  -- no procedure is registered at the start, so no proccode is known
  have hknown : ∀ proccode, proccode ∈ ([] : List String) ↔
      declared.scope.procedure? proccode ≠ none := by
    intro proccode
    unfold Scope.procedure?
    rw [hnone]
    simp
  have hregistered := diagnostics_predeclareAll hregisters hknown
  have hdrafting := notes_draftAt ⟨table, target.blocks⟩ maxNesting []
  have hforked := notes_draftProcedures hdrafting _ hprocedures
  have hfinish := notes_draftEntries hdrafting table _ hentries
  -- each phase has put its notes behind those of the phases before
  rw [hfinish, hforked]
  dsimp only
  rw [hregistered, hdeclared, hbound]
  simp only [List.append_assoc, List.append_nil]

theorem diagnostics_of_ofTarget {table : SignatureTable} {target : Target}
    {globals : Dict String String} {script : Script}
    (h : Script.ofTarget table target globals = .ok script) {draft : Draft} {finish : Session}
    (hdraft : draftTarget table target ⟨startScope target.isStage globals, []⟩ =
      .ok draft finish) : script.diagnostics = finish.diagnostics := by
  unfold Script.ofTarget at h
  rw [renderTarget_eq_draftTarget, map_of_ok hdraft] at h
  cases h
  rfl

/-- The diagnostics of a target that is written are the repeated definitions, the stray blocks, and
then the problems that the draft behind the source shows, procedure by procedure and hat by hat in
the order of the file. Each is there once and carries the id of its block. -/
theorem diagnostics_are_exactly_the_problems {table : SignatureTable} {target : Target}
    {globals : Dict String String} {script : Script}
    (h : Script.ofTarget table target globals = .ok script) :
    ∃ draft finish,
      draftTarget table target ⟨startScope target.isStage globals, []⟩ = .ok draft finish ∧
      script.source = draft.source ∧
      (draft.procedures.map ProcedureDraft.definition).Sublist (definitions target.blocks) ∧
      draft.entries.map EntryDraft.block =
        (entryBlocks target.blocks).filter (fun b => entry table b != .nothing) ∧
      script.diagnostics =
        repeatedDefinitions target.blocks [] (definitions target.blocks) ++
        (strayBlocks table target.blocks).flatMap
          (fun b => b.noted (some (.undefinedOpcode b.opcode))) ++
        draft.procedures.flatMap ProcedureDraft.notices ++
        draft.entries.flatMap EntryDraft.notices := by
  rcases ofTarget_eq_ok h with ⟨draft, finish, hdraft, hsource⟩
  rcases course_of_draftTarget hdraft with ⟨declared, registered, hcourse⟩
  have hstart : (startScope target.isStage globals).procedures = .empty := by
    rw [startScope_eq]
  refine ⟨draft, finish, hdraft, hsource, hcourse.phases.definitions_sublist, ?_, ?_⟩
  · rcases hcourse.scripts_drafted with ⟨forked, -, hentries⟩
    exact blocks_of_draftEntries hentries
  · rw [diagnostics_of_ofTarget h hdraft, hcourse.diagnostics hstart,
      undefinedEntries_eq_strayBlocks, List.nil_append]

/-- A table with a hat, a plain block and a construct. -/
def clutterTable : SignatureTable :=
  Dict.ofList [("event_whenflagclicked", ⟨[], .hat⟩), ("looks_say", ⟨["MESSAGE"], .plain⟩),
    ("control_forever", ⟨[], .branch ["SUBSTACK"]⟩)]

/-- A target with a problem of every kind. -/
def clutter : Target where
  name := "Clutter"
  isStage := false
  blocks := Dict.ofList [
    ("flag", ⟨"flag", "event_whenflagclicked", some "say", .empty, .empty, false, true, none⟩),
    ("say", ⟨"say", "looks_say", some "loop",
      Dict.ofList [("MESSAGE", .block "odd")], .empty, false, false, none⟩),
    ("odd", ⟨"odd", "pen_odd", none, .empty, .empty, false, false, none⟩),
    ("loop", ⟨"loop", "control_forever", some "unset",
      Dict.ofList [("SUBSTACK", .block "call")], .empty, false, false, none⟩),
    ("call", ⟨"call", "procedures_call", none, .empty, .empty, false, false,
      some ⟨some "gone", none, none, false⟩⟩),
    ("unset", ⟨"unset", "data_setvariableto", none, .empty, .empty, false, false, none⟩),
    ("stray", ⟨"stray", "pen_stray", none, .empty, .empty, false, true, none⟩),
    ("first", ⟨"first", "procedures_definition", some "hint",
      Dict.ofList [("custom_block", .block "firstType")], .empty, false, true, none⟩),
    ("firstType", ⟨"firstType", "procedures_prototype", none, .empty, .empty, true, false,
      some ⟨some "hint", some "[]", some "[]", false⟩⟩),
    ("hint", ⟨"hint", "looks_say", none,
      Dict.ofList [("MESSAGE", .literal ⟨.ofCode 14, "?", none⟩)], .empty, false, false, none⟩),
    ("second", ⟨"second", "procedures_definition", none,
      Dict.ofList [("custom_block", .block "secondType")], .empty, false, true, none⟩),
    ("secondType", ⟨"secondType", "procedures_prototype", none, .empty, .empty, true, false,
      some ⟨some "hint", some "[]", some "[]", false⟩⟩)]
  vars := .empty
  lists := .empty
  costumes := []
  sounds := []

def clutterScript : Script :=
  ⟨"Clutter", false, Layout.stack [header,
    "fn hint() \x7b", "\tlooks_say()", "\x7d",
    "event_whenflagclicked() \x7b",
    "\tlooks_say(/* undefined definition for pen_odd */)",
    "\tcontrol_forever() \x7b",
    "\t\t/* unknown custom block gone */",
    "\t\x7d",
    "\t/* variable assignment without a variable */",
    "\x7d",
    "/* undefined definition for pen_stray */"],
    [⟨some "second", .repeatedProcedure "hint"⟩,
      ⟨some "stray", .undefinedOpcode "pen_stray"⟩,
      ⟨some "hint", .unknownLiteral 14⟩,
      ⟨some "odd", .undefinedOpcode "pen_odd"⟩,
      ⟨some "call", .unknownProcedure "gone"⟩,
      ⟨some "unset", .assignmentWithoutVariable⟩]⟩

/-- Each problem of the cluttered target is noted where it belongs. -/
theorem clutter_diagnostics_are_its_problems :
    Script.ofTarget clutterTable clutter .empty = .ok clutterScript ∧
    ∃ draft finish,
      draftTarget clutterTable clutter ⟨startScope clutter.isStage .empty, []⟩ =
        .ok draft finish ∧
      clutterScript.diagnostics =
        [⟨some "second", .repeatedProcedure "hint"⟩] ++
        [⟨some "stray", .undefinedOpcode "pen_stray"⟩] ++
        draft.procedures.flatMap ProcedureDraft.notices ++
        draft.entries.flatMap EntryDraft.notices := by
  have hscript : Script.ofTarget clutterTable clutter .empty = .ok clutterScript := by
    decide +kernel
  have hrepeated : repeatedDefinitions clutter.blocks [] (definitions clutter.blocks) =
      [⟨some "second", .repeatedProcedure "hint"⟩] := by
    decide +kernel
  have hstray : (strayBlocks clutterTable clutter.blocks).flatMap
      (fun b => b.noted (some (.undefinedOpcode b.opcode))) =
      [⟨some "stray", .undefinedOpcode "pen_stray"⟩] := by
    decide +kernel
  rcases diagnostics_are_exactly_the_problems hscript with
    ⟨draft, finish, hdraft, -, -, -, hdiagnostics⟩
  rw [hrepeated, hstray] at hdiagnostics
  exact ⟨hscript, draft, finish, hdraft, hdiagnostics⟩

end BlockScribe
