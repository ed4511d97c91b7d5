import BlockScribe.Proofs.Project.Grammar
import BlockScribe.Proofs.Target.Draft
import BlockScribe.Proofs.Target.Registration

/-! # Calls match headers

A call of a procedure is written with the name and the arguments that the procedure was
registered with. Procedures are registered before anything is written, and every script starts
from the registered scope or a copy of it, so a call finds the same registration wherever it
stands: before or behind the definition, in the procedure itself, or in another one. The header
is printed from the same registration, once, for the first definition of the proccode.

The head of a hat is not a call of a procedure, even if its opcode is that of one: the table is
asked about it first, and an extension may announce any opcode as a hat.

* `Target.Keyed`: blocks stand under their own ids, as in every target that was read
  (`keyed_of_ofJson`).
* `Draft.Phases.nodup_names`: no two headers carry the same name.
* `Draft.Phases.header_of_registered`: a registered procedure has a header.
* `Statement.WrittenAsHat`: what is written for the head of a hat.
-/

namespace BlockScribe

open Script

/-! ## Blocks under their own ids -/

/-- Every block of the target stands under its own id. -/
def Target.Keyed (target : Target) : Prop :=
  ∀ e ∈ target.blocks.entries, e.2.id = e.1

instance (target : Target) : Decidable target.Keyed :=
  inferInstanceAs (Decidable (∀ e ∈ target.blocks.entries, e.2.id = e.1))

/-- The reader puts every block under its own id. -/
theorem keyed_of_ofJson {value : Json} {target : Target} (h : Target.ofJson value = .ok target) :
    target.Keyed := by
  intro e he
  obtain ⟨_, -, hread⟩ := (Target.readFrom_of_ofJson h).blocks.exists_of_mem he
  exact hread.id

/-- Where blocks stand under their own ids, no two definitions have one id. -/
theorem nodup_ids_of_keyed {blocks : Dict String Block} (h : ∀ e ∈ blocks.entries, e.2.id = e.1) :
    ((definitions blocks).map Block.id).Nodup := by
  have hids : blocks.values.map Block.id = blocks.keys := by
    unfold Dict.values Dict.keys
    rw [List.map_map]
    exact List.map_congr_left h
  have hall : (blocks.values.map Block.id).Nodup := by
    rw [hids]
    exact blocks.distinct
  exact hall.sublist (List.filter_sublist.map Block.id)

theorem Target.Keyed.nodup_ids {target : Target} (h : target.Keyed) :
    ((definitions target.blocks).map Block.id).Nodup :=
  nodup_ids_of_keyed h

/-! ## Headers -/

section Headers

variable {table : SignatureTable} {target : Target} {start : Scope}
  {declared registered : Session} {draft : Draft}

/-- A target starts its registration without procedures. -/
theorem Draft.Phases.no_procedures (h : draft.Phases table target start declared registered)
    (hstart : start.procedures = .empty) : declared.scope.procedures = .empty := by
  rw [h.declared_scope, (Scope.growsTo_bindAll _ _).procedures_eq, hstart]

/-- A registered procedure comes from the first definition of its proccode. -/
theorem Draft.Phases.registered_first (h : draft.Phases table target start declared registered)
    (hstart : start.procedures = .empty) {proccode : String} {procedure : Procedure}
    (hprocedure : registered.scope.procedure? proccode = some procedure) :
    ∃ definition prototype,
      IsFirstDefinition target.blocks (definitions target.blocks) proccode definition prototype ∧
      procedure.RegisteredFrom definition prototype := by
  -- nothing was registered in front of the loop, so it was registered in it
  have hnew : declared.scope.procedure? proccode = none := by
    unfold Scope.procedure?
    rw [h.no_procedures hstart]
    rfl
  rcases registeredFrom_first h.registers hnew with ⟨hnone, -⟩ |
    ⟨found, definition, prototype, hfound, hfirst, hfrom⟩
  · rw [hprocedure] at hnone
    cases hnone
  · rw [hprocedure] at hfound
    cases hfound
    exact ⟨definition, prototype, hfirst, hfrom⟩

/-- A block defines at most one of the registered procedures. -/
theorem Draft.Phases.proccode_of_definition
    (h : draft.Phases table target start declared registered) (hstart : start.procedures = .empty)
    (hkeyed : target.Keyed) {proccode other : String} {procedure twin : Procedure}
    (hprocedure : registered.scope.procedure? proccode = some procedure)
    (htwin : registered.scope.procedure? other = some twin)
    (hsame : procedure.definition = twin.definition) : proccode = other := by
  rcases h.registered_first hstart hprocedure with ⟨first, prototype, hfirst, hfrom⟩
  rcases h.registered_first hstart htwin with ⟨second, prototype', hsecond, hfrom'⟩
  rcases hfirst with ⟨_, _, hlist, hread, rfl, -⟩
  rcases hsecond with ⟨_, _, hlist', hread', rfl, -⟩
  have hmem : first ∈ definitions target.blocks := by simp [hlist]
  have hmem' : second ∈ definitions target.blocks := by simp [hlist']
  -- both come from a definition with the same id, and there is only one
  rw [hfrom.definition_eq, hfrom'.definition_eq] at hsame
  have heq := List.inj_on_of_nodup_map hkeyed.nodup_ids hmem hmem' hsame
  rw [heq, hread'] at hread
  cases hread
  rfl

theorem Draft.Phases.definedBy?_of_registered
    (h : draft.Phases table target start declared registered) (hstart : start.procedures = .empty)
    (hkeyed : target.Keyed) {proccode : String} {procedure : Procedure}
    (hprocedure : registered.scope.procedure? proccode = some procedure) :
    registered.scope.definedBy? procedure.definition = some procedure := by
  have hmem : procedure ∈ registered.scope.procedures.values := Dict.mem_values_of_get? hprocedure
  unfold Scope.definedBy?
  cases hfind : registered.scope.procedures.values.find?
      fun p => p.definition == procedure.definition with
  | none =>
    have hnot := List.find?_eq_none.1 hfind procedure hmem
    simp at hnot
  | some found =>
    -- what is found is the procedure itself, since a block defines only one
    have hsame : found.definition = procedure.definition := by
      simpa using List.find?_some hfind
    rcases Dict.exists_get?_of_mem_values (List.mem_of_find?_eq_some hfind) with ⟨other, hother⟩
    have heq := h.proccode_of_definition hstart hkeyed hother hprocedure hsame
    have hfound : registered.scope.procedure? proccode = some found := heq ▸ hother
    rw [hprocedure] at hfound
    exact hfound.symm

/-- A registered procedure has a header, at the first definition of its proccode. -/
theorem Draft.Phases.header_of_registered
    (h : draft.Phases table target start declared registered) (hstart : start.procedures = .empty)
    (hkeyed : target.Keyed) {proccode : String} {procedure : Procedure}
    (hprocedure : registered.scope.procedure? proccode = some procedure) :
    ∃ header ∈ draft.procedures, header.procedure = procedure ∧ ∃ prototype,
      IsFirstDefinition target.blocks (definitions target.blocks) proccode header.definition
        prototype ∧
      procedure.RegisteredFrom header.definition prototype := by
  rcases h.registered_first hstart hprocedure with ⟨definition, prototype, hfirst, hfrom⟩
  have hdefined := h.definedBy?_of_registered hstart hkeyed hprocedure
  rw [hfrom.definition_eq] at hdefined
  -- a definition gets a header exactly if it defines some procedure
  have hmem : (definition, procedure) ∈
      draft.procedures.map fun p => (p.definition, p.procedure) := by
    rcases hfirst with ⟨earlier, later, hlist, -⟩
    rw [h.headers, List.mem_filterMap]
    refine ⟨definition, ?_, ?_⟩
    · simp [hlist]
    · simp [hdefined]
  rcases List.mem_map.1 hmem with ⟨header, hheader, heq⟩
  cases heq
  exact ⟨header, hheader, rfl, prototype, hfirst, hfrom⟩

/-- A header is printed from the registration of its definition. -/
theorem Draft.Phases.registered_of_header
    (h : draft.Phases table target start declared registered) {header : ProcedureDraft}
    (hheader : header ∈ draft.procedures) :
    header.procedure.definition = header.definition.id ∧
      ∃ proccode, registered.scope.procedure? proccode = some header.procedure := by
  have hmem : (header.definition, header.procedure) ∈
      draft.procedures.map fun p => (p.definition, p.procedure) :=
    List.mem_map.2 ⟨header, hheader, rfl⟩
  rw [h.headers, List.mem_filterMap] at hmem
  rcases hmem with ⟨block, -, hblock⟩
  rcases Option.map_eq_some_iff.1 hblock with ⟨procedure, hdefined, heq⟩
  cases heq
  unfold Scope.definedBy? at hdefined
  refine ⟨by simpa using List.find?_some hdefined, ?_⟩
  exact Dict.exists_get?_of_mem_values (List.mem_of_find?_eq_some hdefined)

/-- The written procedures are defined in the order of the file. -/
theorem Draft.Phases.definitions_sublist
    (h : draft.Phases table target start declared registered) :
    (draft.procedures.map ProcedureDraft.definition).Sublist (definitions target.blocks) := by
  have hsublist : ∀ list : List Block,
      ((list.filterMap fun block =>
        (registered.scope.definedBy? block.id).map fun procedure => (block, procedure)).map
          Prod.fst).Sublist list := by
    intro list
    induction list with
    | nil => exact .slnil
    | cons block rest ih =>
      -- a definition that lost its proccode is left out, and the order is kept
      cases hdefined : registered.scope.definedBy? block.id with
      | none => simpa [hdefined] using ih.cons block
      | some procedure => simpa [hdefined] using ih.cons_cons block
  have hdefinitions := hsublist (definitions target.blocks)
  rw [← h.headers, List.map_map] at hdefinitions
  exact hdefinitions

theorem Draft.Phases.nodup_definitions
    (h : draft.Phases table target start declared registered) (hkeyed : target.Keyed) :
    (draft.procedures.map fun p => p.definition.id).Nodup := by
  have hmap := h.definitions_sublist.map Block.id
  rw [List.map_map] at hmap
  exact hkeyed.nodup_ids.sublist hmap

/-- No two headers carry the same name. -/
theorem Draft.Phases.nodup_names (h : draft.Phases table target start declared registered)
    (hstart : start.procedures = .empty) (hkeyed : target.Keyed) :
    (draft.procedures.map fun p => p.procedure.name).Nodup := by
  have hdeclared : declared.scope.proceduresOnly.Hygienic := by
    unfold Scope.proceduresOnly
    rw [h.no_procedures hstart]
    exact Scope.hygienic_new declared.scope.isStage
  have hhygienic := hygienic_predeclareAll h.registers hdeclared
  have hdefinitions := h.nodup_definitions hkeyed
  refine List.Nodup.map_on ?_ (List.Nodup.of_map _ hdefinitions)
  intro first hfirst second hsecond hname
  rcases h.registered_of_header hfirst with ⟨hid, proccode, hprocedure⟩
  rcases h.registered_of_header hsecond with ⟨hid', other, htwin⟩
  -- equal names belong to one proccode, so to one procedure and one definition
  have heq := hhygienic.procedure_injective hprocedure htwin hname
  rw [heq, htwin] at hprocedure
  have hsame : first.definition.id = second.definition.id := by
    rw [← hid, ← hid', Option.some.inj hprocedure]
  exact List.inj_on_of_nodup_map hdefinitions hfirst hsecond hsame

end Headers

/-! ## Calls -/

/-- The proccode that a call asks for. -/
def Block.calledProccode (block : Block) : String := (block.mutation.bind Mutation.proccode).getD ""

/-- A call of a registered procedure has the form of its registration. -/
theorem Block.form_of_call {block : Block} (hopcode : block.opcode = "procedures_call")
    (hlog : block.calledProccode ≠ loggingProccode) {scope : Scope} {procedure : Procedure}
    (hprocedure : scope.procedure? block.calledProccode = some procedure) (table : SignatureTable)
    (headOnly : Bool) :
    block.form table scope headOnly = .call procedure.name procedure.arguments := by
  have hcall : block.callForm scope = .call procedure.name procedure.arguments := by
    unfold Block.callForm
    unfold Block.calledProccode at hlog hprocedure
    dsimp only
    rw [if_neg hlog, hprocedure]
  unfold Block.form
  rw [hopcode, hcall]
  simp

theorem Statement.text_of_call {statement : Statement} {name : String} {slots : List String}
    (hform : statement.form = .call name slots) :
    statement.text = callText name (textsOf statement.arguments) := by
  cases statement with
  | mk block form before arguments after bodies =>
    cases hform
    rfl

/-- None of the slots holds a literal of an unknown kind. -/
def Block.LiteralsKnown (block : Block) (slots : List String) : Prop :=
  ∀ slot ∈ slots, ∀ literal, block.inputs.get? slot = some (.literal literal) →
    ∀ code, literal.kind ≠ .other code

/-- Slots of a block are written one after the other, each as a text, from one session to
another. -/
inductive Block.SlotsWritten (nested : Nested) (block : Block) :
    Session → List String → List String → Session → Prop
  | nil (session : Session) : SlotsWritten nested block session [] [] session
  | cons {session between after : Session} {slot text : String} {slots texts : List String}
    (hfirst : renderSlot nested block slot session = .ok (some text) between)
    (hrest : SlotsWritten nested block between slots texts after) :
    SlotsWritten nested block session (slot :: slots) (text :: texts) after

theorem Block.SlotsWritten.length_eq {nested : Nested} {block : Block} {session after : Session}
    {slots texts : List String} (h : block.SlotsWritten nested session slots texts after) :
    texts.length = slots.length := by
  induction h with
  | nil session => rfl
  | cons _ _ ih => rw [List.length_cons, List.length_cons, ih]

theorem exists_literalText? {literal : Literal} (h : ∀ code, literal.kind ≠ .other code)
    (scope : Scope) : ∃ text, literalText? scope literal = some text := by
  unfold literalText?
  cases hkind : literal.kind with
  | other code => exact absurd hkind (h code)
  | _ => exact ⟨_, rfl⟩

/-- An argument is left out only for a literal of an unknown kind. -/
theorem Argument.Fills.exists_text {drafting : Drafting} {block : Block} {scope : Scope}
    {slot : String} {argument : Argument} (h : argument.Fills drafting block scope slot)
    (hknown : ∀ literal, block.inputs.get? slot = some (.literal literal) →
      ∀ code, literal.kind ≠ .other code) :
    ∃ text, argument.text? = some text := by
  cases h.filledFrom with
  | script _ _ => exact ⟨_, rfl⟩
  | literal hinput _ => exact exists_literalText? (hknown _ hinput) _
  | field _ _ _ => exact ⟨_, rfl⟩
  | absent _ _ => exact ⟨_, rfl⟩

/-- Without literals of unknown kinds there is one text for each slot. -/
theorem exists_texts_of_draftSlots {sources : Sources} {room : Nat} {entered : List String}
    {block : Block} {slots : List String} (hknown : block.LiteralsKnown slots)
    {session after : Session} {arguments : List Argument}
    (h : draftSlots (draftAt sources room entered) block slots session = .ok arguments after) :
    ∃ texts : List String, textsOf arguments = texts.map some ∧
      block.SlotsWritten (emitAt sources room entered) session slots texts after := by
  induction slots generalizing session arguments with
  | nil =>
    cases h
    exact ⟨[], rfl, .nil _⟩
  | cons slot rest ih =>
    unfold draftSlots at h
    rcases exists_of_bind_eq_ok h with ⟨argument, between, hfirst, h⟩
    rcases exists_of_bind_eq_ok h with ⟨others, finish, hrest, h⟩
    cases h
    -- only a literal of an unknown kind would have no text
    have hfills : argument.Fills (draftAt sources room entered) block session.scope slot :=
      ⟨session, between, Scope.GrowsTo.refl _, hfirst⟩
    rcases hfills.exists_text (hknown slot List.mem_cons_self) with ⟨text, htext⟩
    rcases ih (fun other hother => hknown other (List.mem_cons_of_mem _ hother)) hrest with
      ⟨texts, htexts, hwritten⟩
    have hslot : renderSlot (emitAt sources room entered) block slot session =
        .ok (some text) between := by
      rw [renderSlot_eq_draftSlot (emitAt_eq_draftAt sources room entered), map_of_ok hfirst,
        htext]
    refine ⟨text :: texts, ?_, .cons hslot hwritten⟩
    rw [textsOf, htext, htexts, List.map_cons]

/-- Every script starts from the registered procedures. -/
theorem Draft.Phases.placed_in_scripts {table : SignatureTable} {target : Target} {start : Scope}
    {declared registered : Session} {draft : Draft}
    (h : draft.Phases table target start declared registered) {lines : List Statement}
    (hlines : lines ∈ draft.scripts) {statement : Statement} (hwithin : statement.Within lines) :
    ∃ scope : Scope, scope.procedures = registered.scope.procedures ∧
      statement.Placed ⟨table, target.blocks⟩ scope ∧
        ∃ headOnly, statement.IsFormed table headOnly := by
  rcases List.mem_append.1 hlines with hprocedure | hentry
  · rcases List.mem_map.1 hprocedure with ⟨p, hp, rfl⟩
    rcases (h.bodies_given p hp).placed hwithin with ⟨hplaced, headOnly, -, hformed⟩
    exact ⟨_, procedures_inherited _ _, hplaced, headOnly, hformed⟩
  · rcases List.mem_flatMap.1 hentry with ⟨e, he, hscript⟩
    have hplaced := (h.entries_drafted e he).placed hscript hwithin
    exact ⟨_, rfl, hplaced⟩

/-- A prototype that is read names as many arguments as it has ids for. -/
theorem length_argumentNames {blocks : Dict String Block} {definition : Block}
    {prototype : Prototype} (h : Prototype.ofDefinition blocks definition = .ok prototype) :
    prototype.argumentNames.length = prototype.argumentIds.length := by
  unfold Prototype.ofDefinition at h
  split at h
  · cases h
  · split at h
    · cases h
    · split at h
      · cases h
      · split at h
        · cases h
        · -- every part is there: what is left are the two lists and the comparison of lengths
          rcases exists_of_except_bind_eq_ok h with ⟨ids, -, h⟩
          rcases exists_of_except_bind_eq_ok h with ⟨names, -, h⟩
          split at h
          · cases h
          · rename_i hlength
            cases h
            exact (not_not.1 hlength).symm

/-- A procedure names as many arguments as it has ids for. -/
theorem Procedure.RegisteredFrom.length_eq {blocks : Dict String Block}
    {procedure : Procedure} {definition : Block} {prototype : Prototype}
    (h : procedure.RegisteredFrom definition prototype)
    (hread : Prototype.ofDefinition blocks definition = .ok prototype) :
    procedure.argumentNames.length = procedure.arguments.length := by
  rw [h.argumentNames_eq, h.arguments_eq]
  exact length_argumentNames hread

theorem length_parameters {blocks : Dict String Block} {procedure : Procedure}
    {definition : Block} {prototype : Prototype}
    (hread : Prototype.ofDefinition blocks definition = .ok prototype)
    (h : procedure.RegisteredFrom definition prototype) :
    (parameters procedure).length = procedure.arguments.length := by
  unfold parameters
  rw [List.length_map, List.length_zip, h.length_eq hread, Nat.min_self]

/-- A header belongs to a proccode: it stands at the first definition of it, is printed from the
prototype there, and no other header carries its name. -/
structure Draft.IsHeader (draft : Draft) (blocks : Dict String Block) (proccode : String)
    (header : ProcedureDraft) : Prop where
  first : ∃ prototype,
    IsFirstDefinition blocks (definitions blocks) proccode header.definition prototype ∧
      header.procedure.RegisteredFrom header.definition prototype
  once : ∃ earlier later, draft.procedures = earlier ++ header :: later ∧
    ∀ other ∈ earlier ++ later, other.procedure.name ≠ header.procedure.name

/-- A call is written as a header demands: with the name of the header and, unless an argument is
a literal of an unknown kind, with one argument for each parameter, which are what is written for
the slots under the ids of the arguments, in order, from the scope of the call on. -/
structure Statement.MatchesHeader (statement : Statement) (sources : Sources)
    (header : ProcedureDraft) : Prop where
  text_eq : statement.text = callText header.procedure.name (textsOf statement.arguments)
  arguments_match : statement.block.LiteralsKnown header.procedure.arguments →
    ∃ texts : List String, textsOf statement.arguments = texts.map some ∧
      texts.length = (parameters header.procedure).length ∧
      ∃ room entered, ∃ session after : Session, session.scope = statement.before ∧
        statement.block.SlotsWritten (emitAt sources room entered) session
          header.procedure.arguments texts after

/-- The header of a registered procedure is the only one with its name. -/
theorem Draft.Phases.isHeader_of_registered {table : SignatureTable} {target : Target}
    {start : Scope} {declared registered : Session} {draft : Draft}
    (h : draft.Phases table target start declared registered) (hstart : start.procedures = .empty)
    (hkeyed : target.Keyed) {proccode : String} {procedure : Procedure}
    (hprocedure : registered.scope.procedure? proccode = some procedure) :
    ∃ header, header.procedure = procedure ∧ draft.IsHeader target.blocks proccode header := by
  rcases h.header_of_registered hstart hkeyed hprocedure with
    ⟨header, hmem, rfl, prototype, hfirst, hfrom⟩
  refine ⟨header, rfl, ⟨prototype, hfirst, hfrom⟩, ?_⟩
  rcases List.append_of_mem hmem with ⟨earlier, later, hlist⟩
  refine ⟨earlier, later, hlist, ?_⟩
  -- names without repetitions: none of the others has the name of this one
  have hnodup := h.nodup_names hstart hkeyed
  rw [hlist, List.map_append, List.map_cons, List.nodup_middle, List.nodup_cons,
    ← List.map_append] at hnodup
  intro other hother hname
  exact hnodup.1 (List.mem_map.2 ⟨other, hother, hname⟩)

/-- A call that finds its procedure matches the header of the procedure. -/
theorem Statement.Placed.matchesHeader {sources : Sources} {scope : Scope} {statement : Statement}
    (hplaced : statement.Placed sources scope) {headOnly : Bool}
    (hformed : statement.IsFormed sources.table headOnly)
    (hopcode : statement.block.opcode = "procedures_call")
    (hlog : statement.block.calledProccode ≠ loggingProccode) {header : ProcedureDraft}
    (hprocedure : scope.procedure? statement.block.calledProccode = some header.procedure)
    (hlength : (parameters header.procedure).length = header.procedure.arguments.length) :
    statement.MatchesHeader sources header := by
  rcases hplaced with ⟨room, entered, hdrafted⟩
  -- the scope has grown since, but its procedures are the same
  have hbefore : statement.before.procedure? statement.block.calledProccode =
      some header.procedure := by
    rw [hdrafted.before_grown.procedure?]
    exact hprocedure
  have hform := Eq.trans hformed
    (Block.form_of_call hopcode hlog hbefore sources.table headOnly)
  refine ⟨Statement.text_of_call hform, ?_⟩
  intro hknown
  rcases hdrafted.arguments_drafted with ⟨session, after, hsession, hdraft⟩
  rw [hform] at hdraft
  rcases exists_texts_of_draftSlots hknown hdraft with ⟨texts, htexts, hwritten⟩
  refine ⟨texts, htexts, ?_, room, entered, session, after, hsession, hwritten⟩
  rw [hwritten.length_eq, hlength]

theorem entry_eq_hat {table : SignatureTable} {block : Block} {slots : List String}
    (h : entry table block = .hat slots) :
    ∃ signature, table.get? block.opcode = some signature ∧ signature.isHat = true ∧
      signature.slots = slots := by
  unfold entry at h
  -- a reporter and an opcode that nothing describes are no hats
  split at h
  · cases h
  · split at h
    · rename_i signature hsignature
      refine ⟨signature, hsignature, ?_⟩
      split at h
      · cases h
        exact ⟨‹_›, rfl⟩
      · cases h
    · split at h
      · cases h
      · cases h

/-- The head of a hat is written as its opcode with what is written for the slots that the table
lists, and the table makes its block a hat. That its opcode may have a rule of its own, as that of a
call of a procedure has, does not matter here. -/
structure Statement.WrittenAsHat (sources : Sources) (head : Statement) : Prop where
  text_eq : head.text = callText head.block.opcode (textsOf head.arguments)
  slots_written : ∃ signature, sources.table.get? head.block.opcode = some signature ∧
    signature.isHat = true ∧ ∃ session after : Session,
      renderSlots (emitAt sources maxNesting []) head.block signature.slots session =
        .ok (textsOf head.arguments) after

theorem Draft.Phases.writtenAsHat {table : SignatureTable} {target : Target} {start : Scope}
    {declared registered : Session} {draft : Draft}
    (h : draft.Phases table target start declared registered) {head : Statement}
    {body : List Statement} (hhat : EntryDraft.hat head body ∈ draft.entries) :
    head.WrittenAsHat ⟨table, target.blocks⟩ := by
  rcases h.entries_drafted _ hhat with ⟨⟨slots, hentry, hform⟩, hdrafted, -⟩
  refine ⟨Statement.text_of_call hform, ?_⟩
  rcases entry_eq_hat hentry with ⟨signature, hsignature, hisHat, rfl⟩
  rcases hdrafted.arguments_drafted with ⟨session, after, -, hslots⟩
  rw [hform] at hslots
  refine ⟨signature, hsignature, hisHat, session, after, ?_⟩
  rw [renderSlots_eq_draftSlots (emitAt_eq_draftAt ⟨table, target.blocks⟩ maxNesting [])]
  exact map_of_ok hslots textsOf

/-- In a target that is written, a call of a procedure that the target defines, wherever it
stands in a script, matches the header of the first definition of its proccode. The heads of hats
are written by their opcodes, also where an extension made a hat of the opcode of calls. -/
theorem calls_match_first_header {table : SignatureTable} {target : Target}
    {globals : Dict String String} {script : Script} (hkeyed : target.Keyed)
    (hscript : Script.ofTarget table target globals = .ok script) :
    ∃ draft finish,
      draftTarget table target ⟨startScope target.isStage globals, []⟩ = .ok draft finish ∧
      script.source = draft.source ∧
      (∀ lines ∈ draft.scripts, ∀ statement : Statement, statement.Within lines →
        statement.block.opcode = "procedures_call" →
        statement.block.calledProccode ≠ loggingProccode →
        (∃ definition ∈ definitions target.blocks, ∃ prototype,
          Prototype.ofDefinition target.blocks definition = .ok prototype ∧
            prototype.proccode = statement.block.calledProccode) →
        ∃ header, draft.IsHeader target.blocks statement.block.calledProccode header ∧
          statement.MatchesHeader ⟨table, target.blocks⟩ header) ∧
      ∀ head body, EntryDraft.hat head body ∈ draft.entries →
        head.WrittenAsHat ⟨table, target.blocks⟩ := by
  rcases ofTarget_eq_ok hscript with ⟨draft, finish, hdraft, hsource⟩
  rcases phases_of_draftTarget hdraft with ⟨declared, registered, hphases⟩
  refine ⟨draft, finish, hdraft, hsource, ?_, fun head body hhat => hphases.writtenAsHat hhat⟩
  intro lines hlines statement hwithin hopcode hlog hdefined
  have hstart : (startScope target.isStage globals).procedures = .empty := by
    rw [startScope_eq]
  have hnew : declared.scope.procedure? statement.block.calledProccode = none := by
    unfold Scope.procedure?
    rw [hphases.no_procedures hstart]
    rfl
  -- some definition has the proccode, so it is registered, from the first of them
  rcases registeredFrom_first hphases.registers hnew with ⟨-, hnone⟩ |
    ⟨procedure, definition, prototype, hprocedure, hfirst, hfrom⟩
  · rcases hdefined with ⟨definition, hmem, prototype, hread, hproccode⟩
    exact absurd hproccode (hnone definition hmem prototype hread)
  · rcases hphases.isHeader_of_registered hstart hkeyed hprocedure with ⟨header, rfl, hheader⟩
    rcases hphases.placed_in_scripts hlines hwithin with
      ⟨scope, hscope, hplaced, headOnly, hformed⟩
    have hfound : scope.procedure? statement.block.calledProccode = some header.procedure := by
      unfold Scope.procedure?
      rw [hscope]
      exact hprocedure
    rcases hfirst with ⟨_, _, _, hread, -⟩
    have hlength := length_parameters hread hfrom
    exact ⟨header, hheader, hplaced.matchesHeader hformed hopcode hlog hfound hlength⟩

/-- A table with a single hat. -/
def flagTable : SignatureTable := Dict.empty.insert "event_whenflagclicked" ⟨[], .hat⟩

/-- A target with a procedure that calls itself, a second definition of its proccode, another
procedure of the same raw name, and a call in front of all of them. -/
def jumper : Target where
  name := "Jumper"
  isStage := false
  blocks := Dict.ofList [
    ("flag", ⟨"flag", "event_whenflagclicked", some "call", .empty, .empty, false, true, none⟩),
    ("call", ⟨"call", "procedures_call", none,
      Dict.ofList [("a", .literal ⟨.number, "1", none⟩)], .empty, false, false,
      some ⟨some "jump %s", none, none, false⟩⟩),
    ("first", ⟨"first", "procedures_definition", some "self",
      Dict.ofList [("custom_block", .block "firstType")], .empty, false, true, none⟩),
    ("firstType", ⟨"firstType", "procedures_prototype", none, .empty, .empty, true, false,
      some ⟨some "jump %s", some "[\"a\"]", some "[\"height\"]", false⟩⟩),
    ("self", ⟨"self", "procedures_call", none,
      Dict.ofList [("a", .literal ⟨.text, "far", none⟩)], .empty, false, false,
      some ⟨some "jump %s", none, none, false⟩⟩),
    ("second", ⟨"second", "procedures_definition", none,
      Dict.ofList [("custom_block", .block "secondType")], .empty, false, true, none⟩),
    ("secondType", ⟨"secondType", "procedures_prototype", none, .empty, .empty, true, false,
      some ⟨some "jump %s", some "[]", some "[]", false⟩⟩),
    ("other", ⟨"other", "procedures_definition", none,
      Dict.ofList [("custom_block", .block "otherType")], .empty, false, true, none⟩),
    ("otherType", ⟨"otherType", "procedures_prototype", none, .empty, .empty, true, false,
      some ⟨some "jump", some "[]", some "[]", false⟩⟩)]
  vars := .empty
  lists := .empty
  costumes := []
  sounds := []

def jumperScript : Script :=
  ⟨"Jumper", false, Layout.stack [header,
    "fn jump(height) \x7b", "\tjump(\"far\")", "\x7d",
    "fn jump_() \x7b", "", "\x7d",
    "event_whenflagclicked() \x7b", "\tjump(1)", "\x7d"],
    [⟨some "second", .repeatedProcedure "jump %s"⟩]⟩

/-- The call in front of the definitions matches the header of the first of them. -/
theorem jump_call_matches_header :
    jumper.Keyed ∧ Script.ofTarget flagTable jumper .empty = .ok jumperScript ∧
    ∃ draft finish,
      draftTarget flagTable jumper ⟨startScope jumper.isStage .empty, []⟩ = .ok draft finish ∧
      jumperScript.source = draft.source ∧
      ∃ lines ∈ draft.scripts, ∃ statement : Statement, statement.Within lines ∧
        statement.text = "jump(1)" ∧
        ∃ header, draft.IsHeader jumper.blocks "jump %s" header ∧
          statement.block.LiteralsKnown header.procedure.arguments ∧
          statement.MatchesHeader ⟨flagTable, jumper.blocks⟩ header := by
  have hkeyed : jumper.Keyed := by
    decide
  have hscript : Script.ofTarget flagTable jumper .empty = .ok jumperScript := by
    decide +kernel
  have hproccodes : ((definitions jumper.blocks).map fun definition =>
      (Prototype.ofDefinition jumper.blocks definition).map Prototype.proccode) =
      [.ok "jump %s", .ok "jump %s", .ok "jump"] := by
    decide +kernel
  have hcalls : (match draftTarget flagTable jumper ⟨startScope jumper.isStage .empty, []⟩ with
      | .ok draft _ => draft.scripts.flatten.map fun s =>
          (s.block.opcode, s.block.calledProccode, s.block.inputs.entries, s.text)
      | .error _ _ => []) =
      [("procedures_call", "jump %s", [("a", .literal ⟨.text, "far", none⟩)], "jump(\"far\")"),
        ("procedures_call", "jump %s", [("a", .literal ⟨.number, "1", none⟩)], "jump(1)")] := by
    decide +kernel
  -- the first definition has the proccode of the call
  have hdefined : ∃ definition ∈ definitions jumper.blocks, ∃ prototype,
      Prototype.ofDefinition jumper.blocks definition = .ok prototype ∧
        prototype.proccode = "jump %s" := by
    have hmem : (.ok "jump %s" : Except Error String) ∈ (definitions jumper.blocks).map
        fun definition => (Prototype.ofDefinition jumper.blocks definition).map
          Prototype.proccode := by
      rw [hproccodes]
      exact List.mem_cons_self
    rcases List.mem_map.1 hmem with ⟨definition, hdefinition, hproccode⟩
    cases hread : Prototype.ofDefinition jumper.blocks definition with
    | error error =>
      rw [hread] at hproccode
      cases hproccode
    | ok prototype =>
      rw [hread] at hproccode
      exact ⟨definition, hdefinition, prototype, hread, Except.ok.inj hproccode⟩
  rcases calls_match_first_header hkeyed hscript with
    ⟨draft, finish, hdraft, hsource, hmatching, -⟩
  refine ⟨hkeyed, hscript, draft, finish, hdraft, hsource, ?_⟩
  -- the second line of all scripts is the call of the hat
  rw [hdraft] at hcalls
  rcases List.map_eq_cons_iff.1 hcalls with ⟨first, others, hflat, -, hothers⟩
  rcases List.map_eq_cons_iff.1 hothers with ⟨statement, rest, rfl, hstatement, -⟩
  simp only [Prod.mk.injEq] at hstatement
  rcases hstatement with ⟨hopcode, hproccode, hinputs, htext⟩
  have hmem : statement ∈ draft.scripts.flatten := by
    rw [hflat]
    simp
  rcases List.mem_flatten.1 hmem with ⟨lines, hlines, hline⟩
  have hlog : statement.block.calledProccode ≠ loggingProccode := by
    rw [hproccode]
    decide
  have hknown : ∀ slots, statement.block.LiteralsKnown slots := by
    intro slots slot _ literal hget code hkind
    have hentry := Dict.mem_entries_of_get? hget
    rw [hinputs, List.mem_singleton] at hentry
    cases hentry
    cases hkind
  rcases hmatching lines hlines statement (.line hline) hopcode hlog
    (hproccode.symm ▸ hdefined) with ⟨header, hheader, hmatches⟩
  rw [hproccode] at hheader
  exact ⟨lines, hlines, statement, .line hline, htext, header, hheader, hknown _, hmatches⟩

/-- The table with the single hat, and an extension with the id `procedures` that announces a hat
under the opcode of calls. -/
def heraldTable : SignatureTable := flagTable.extendWith "procedures" [⟨"call", [], "hat"⟩]

/-- A target with a procedure, and a call of it at the top level. -/
def herald : Target where
  name := "Herald"
  isStage := false
  blocks := Dict.ofList [
    ("def", ⟨"def", "procedures_definition", none, Dict.ofList [("custom_block", .block "type")],
      .empty, false, true, none⟩),
    ("type", ⟨"type", "procedures_prototype", none, .empty, .empty, true, false,
      some ⟨some "jump", some "[]", some "[]", false⟩⟩),
    ("call", ⟨"call", "procedures_call", none, .empty, .empty, false, true,
      some ⟨some "jump", none, none, false⟩⟩)]
  vars := .empty
  lists := .empty
  costumes := []
  sounds := []

def heraldScript : Script :=
  ⟨"Herald", false, Layout.stack [header,
    "fn jump() \x7b", "", "\x7d",
    "procedures_call() \x7b", "", "\x7d"], []⟩

/-- The head of a hat. -/
def EntryDraft.head? : EntryDraft → Option Statement
  | .hat head _ => some head
  | .placeholder _ => none

/-- The heads of the hats. -/
def Draft.heads (draft : Draft) : List Statement := draft.entries.filterMap EntryDraft.head?

theorem exists_hat_of_mem_heads {draft : Draft} {head : Statement} (h : head ∈ draft.heads) :
    ∃ body, EntryDraft.hat head body ∈ draft.entries := by
  rcases List.mem_filterMap.1 h with ⟨entry, hentry, hhead⟩
  cases entry with
  | hat other body =>
    cases hhead
    exact ⟨body, hentry⟩
  | placeholder block => cases hhead

/-- As the head of a hat, a call of a procedure that the target defines does not have the name of
the procedure's header. -/
theorem announced_call_misses_header :
    herald.Keyed ∧ Script.ofTarget heraldTable herald .empty = .ok heraldScript ∧
    "jump" ≠ loggingProccode ∧
    (definitions herald.blocks).map (fun definition =>
      (Prototype.ofDefinition herald.blocks definition).map Prototype.proccode) = [.ok "jump"] ∧
    ∃ draft finish,
      draftTarget heraldTable herald ⟨startScope herald.isStage .empty, []⟩ = .ok draft finish ∧
      heraldScript.source = draft.source ∧
      ∃ head body, EntryDraft.hat head body ∈ draft.entries ∧
        head.block.opcode = "procedures_call" ∧ head.block.calledProccode = "jump" ∧
        ∀ header, draft.IsHeader herald.blocks "jump" header →
          ¬ head.MatchesHeader ⟨heraldTable, herald.blocks⟩ header := by
  have hscript : Script.ofTarget heraldTable herald .empty = .ok heraldScript := by
    decide +kernel
  have hfacts : (match draftTarget heraldTable herald ⟨startScope herald.isStage .empty, []⟩ with
      | .ok draft _ => decide ((∀ p ∈ draft.procedures, p.procedure.name = "jump") ∧
          ∃ head ∈ draft.heads, head.block.opcode = "procedures_call" ∧
            head.block.calledProccode = "jump" ∧ head.text = "procedures_call()" ∧
            textsOf head.arguments = [])
      | .error _ _ => false) = true := by
    decide +kernel
  rcases ofTarget_eq_ok hscript with ⟨draft, finish, hdraft, hsource⟩
  refine ⟨by decide, hscript, by decide, by decide +kernel, draft, finish, hdraft, hsource, ?_⟩
  rw [hdraft] at hfacts
  rcases of_decide_eq_true hfacts with
    ⟨hnames, head, hhead, hopcode, hproccode, htext, harguments⟩
  rcases exists_hat_of_mem_heads hhead with ⟨body, hentry⟩
  refine ⟨head, body, hentry, hopcode, hproccode, ?_⟩
  intro header hheader hmatches
  -- the header is one of the procedures, so its name is `jump`
  rcases hheader.once with ⟨earlier, later, hlist, -⟩
  have hname : header.procedure.name = "jump" := hnames header (by simp [hlist])
  have hcall := hmatches.text_eq
  rw [htext, hname, harguments] at hcall
  exact absurd hcall (by decide)

end BlockScribe
