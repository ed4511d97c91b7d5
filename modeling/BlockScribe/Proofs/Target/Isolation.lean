import BlockScribe.Proofs.Target.Unreached

/-! # Bodies of procedures are isolated

The body of a procedure is written with a copy of the scope and leaves nothing behind but its text
and its diagnostics. So what follows a definition decides on the text of its own procedure alone:
all other parts of the source are the same whatever follows it.

The other parts are written by `renderAround`, for the target as it is and without the one
procedure. `Target.Isolates.exists_around` says that a source, with whatever behind the definition,
consists of the parts that `renderAround` gives and the text of the procedure between them.

* `renderProcedures_keeps_scope`: procedures leave the scope as it was.
* `source_differs_in_own_procedure`: two sources differ in the text of the procedure alone.
-/

namespace BlockScribe

open Script

/-! ## Diagnostics are not looked at -/

section AddsNotes

variable {α : Type}

theorem AddsNotes.onFork {render : Render α} (h : AddsNotes render) (change : Scope → Scope) :
    AddsNotes (Script.onFork change render) := by
  intro earlier session
  -- the copy of the scope is made before anything is noted
  have hcopy := h earlier { session with scope := change session.scope }
  simp only [Session.behind] at hcopy
  unfold Script.onFork
  simp only [Session.behind]
  rw [hcopy]
  cases render { session with scope := change session.scope } with
  | ok value after => rfl
  | error failure after => rfl

theorem addsNotes_predeclareOne (blocks : Dict String Block) (definition : Block) :
    AddsNotes (predeclareOne blocks definition) := by
  intro earlier session
  cases hread : Prototype.ofDefinition blocks definition with
  | error error =>
    rw [predeclareOne_of_error hread, predeclareOne_of_error hread]
    rfl
  | ok prototype =>
    rw [predeclareOne_of_ok hread, predeclareOne_of_ok hread]
    unfold predeclared
    cases hknown : session.scope.procedure? prototype.proccode with
    | some procedure => simp [Session.behind, outcomeBehind, hknown]
    | none => simp [Session.behind, outcomeBehind, hknown]

theorem addsNotes_predeclareAll (blocks : Dict String Block) (list : List Block) :
    AddsNotes (predeclareAll blocks list) := by
  induction list with
  | nil => exact addsNotes_pure _
  | cons definition rest ih =>
    unfold predeclareAll
    exact (addsNotes_predeclareOne blocks definition).bind fun _ => ih

section Nested

variable {nested : Nested} (hnested : ∀ id level mode, AddsNotes (nested id level mode))
include hnested

theorem addsNotes_renderRest (block : Block) : AddsNotes (renderRest nested block) := by
  unfold renderRest
  cases block.next with
  | some next => exact hnested next 1 .chain
  | none => exact addsNotes_pure _

theorem addsNotes_renderProcedure (procedure : Procedure) (definition : Block) :
    AddsNotes (renderProcedure nested procedure definition) := by
  unfold renderProcedure
  exact ((addsNotes_renderRest hnested definition).onFork _).bind fun _ => addsNotes_pure _

theorem addsNotes_renderProcedures (list : List Block) :
    AddsNotes (renderProcedures nested list) := by
  induction list with
  | nil => exact addsNotes_pure _
  | cons definition rest ih =>
    unfold renderProcedures
    refine addsNotes_get_bind (fun _ _ => rfl) fun session => ?_
    cases session.scope.definedBy? definition.id with
    | none => exact ih
    | some procedure =>
      refine (addsNotes_renderProcedure hnested procedure definition).bind fun _ => ?_
      exact ih.bind fun _ => addsNotes_pure _

theorem addsNotes_renderHat (block : Block) (slots : List String) :
    AddsNotes (renderHat nested block slots) := by
  unfold renderHat
  refine (addsNotes_renderCall hnested block block.opcode slots).bind fun _ => ?_
  exact (addsNotes_renderRest hnested block).bind fun _ => addsNotes_pure _

theorem addsNotes_renderEntries (table : SignatureTable) (list : List Block) :
    AddsNotes (renderEntries table nested list) := by
  induction list with
  | nil => exact addsNotes_pure _
  | cons block rest ih =>
    unfold renderEntries
    cases entry table block with
    | hat slots =>
      refine (addsNotes_renderHat hnested block slots).bind fun _ => ?_
      exact ih.bind fun _ => addsNotes_pure _
    | undefined => exact ih.bind fun _ => addsNotes_pure _
    | nothing => exact ih

end Nested

end AddsNotes

/-! ## Procedures leave the scope as it was -/

theorem renderProcedure_keeps_scope {nested : Nested} {procedure : Procedure} {definition : Block}
    {session after : Session} {text : String}
    (h : renderProcedure nested procedure definition session = .ok text after) :
    after.scope = session.scope := by
  unfold renderProcedure at h
  rcases exists_of_bind_eq_ok h with ⟨body, between, hbody, h⟩
  cases h
  rcases onFork_eq_ok hbody with ⟨inner, -, rfl⟩
  rfl

theorem renderProcedures_keeps_scope {nested : Nested} {list : List Block}
    {session after : Session} {texts : List String}
    (h : renderProcedures nested list session = .ok texts after) :
    after.scope = session.scope := by
  induction list generalizing session texts with
  | nil =>
    cases h
    rfl
  | cons definition rest ih =>
    unfold renderProcedures at h
    rcases exists_of_bind_eq_ok h with ⟨_, _, hget, h⟩
    cases hget
    -- a definition without a procedure is passed over; a procedure works on a copy
    cases hdefined : session.scope.definedBy? definition.id with
    | none =>
      rw [hdefined] at h
      exact ih h
    | some procedure =>
      rw [hdefined] at h
      rcases exists_of_bind_eq_ok h with ⟨text, between, htext, h⟩
      rcases exists_of_bind_eq_ok h with ⟨others, finish, hrest, h⟩
      cases h
      rw [ih hrest, renderProcedure_keeps_scope htext]

/-- A procedure among others is written from the scope that the first of them found. -/
theorem renderProcedures_eq_ok {nested : Nested} {before after : List Block} {definition : Block}
    {procedure : Procedure} {session finish : Session} {texts : List String}
    (hdefined : session.scope.definedBy? definition.id = some procedure)
    (h : renderProcedures nested (before ++ definition :: after) session = .ok texts finish) :
    ∃ front first text second back,
      renderProcedures nested before session = .ok front first ∧
      renderProcedure nested procedure definition first = .ok text second ∧
      renderProcedures nested after second = .ok back finish ∧
      first.scope = session.scope ∧ second.scope = session.scope ∧
      texts = front ++ text :: back := by
  rw [renderProcedures_append] at h
  rcases exists_of_bind_eq_ok h with ⟨front, first, hfront, h⟩
  rcases exists_of_bind_eq_ok h with ⟨others, last, hothers, h⟩
  cases h
  -- the scope is still that of the session, so the definition finds its procedure
  have hfirst := renderProcedures_keeps_scope hfront
  unfold renderProcedures at hothers
  rcases exists_of_bind_eq_ok hothers with ⟨_, _, hget, hothers⟩
  cases hget
  rw [hfirst, hdefined] at hothers
  rcases exists_of_bind_eq_ok hothers with ⟨text, second, htext, hothers⟩
  rcases exists_of_bind_eq_ok hothers with ⟨back, last, hback, hothers⟩
  cases hothers
  have hsecond := (renderProcedure_keeps_scope htext).trans hfirst
  exact ⟨front, first, text, second, back, hfront, htext, hback, hfirst, hsecond, rfl⟩

/-! ## A definition among the blocks -/

/-- A known key is written over where it stands, and stands nowhere else. -/
theorem Dict.entries_insert_of_get? {α : Type} {d : Dict String α} {key : String} {old : α}
    (h : d.get? key = some old) :
    ∃ front back, d.entries = front ++ (key, old) :: back ∧
      (∀ value, (d.insert key value).entries = front ++ (key, value) :: back) ∧
      ∀ e ∈ front ++ back, e.1 ≠ key := by
  obtain ⟨front, back, hentries, -⟩ := List.lookup_eq_some_iff.1 h
  have hdistinct := d.distinct
  rw [hentries, List.map_append, List.map_cons, List.nodup_middle, List.nodup_cons,
    ← List.map_append] at hdistinct
  -- keys are distinct, so the entry is found and changed in one place
  have hother : ∀ e ∈ front ++ back, e.1 ≠ key := by
    intro e he heq
    exact hdistinct.1 (List.mem_map.2 ⟨e, he, heq⟩)
  refine ⟨front, back, hentries, fun value => ?_, hother⟩
  rw [Dict.entries_insert, hentries]
  clear hentries hdistinct
  induction front with
  | nil => simp [Dict.put]
  | cons e rest ih =>
    have hne : ¬ e.1 = key := hother e List.mem_cons_self
    have hrest := ih fun other he => hother other (List.mem_cons_of_mem _ he)
    simp [Dict.put, hne, hrest]

/-- The target with another block behind one of its definitions. -/
def Target.withNext (target : Target) (key : String) (definition : Block) (next : Option String) :
    Target :=
  { target with blocks := target.blocks.insert key { definition with next := next } }

section WithNext

variable {target : Target} {key : String} {definition : Block}

/-- The blocks of a list stand in a table under other keys than a given one. -/
def StandElsewhere (blocks : Dict String Block) (key : String) (list : List Block) : Prop :=
  ∀ block ∈ list, ∃ other, other ≠ key ∧ blocks.get? other = some block

/-- What blocks at the top level under other keys link to is reached without the given key. -/
theorem StandElsewhere.links_mem {blocks : Dict String Block} {key : String} {list : List Block}
    (h : StandElsewhere blocks key list) {block : Block} (hblock : block ∈ list)
    (hlevel : block.topLevel = true) :
    ∀ id ∈ block.links, id ∈ reachedFrom blocks (topLevelIds blocks \ {key}) := by
  rcases h block hblock with ⟨other, hne, hget⟩
  exact links_subset_reachedFrom ⟨⟨block, hget, hlevel⟩, hne⟩ hget

/-- The blocks in front of a definition and behind it stand under other keys, and stay where they
are whatever follows the definition. -/
theorem exists_values_around (hget : target.blocks.get? key = some definition) :
    ∃ front back, target.blocks.values = front ++ definition :: back ∧
      (∀ next, (target.withNext key definition next).blocks.values =
        front ++ { definition with next := next } :: back) ∧
      StandElsewhere target.blocks key (front ++ back) := by
  obtain ⟨front, back, hentries, hwritten, hother⟩ := Dict.entries_insert_of_get? hget
  refine ⟨front.map Prod.snd, back.map Prod.snd, ?_, fun next => ?_, fun block hblock => ?_⟩
  · rw [Dict.values, hentries, List.map_append, List.map_cons]
  · unfold Target.withNext Dict.values
    rw [hwritten, List.map_append, List.map_cons]
  · rw [← List.map_append] at hblock
    rcases List.mem_map.1 hblock with ⟨e, he, rfl⟩
    refine ⟨e.1, hother e he, Dict.get?_of_mem_entries ?_⟩
    rw [hentries]
    rcases List.mem_append.1 he with hfront | hback
    · exact List.mem_append_left _ hfront
    · exact List.mem_append_right _ (List.mem_cons_of_mem _ hback)

theorem get?_withNext (next : Option String) (id : String) :
    (target.withNext key definition next).blocks.get? id =
      if id = key then some { definition with next := next } else target.blocks.get? id :=
  Dict.get?_insert target.blocks key id _

/-- Whatever follows a definition, the mutations of all blocks are the same. -/
theorem mutation_withNext (hget : target.blocks.get? key = some definition)
    (next : Option String) (id : String) :
    ((target.withNext key definition next).blocks.get? id).map Block.mutation =
      (target.blocks.get? id).map Block.mutation := by
  rw [get?_withNext]
  split
  · rename_i heq
    rw [heq, hget]
    rfl
  · rfl

end WithNext

/-- The definitions at the top level among some blocks. -/
def definitionsIn (list : List Block) : List Block :=
  list.filter fun block => block.topLevel && block.isDefinition

theorem definitions_of_values {blocks : Dict String Block} {front back : List Block}
    {definition : Block} (hvalues : blocks.values = front ++ definition :: back)
    (htop : definition.topLevel = true) (hdefinition : definition.isDefinition = true) :
    definitions blocks = definitionsIn front ++ definition :: definitionsIn back := by
  unfold definitions definitionsIn
  rw [hvalues, List.filter_append, List.filter_cons]
  simp [htop, hdefinition]

theorem entryBlocks_of_values {blocks : Dict String Block} {front back : List Block}
    {definition : Block} (hvalues : blocks.values = front ++ definition :: back)
    (hdefinition : definition.isDefinition = true) :
    entryBlocks blocks =
      (front ++ back).filter fun block => block.topLevel && !block.isDefinition := by
  unfold entryBlocks
  rw [hvalues, List.filter_append, List.filter_append, List.filter_cons]
  simp [hdefinition]

/-! ## The parts around a procedure -/

/-- Writes all parts of a target but one procedure: those in front of it, and those behind it. The
blocks in front of its definition and behind the definition are given. -/
def renderAround (table : SignatureTable) (target : Target) (front back : List Block) :
    Work (List String × List String) := do
  let nested := emitAt ⟨table, target.blocks⟩ maxNesting []
  let vars ← work (declareVariables nested target.vars.entries)
  let lists ← work (declareLists target.lists.entries)
  predeclare target.blocks
  let first ← work (renderProcedures nested (definitionsIn front))
  let others ← work (renderProcedures nested (definitionsIn back))
  let entries ← work (renderEntries table nested (entryBlocks target.blocks))
  return (vars ++ lists ++ first, others ++ entries)

/-- The scope that the procedures and hats of a target start from: its variables and lists are
bound and its procedures registered. -/
def Target.scriptScope? (target : Target) (globals : Dict String String) : Option Scope :=
  match predeclare target.blocks
      ⟨(startScope target.isStage globals).bindAll target.rawNames, []⟩ with
  | .ok _ registered => some registered.scope
  | .error _ _ => none

theorem scope_of_declarations {nested : Nested} {target : Target}
    {session bound declared : Session} {vars lists : List String}
    (hvars : declareVariables nested target.vars.entries session = .ok vars bound)
    (hlists : declareLists target.lists.entries bound = .ok lists declared) :
    declared.scope = session.scope.bindAll target.rawNames := by
  rw [declareVariables_eq_draftVariables] at hvars
  rw [declareLists_eq_draftLists] at hlists
  rcases exists_of_map_eq_ok hvars with ⟨_, hvars, -⟩
  rcases exists_of_map_eq_ok hlists with ⟨_, hlists, -⟩
  rcases declares_of_draftDeclarations initialText_keeps_scope hvars with ⟨hbound, -⟩
  rcases declares_of_draftDeclarations (fun _ list session => ⟨_, _, rfl, rfl⟩) hlists with
    ⟨hdeclared, -⟩
  rw [hdeclared, hbound, ← Scope.bindAll_append]
  rfl

/-- The parts of a target that is written, with the sessions that they leave. -/
theorem renderTarget_eq_ok {table : SignatureTable} {target : Target} {session finish : Session}
    {parts : List String} (h : renderTarget table target session = .ok parts finish) :
    ∃ vars bound lists declared registered procedures forked entries,
      declareVariables (emitAt ⟨table, target.blocks⟩ maxNesting []) target.vars.entries session =
        .ok vars bound ∧
      declareLists target.lists.entries bound = .ok lists declared ∧
      predeclare target.blocks declared = .ok () registered ∧
      renderProcedures (emitAt ⟨table, target.blocks⟩ maxNesting []) (definitions target.blocks)
        { registered with
          diagnostics := registered.diagnostics ++ undefinedEntries table target.blocks } =
        .ok procedures forked ∧
      renderEntries table (emitAt ⟨table, target.blocks⟩ maxNesting [])
        (entryBlocks target.blocks) forked = .ok entries finish ∧
      parts = vars ++ lists ++ procedures ++ entries := by
  unfold renderTarget at h
  rcases exists_of_bind_eq_ok h with ⟨vars, bound, hvars, h⟩
  rcases exists_of_bind_eq_ok h with ⟨lists, declared, hlists, h⟩
  rcases exists_of_bind_eq_ok h with ⟨_, registered, hregisters, h⟩
  rcases exists_of_bind_eq_ok h with ⟨_, noted, hnoted, h⟩
  -- the notes on undefined entries are all that this step adds
  cases hnoted
  rcases exists_of_bind_eq_ok h with ⟨procedures, forked, hprocedures, h⟩
  rcases exists_of_bind_eq_ok h with ⟨entries, last, hentries, h⟩
  cases h
  exact ⟨vars, bound, lists, declared, registered, procedures, forked, entries,
    work_eq_ok hvars, work_eq_ok hlists, hregisters, work_eq_ok hprocedures,
    work_eq_ok hentries, rfl⟩

theorem work_of_ok {α : Type} {render : Render α} {session after : Session} {value : α}
    (h : render session = .ok value after) : work render session = .ok value after := by
  unfold work
  rw [h]

theorem scope_of_registers {target : Target} {globals : Dict String String} {scope : Scope}
    (hscope : target.scriptScope? globals = some scope) {declared registered : Session}
    (hdeclared : declared.scope = (startScope target.isStage globals).bindAll target.rawNames)
    (hregisters : predeclare target.blocks declared = .ok () registered) :
    registered.scope = scope := by
  -- the diagnostics that the declarations left do not matter
  have hbare : (⟨declared.scope, []⟩ : Session).scope = declared.scope := rfl
  rcases (addsNotes_predeclareAll target.blocks (definitions target.blocks)).rerun hregisters
    hbare with ⟨finish, hrun, hfinish⟩
  have hpredeclare : predeclare target.blocks ⟨declared.scope, []⟩ = .ok () finish := hrun
  unfold Target.scriptScope? at hscope
  rw [← hdeclared, hpredeclare] at hscope
  cases hscope
  exact hfinish.symm

/-- Renderings that were made from the registered scope, with whatever diagnostics, are made again
one after the other by `renderAround`. -/
theorem renderAround_of_runs {table : SignatureTable} {target : Target} {front back : List Block}
    {start bound declared registered : Session} {vars lists : List String}
    (hvars : declareVariables (emitAt ⟨table, target.blocks⟩ maxNesting []) target.vars.entries
      start = .ok vars bound)
    (hlists : declareLists target.lists.entries bound = .ok lists declared)
    (hregisters : predeclare target.blocks declared = .ok () registered)
    {session session' session'' after after' after'' : Session} {first others entries : List String}
    (hfirst : renderProcedures (emitAt ⟨table, target.blocks⟩ maxNesting []) (definitionsIn front)
      session = .ok first after) (hsession : session.scope = registered.scope)
    (hothers : renderProcedures (emitAt ⟨table, target.blocks⟩ maxNesting []) (definitionsIn back)
      session' = .ok others after') (hsession' : session'.scope = registered.scope)
    (hentries : renderEntries table (emitAt ⟨table, target.blocks⟩ maxNesting [])
      (entryBlocks target.blocks) session'' = .ok entries after'')
    (hsession'' : session''.scope = registered.scope) :
    ∃ last, renderAround table target front back start =
      .ok (vars ++ lists ++ first, others ++ entries) last := by
  have hnested := addsNotes_emitAt ⟨table, target.blocks⟩ maxNesting []
  -- a run depends on the scope alone, so each part runs again behind other notes
  rcases (addsNotes_renderProcedures hnested (definitionsIn front)).rerun hfirst
    hsession.symm with ⟨one, hone, -⟩
  have honeScope := renderProcedures_keeps_scope hone
  rcases (addsNotes_renderProcedures hnested (definitionsIn back)).rerun hothers
    (honeScope.trans hsession'.symm) with ⟨two, htwo, -⟩
  have htwoScope := (renderProcedures_keeps_scope htwo).trans honeScope
  rcases (addsNotes_renderEntries hnested table (entryBlocks target.blocks)).rerun hentries
    (htwoScope.trans hsession''.symm) with ⟨three, hthree, -⟩
  refine ⟨three, ?_⟩
  unfold renderAround
  rw [bind_of_ok (work_of_ok hvars), bind_of_ok (work_of_ok hlists), bind_of_ok hregisters,
    bind_of_ok (work_of_ok hone), bind_of_ok (work_of_ok htwo), bind_of_ok (work_of_ok hthree)]
  rfl

/-- A definition at the top level that no other block at the top level leads to. -/
structure Target.Isolates (target : Target) (key : String) (definition : Block) : Prop where
  get?_eq : target.blocks.get? key = some definition
  topLevel : definition.topLevel = true
  isDefinition : definition.isDefinition = true
  unreached : key ∉ reachedFrom target.blocks (topLevelIds target.blocks \ {key})

section Isolated

variable {target : Target} {key : String} {definition : Block}
  (hisolated : target.Isolates key definition)
include hisolated

/-- What is reached without the definition does not depend on what follows it. -/
theorem Target.Isolates.agreeOn (next : Option String) :
    AgreeOn (reachedFrom target.blocks (topLevelIds target.blocks \ {key})) target.blocks
      (target.withNext key definition next).blocks := by
  refine ⟨closedUnderLinks_reachedFrom _ _, fun id hid => ?_⟩
  have hne : id ≠ key := by
    intro heq
    exact hisolated.unreached (heq ▸ hid)
  rw [get?_withNext, if_neg hne]

theorem Target.Isolates.emitAt_eq (table : SignatureTable) (next : Option String) :
    ∀ id ∈ reachedFrom target.blocks (topLevelIds target.blocks \ {key}),
      emitAt ⟨table, (target.withNext key definition next).blocks⟩ maxNesting [] id =
        emitAt ⟨table, target.blocks⟩ maxNesting [] id :=
  fun _ hid => emitAt_congr (hisolated.agreeOn next) table maxNesting [] hid

theorem Target.Isolates.renderProcedures_eq (table : SignatureTable) (next : Option String)
    {list : List Block} (hlist : StandElsewhere target.blocks key list) :
    renderProcedures (emitAt ⟨table, (target.withNext key definition next).blocks⟩ maxNesting [])
        (definitionsIn list) =
      renderProcedures (emitAt ⟨table, target.blocks⟩ maxNesting []) (definitionsIn list) := by
  refine renderProcedures_congr (hisolated.emitAt_eq table next) fun block hblock => ?_
  rcases List.mem_filter.1 hblock with ⟨hmem, hchosen⟩
  exact hlist.links_mem hmem (Bool.and_eq_true_iff.1 hchosen).1

theorem Target.Isolates.renderEntries_eq (table : SignatureTable) (next : Option String) :
    renderEntries table
        (emitAt ⟨table, (target.withNext key definition next).blocks⟩ maxNesting [])
        (entryBlocks (target.withNext key definition next).blocks) =
      renderEntries table (emitAt ⟨table, target.blocks⟩ maxNesting [])
        (entryBlocks target.blocks) := by
  obtain ⟨front, back, hvalues, hwritten, hother⟩ := exists_values_around hisolated.get?_eq
  rw [entryBlocks_of_values (hwritten next) hisolated.isDefinition,
    entryBlocks_of_values hvalues hisolated.isDefinition]
  refine renderEntries_congr (hisolated.emitAt_eq table next) table fun block hblock => ?_
  rcases List.mem_filter.1 hblock with ⟨hmem, hchosen⟩
  exact hother.links_mem hmem (Bool.and_eq_true_iff.1 hchosen).1

theorem Target.Isolates.predeclare_eq (next : Option String) :
    predeclare (target.withNext key definition next).blocks = predeclare target.blocks := by
  obtain ⟨front, back, hvalues, hwritten, -⟩ := exists_values_around hisolated.get?_eq
  have hread : ∀ other other' : Block, other'.id = other.id → other'.inputs = other.inputs →
      Prototype.ofDefinition (target.withNext key definition next).blocks other' =
        Prototype.ofDefinition target.blocks other :=
    fun other other' hid hinputs => Prototype.ofDefinition_congr hid hinputs fun id _ =>
      mutation_withNext hisolated.get?_eq next id
  have hsame : ∀ list : List Block, List.Forall₂ (fun other other' => other'.id = other.id ∧
      Prototype.ofDefinition (target.withNext key definition next).blocks other' =
        Prototype.ofDefinition target.blocks other) list list :=
    fun list => List.forall₂_same.2 fun other _ => ⟨rfl, hread other other rfl rfl⟩
  unfold predeclare
  rw [definitions_of_values hvalues hisolated.topLevel hisolated.isDefinition,
    definitions_of_values (hwritten next) hisolated.topLevel hisolated.isDefinition]
  -- the one definition that differs has the id and the prototype that it had
  refine predeclareAll_congr (List.rel_append (hsame _) (.cons ⟨rfl, ?_⟩ (hsame _)))
  exact hread definition _ rfl rfl

/-- Whatever follows the definition, a source consists of the same parts around its procedure and
of the text of the procedure. -/
theorem Target.Isolates.exists_around (table : SignatureTable) {globals : Dict String String}
    {scope : Scope} {procedure : Procedure} (hscope : target.scriptScope? globals = some scope)
    (hdefined : scope.definedBy? definition.id = some procedure) :
    ∃ front back, ∀ next script,
      Script.ofTarget table (target.withNext key definition next) globals = .ok script →
      ∃ parts last text finish,
        renderAround table target front back ⟨startScope target.isStage globals, []⟩ =
          .ok parts last ∧
        renderProcedure
          (emitAt ⟨table, (target.withNext key definition next).blocks⟩ maxNesting [])
          procedure { definition with next := next } ⟨scope, []⟩ = .ok text finish ∧
        script.source = Layout.stack (header :: parts.1 ++ text :: parts.2) := by
  obtain ⟨front, back, hvalues, hwritten, hother⟩ := exists_values_around hisolated.get?_eq
  refine ⟨front, back, fun next script h => ?_⟩
  unfold Script.ofTarget at h
  cases hrun : renderTarget table (target.withNext key definition next)
      ⟨startScope (target.withNext key definition next).isStage globals, []⟩ with
  | error error finish =>
    rw [hrun] at h
    cases h
  | ok parts finish =>
    rw [hrun] at h
    cases h
    rcases renderTarget_eq_ok hrun with ⟨vars, bound, lists, declared, registered, procedures,
      forked, entries, hvars, hlists, hregisters, hprocedures, hentries, rfl⟩
    -- the scripts start from the scope of the target as it is
    rw [hisolated.predeclare_eq] at hregisters
    have hregistered : registered.scope = scope :=
      scope_of_registers hscope (scope_of_declarations hvars hlists) hregisters
    rw [definitions_of_values (hwritten next) hisolated.topLevel hisolated.isDefinition]
      at hprocedures
    rcases renderProcedures_eq_ok (hregistered ▸ hdefined) hprocedures with
      ⟨first, before, text, behind, others, hfirst, htext, hothers, hbefore, hbehind, rfl⟩
    have hforked := (renderProcedures_keeps_scope hothers).trans hbehind
    -- all parts but the procedure itself are those that the target as it is gives
    rw [declareVariables_congr (emitAt ⟨table, target.blocks⟩ maxNesting [])] at hvars
    rw [hisolated.renderProcedures_eq table next
      fun block hblock => hother block (List.mem_append_left _ hblock)] at hfirst
    rw [hisolated.renderProcedures_eq table next
      fun block hblock => hother block (List.mem_append_right _ hblock)] at hothers
    rw [hisolated.renderEntries_eq table next] at hentries
    rcases renderAround_of_runs hvars hlists hregisters hfirst rfl hothers hbehind hentries
      hforked with ⟨last, haround⟩
    have hown := addsNotes_renderProcedure
      (addsNotes_emitAt ⟨table, (target.withNext key definition next).blocks⟩ maxNesting [])
      procedure { definition with next := next }
    have hbare : (⟨scope, []⟩ : Session).scope = before.scope :=
      (hbefore.trans hregistered).symm
    rcases hown.rerun htext hbare with ⟨finish, htext, -⟩
    refine ⟨_, last, text, finish, haround, htext, ?_⟩
    simp

end Isolated

/-- What stands around a text that is put on lines of its own does not depend on the text. -/
theorem exists_stack_around (first : String) (front back : List String) :
    ∃ pre post, ∀ text,
      Layout.stack (first :: front ++ text :: back) = pre ++ text ++ post := by
  unfold Layout.stack
  -- the parts in front give a fixed text, and so do the parts behind
  induction front generalizing first with
  | nil =>
    cases back with
    | nil =>
      refine ⟨first ++ "\n", "", fun text => ?_⟩
      simp [String.intercalate_cons_cons, String.intercalate_singleton]
    | cons next rest =>
      refine ⟨first ++ "\n", "\n" ++ "\n".intercalate (next :: rest), fun text => ?_⟩
      simp [String.intercalate_cons_cons, String.append_assoc]
  | cons second rest ih =>
    rcases ih second with ⟨pre, post, hrest⟩
    refine ⟨first ++ "\n" ++ pre, post, fun text => ?_⟩
    have htext := hrest text
    simp only [List.cons_append] at htext ⊢
    rw [String.intercalate_cons_cons, htext]
    simp [String.append_assoc]

/-- What follows a definition decides on the text of its own procedure alone: two sources that
differ in it are the same in front of that text and behind it. -/
theorem source_differs_in_own_procedure {table : SignatureTable} {target : Target}
    {globals : Dict String String} {key : String} {definition : Block} {scope : Scope}
    {procedure : Procedure} (hisolated : target.Isolates key definition)
    (hscope : target.scriptScope? globals = some scope)
    (hdefined : scope.definedBy? definition.id = some procedure)
    {next next' : Option String} {script script' : Script}
    (h : Script.ofTarget table (target.withNext key definition next) globals = .ok script)
    (h' : Script.ofTarget table (target.withNext key definition next') globals = .ok script') :
    ∃ pre post text text' finish finish',
      renderProcedure
        (emitAt ⟨table, (target.withNext key definition next).blocks⟩ maxNesting [])
        procedure { definition with next := next } ⟨scope, []⟩ = .ok text finish ∧
      renderProcedure
        (emitAt ⟨table, (target.withNext key definition next').blocks⟩ maxNesting [])
        procedure { definition with next := next' } ⟨scope, []⟩ = .ok text' finish' ∧
      script.source = pre ++ text ++ post ∧ script'.source = pre ++ text' ++ post := by
  rcases hisolated.exists_around table hscope hdefined with ⟨front, back, haround⟩
  rcases haround next script h with ⟨parts, last, text, finish, hparts, htext, hsource⟩
  rcases haround next' script' h' with ⟨parts', last', text', finish', hparts', htext', hsource'⟩
  -- both sources have the parts that `renderAround` gives
  rw [hparts] at hparts'
  cases hparts'
  rcases exists_stack_around header parts.1 parts.2 with ⟨pre, post, hstack⟩
  refine ⟨pre, post, text, text', finish, finish', htext, htext', ?_, ?_⟩
  · rw [hsource, hstack]
  · rw [hsource', hstack]

/-- The definition of the first procedure of the jukebox. -/
def playDefinition : Block :=
  ⟨"play", "procedures_definition", none,
    Dict.ofList [("custom_block", .block "playType")], .empty, false, true, none⟩

/-- A target with two procedures and a hat, in which a variable is assigned that is declared
nowhere. -/
def jukebox : Target where
  name := "Jukebox"
  isStage := false
  blocks := Dict.ofList [
    ("play", playDefinition),
    ("playType", ⟨"playType", "procedures_prototype", none, .empty, .empty, true, false,
      some ⟨some "play %s", some "[\"a\"]", some "[\"song\"]", false⟩⟩),
    ("stop", ⟨"stop", "procedures_definition", some "slow",
      Dict.ofList [("custom_block", .block "stopType")], .empty, false, true, none⟩),
    ("stopType", ⟨"stopType", "procedures_prototype", none, .empty, .empty, true, false,
      some ⟨some "stop", some "[]", some "[]", false⟩⟩),
    ("flag", ⟨"flag", "event_whenflagclicked", some "slow", .empty, .empty, false, true, none⟩),
    ("slow", ⟨"slow", "data_setvariableto", some "odd",
      Dict.ofList [("VALUE", .literal ⟨.number, "0", none⟩)],
      Dict.ofList [("VARIABLE", ⟨"speed", some "v"⟩)], false, false, none⟩),
    ("odd", ⟨"odd", "pen_odd", none, .empty, .empty, false, false, none⟩)]
  vars := .empty
  lists := .empty
  costumes := []
  sounds := []

/-- The script of the jukebox with given lines in its first procedure and given diagnostics of
them. -/
def jukeboxScript (body : List String) (diagnostics : List Diagnostic) : Script :=
  ⟨"Jukebox", false, Layout.stack ([header, "fn play(song) \x7b"] ++ body ++ ["\x7d",
    "fn stop() \x7b", "\tvar speed = 0", "\t/* undefined definition for pen_odd */", "\x7d",
    "event_whenflagclicked() \x7b", "\tvar speed = 0",
    "\t/* undefined definition for pen_odd */", "\x7d"]),
    diagnostics ++ [⟨some "odd", .undefinedOpcode "pen_odd"⟩,
      ⟨some "odd", .undefinedOpcode "pen_odd"⟩]⟩

/-- A body that binds the variable and leaves a diagnostic changes its own procedure alone. -/
theorem jukebox_differs_in_play :
    jukebox.Isolates "play" playDefinition ∧
    Script.ofTarget atticTable (jukebox.withNext "play" playDefinition none) .empty =
      .ok (jukeboxScript [""] []) ∧
    Script.ofTarget atticTable (jukebox.withNext "play" playDefinition (some "slow")) .empty =
      .ok (jukeboxScript ["\tvar speed = 0", "\t/* undefined definition for pen_odd */"]
        [⟨some "odd", .undefinedOpcode "pen_odd"⟩]) ∧
    ∃ scope procedure, jukebox.scriptScope? .empty = some scope ∧
      scope.definedBy? playDefinition.id = some procedure ∧ procedure.name = "play" ∧
      ∃ pre post text text' finish finish',
        renderProcedure
          (emitAt ⟨atticTable, (jukebox.withNext "play" playDefinition none).blocks⟩ maxNesting [])
          procedure { playDefinition with next := none } ⟨scope, []⟩ = .ok text finish ∧
        renderProcedure
          (emitAt ⟨atticTable, (jukebox.withNext "play" playDefinition (some "slow")).blocks⟩
            maxNesting [])
          procedure { playDefinition with next := some "slow" } ⟨scope, []⟩ = .ok text' finish' ∧
        (jukeboxScript [""] []).source = pre ++ text ++ post ∧
        (jukeboxScript ["\tvar speed = 0", "\t/* undefined definition for pen_odd */"]
          [⟨some "odd", .undefinedOpcode "pen_odd"⟩]).source = pre ++ text' ++ post := by
  have hget : jukebox.blocks.get? "play" = some playDefinition := by
    rfl
  -- no block links to the definition
  have hlinks : ∀ entry ∈ jukebox.blocks.entries, entry.1 ≠ "play" →
      ∀ other ∈ entry.2.links, other ≠ "play" := by
    decide +kernel
  have hclosed : ClosedUnderLinks jukebox.blocks { id | id ≠ "play" } :=
    closedUnderLinks_of_entries hlinks
  have hunreached : "play" ∉ reachedFrom jukebox.blocks (topLevelIds jukebox.blocks \ {"play"}) :=
    hclosed.not_mem_reachedFrom (fun id hid => hid.2) fun hkept => hkept rfl
  have hisolated : jukebox.Isolates "play" playDefinition := ⟨hget, rfl, rfl, hunreached⟩
  have hregistered : ((jukebox.scriptScope? .empty).bind fun scope =>
      scope.definedBy? playDefinition.id) = some ⟨"play", "play", ["a"], ["song"], false⟩ := by
    decide +kernel
  rcases Option.bind_eq_some_iff.1 hregistered with ⟨scope, hscope, hdefined⟩
  have hempty : Script.ofTarget atticTable (jukebox.withNext "play" playDefinition none) .empty =
      .ok (jukeboxScript [""] []) := by
    decide +kernel
  have hslow : Script.ofTarget atticTable (jukebox.withNext "play" playDefinition (some "slow"))
      .empty = .ok (jukeboxScript ["\tvar speed = 0", "\t/* undefined definition for pen_odd */"]
        [⟨some "odd", .undefinedOpcode "pen_odd"⟩]) := by
    decide +kernel
  exact ⟨hisolated, hempty, hslow, scope, _, hscope, hdefined, rfl,
    source_differs_in_own_procedure hisolated hscope hdefined hempty hslow⟩

end BlockScribe
