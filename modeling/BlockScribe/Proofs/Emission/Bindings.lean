import BlockScribe.Proofs.Emission.Faults
import BlockScribe.Proofs.Emission.References

/-! # What emissions do to a scope

A call of the emitter gets a scope and hands it back, whether the call ends well or fails. In
between it binds variables on first sight, and does nothing else to the scope.

* `Scope.ExtendsBy`: a scope with new bindings behind its old ones, for ids of assignments and
  under names of their own. Every call extends its scope so (`emit_extends_scope`).
* `Scope.Later`: what a scope may have become when another assignment to an id is written. The
  first assignment declares the variable, and all later ones know its name
  (`assignment_declares_once`).
-/

namespace BlockScribe

/-! ## Runs of an emitter -/

namespace Emitter

/-- The scope that a run hands back is the one in which the rendering ended or stopped. -/
theorem scope_run {α : Type} (emitter : Emitter) (scope : Scope) (render : Render α) :
    (emitter.run scope render).scope = (endOf render ⟨scope, emitter.diagnostics⟩).scope := by
  unfold run EStateM.run endOf
  cases render ⟨scope, emitter.diagnostics⟩ with
  | ok value after => rfl
  | error failure after => rfl

/-- A run with a result is a rendering that ended well. -/
theorem run_eq_ok {α : Type} {emitter : Emitter} {scope : Scope} {render : Render α} {value : α}
    (h : (emitter.run scope render).result = .ok value) :
    ∃ after, render ⟨scope, emitter.diagnostics⟩ = .ok value after ∧
      (emitter.run scope render).scope = after.scope := by
  unfold run EStateM.run at h ⊢
  cases hrun : render ⟨scope, emitter.diagnostics⟩ with
  | ok found after =>
    rw [hrun] at h
    cases h
    exact ⟨after, rfl, rfl⟩
  | error failure after =>
    rw [hrun] at h
    cases h

/-- A call goes from its scope to the one it hands back in steps of a rendering. -/
theorem steps_emit (emitter : Emitter) (scope : Scope) (id : String) (level : Nat) (mode : Mode) :
    ∃ after, Session.Steps emitter.sources.blocks ⟨scope, emitter.diagnostics⟩ after ∧
      (emitter.emit scope id level mode).scope = after.scope :=
  ⟨_, stepsBy_emitAt emitter.sources _ emitter.entered id level mode _, scope_run _ _ _⟩

end Emitter

/-! ## Extensions -/

/-- A block assigns to the variable of a field. -/
structure Block.Assigns (block : Block) (field : Field) : Prop where
  opcode_eq : block.opcode = "data_setvariableto"
  field_eq : block.fields.get? variableSlot = some field

/-- Some block assigns to the id. -/
def IsAssigned (blocks : Dict String Block) (id : String) : Prop :=
  ∃ key block field, blocks.get? key = some block ∧ block.Assigns field ∧ field.variableId = id

/-- A scope keeps all that it has and gets new bindings behind the old ones: for ids without a name
that the blocks assign to, and under names that are neither reserved, nor in use before, nor given
twice. -/
structure Scope.ExtendsBy (blocks : Dict String Block) (before after : Scope)
    (added : List (String × String)) : Prop where
  isStage_eq : after.isStage = before.isStage
  procedures_eq : after.procedures = before.procedures
  bindings_eq : after.bindings.entries = before.bindings.entries ++ added
  ids_unbound : ∀ e ∈ added, before.name? e.1 = none
  ids_assigned : ∀ e ∈ added, IsAssigned blocks e.1
  names_free : ∀ e ∈ added, e.2 ∉ Identifier.reserved ∧ e.2 ∉ before.names
  names_distinct : (added.map Prod.snd).Nodup

namespace Scope.ExtendsBy

variable {blocks : Dict String Block} {before after : Scope} {added : List (String × String)}

theorem refl (blocks : Dict String Block) (scope : Scope) : scope.ExtendsBy blocks scope [] where
  isStage_eq := rfl
  procedures_eq := rfl
  bindings_eq := (List.append_nil _).symm
  ids_unbound := List.forall_mem_nil _
  ids_assigned := List.forall_mem_nil _
  names_free := List.forall_mem_nil _
  names_distinct := List.nodup_nil

variable (h : before.ExtendsBy blocks after added)
include h

theorem growsTo : before.GrowsTo after :=
  ⟨h.isStage_eq, h.procedures_eq, added, h.bindings_eq⟩

/-- The new names are in use. -/
theorem mem_names_of_added {name : String} (hname : name ∈ added.map Prod.snd) :
    name ∈ after.names := by
  unfold Scope.names Dict.values
  rw [h.bindings_eq, List.map_append]
  exact List.mem_append_left _ (List.mem_append_right _ hname)

/-- Binding one more id extends the scope further. -/
theorem bind {id : String} (raw : String) (hid : IsAssigned blocks id)
    (hunbound : after.name? id = none) :
    before.ExtendsBy blocks (after.bind id raw).2
      (added ++ [(id, after.freshName (Identifier.ofRaw raw))]) := by
  have hproper := isProper_freshName after raw
  have hfresh := freshName_not_mem_names after (Identifier.ofRaw raw)
  have hbefore : before.name? id = none := by
    -- a name from before would still be there
    rw [Option.eq_none_iff_forall_ne_some]
    intro name hname
    rw [h.growsTo.name? hname] at hunbound
    cases hunbound
  rw [bind_of_unbound hunbound]
  generalize after.freshName (Identifier.ofRaw raw) = name at hproper hfresh ⊢
  constructor
  · exact h.isStage_eq
  · exact h.procedures_eq
  · have hentries : (after.inherit id name).bindings.entries =
        after.bindings.entries ++ [(id, name)] :=
      Dict.entries_insert_of_get?_eq_none hunbound name
    rw [hentries, h.bindings_eq, List.append_assoc]
  · rw [List.forall_mem_append, List.forall_mem_singleton]
    exact ⟨h.ids_unbound, hbefore⟩
  · rw [List.forall_mem_append, List.forall_mem_singleton]
    exact ⟨h.ids_assigned, hid⟩
  · rw [List.forall_mem_append, List.forall_mem_singleton]
    exact ⟨h.names_free, hproper.not_reserved, fun hmem => hfresh (h.growsTo.mem_names hmem)⟩
  · rw [List.map_append, List.nodup_append]
    refine ⟨h.names_distinct, List.nodup_singleton _, ?_⟩
    intro old hold new hnew heq
    have hsame : old = name := heq.trans (List.mem_singleton.1 hnew)
    rw [hsame] at hold
    exact hfresh (h.mem_names_of_added hold)

/-- One step of a rendering extends the scope further, or leaves it. -/
theorem step {start next : Session} (hstart : after = start.scope)
    (hstep : Session.Step blocks start next) :
    ∃ more, before.ExtendsBy blocks next.scope more := by
  subst hstart
  cases hstep with
  | note diagnostic => exact ⟨added, h⟩
  | bind hblock hopcode hfield hunbound =>
    have hassigned : IsAssigned blocks _ := ⟨_, _, _, hblock, ⟨hopcode, hfield⟩, rfl⟩
    exact ⟨_, h.bind _ hassigned hunbound⟩

end Scope.ExtendsBy

/-- However far a rendering came, it has extended its scope. -/
theorem extendsBy_of_steps {blocks : Dict String Block} {start after : Session}
    (h : Session.Steps blocks start after) :
    ∃ added, start.scope.ExtendsBy blocks after.scope added := by
  induction h with
  | refl => exact ⟨[], .refl blocks start.scope⟩
  | tail _ hlast ih =>
    obtain ⟨added, hadded⟩ := ih
    exact hadded.step rfl hlast

/-- Every call of the emitter, from any state of it and whether it ends well or fails, extends the
scope that it is given, and does nothing else to it. -/
theorem emit_extends_scope (emitter : Emitter) (scope : Scope) (id : String) (level : Nat)
    (mode : Mode) :
    ∃ added, scope.ExtendsBy emitter.sources.blocks (emitter.emit scope id level mode).scope
      added := by
  obtain ⟨after, hsteps, hscope⟩ := emitter.steps_emit scope id level mode
  rw [hscope]
  exact extendsBy_of_steps hsteps

/-! ## Assignments -/

namespace Emitter

/-- Writes a block from the emitter's state. -/
def write (emitter : Emitter) (scope : Scope) (block : Block) (headOnly : Bool) :
    Outcome String :=
  emitter.run scope (renderBlock emitter.sources.table emitter.nested headOnly block)

/-- Writes what stands in a slot of a block, and the empty text where that is left out. -/
def argument (emitter : Emitter) (scope : Scope) (block : Block) (slot : String) :
    Outcome String :=
  emitter.run scope ((fun text => text.getD emptyText) <$> renderSlot emitter.nested block slot)

end Emitter

section Assignments

variable {block : Block} {field : Field} (hblock : block.Assigns field)
include hblock

/-- An assignment is written by writing its value and then assigning it. Whether it declares its
variable is decided before the value is written. -/
theorem renderBlock_of_assigns (table : SignatureTable) (nested : Nested) (headOnly : Bool)
    (session : Session) :
    renderBlock table nested headOnly block session =
      ((fun text => text.getD emptyText) <$> renderSlot nested block "VALUE" >>=
        assign field (!session.scope.isDeclared field.variableId)) session := by
  have hform := Block.form_of_assignment hblock.opcode_eq hblock.field_eq table session.scope
    headOnly
  -- an assignment has one slot, so its arguments are a list of one
  have hslots : renderSlots nested block ["VALUE"] =
      (fun text => [text]) <$> renderSlot nested block "VALUE" := by
    simp only [renderSlots, pure_bind, map_eq_pure_bind]
  show renderForm nested block (block.form table session.scope headOnly) session = _
  rw [hform]
  show (renderSlots nested block ["VALUE"] >>= fun arguments =>
    assign field (!session.scope.isDeclared field.variableId) (soleText arguments)) session = _
  rw [hslots, bind_map_left, bind_map_left]
  rfl

/-- An assignment that is written, from its value and the scope behind that. -/
theorem Emitter.write_eq_ok {emitter : Emitter} {scope : Scope} {headOnly : Bool} {text : String}
    (h : (emitter.write scope block headOnly).result = .ok text) :
    ∃ value between,
      (emitter.argument scope block "VALUE").result = .ok value ∧ scope.GrowsTo between ∧
      text = (if scope.isDeclared field.variableId then "" else declarationWord scope.isStage) ++
        (between.bind field.variableId field.value).1 ++ " = " ++ value ∧
      (emitter.write scope block headOnly).scope =
        (between.bind field.variableId field.value).2 := by
  obtain ⟨after, hrun, hscope⟩ := Emitter.run_eq_ok h
  rw [renderBlock_of_assigns hblock] at hrun
  obtain ⟨value, between, hvalue, hassign⟩ := exists_of_bind_eq_ok hrun
  -- writing the value may bind other ids first, so the name is taken in the grown scope
  have hgrown : scope.GrowsTo between.scope := by
    have hnested := stepsBy_emitAt emitter.sources (maxNesting - emitter.depth) emitter.entered
    exact ((stepsBy_renderSlot hnested block "VALUE").map _).growsTo hvalue
  -- whether it declares was decided in front of the value
  rw [assign_run, Scope.isStage_bind, hgrown.isStage_eq] at hassign
  cases hassign
  refine ⟨value, between.scope, ?_, hgrown, ?_, hscope⟩
  · unfold Emitter.argument
    rw [Emitter.result_run, hvalue]
  · cases scope.isDeclared field.variableId with
    | true => rfl
    | false => rfl

end Assignments

/-- What a scope may have become when another assignment to an id is written: calls of emitters
have worked on it, over whatever blocks and however they ended, or on a copy of it in which other
ids have got the names of parameters. -/
inductive Scope.Later (id : String) (start : Scope) : Scope → Prop
  | here : Later id start start
  | emit {scope : Scope} (h : Later id start scope) (emitter : Emitter) (key : String)
    (level : Nat) (mode : Mode) : Later id start (emitter.emit scope key level mode).scope
  | fork {scope : Scope} (h : Later id start scope) {other : String} (hother : other ≠ id)
    (name : String) : Later id start (scope.inherit other name)

/-- A bound id keeps its name. -/
theorem Scope.Later.name? {id name : String} {start later : Scope} (h : start.Later id later)
    (hname : start.name? id = some name) : later.name? id = some name := by
  induction h with
  | here => exact hname
  | @emit scope _ emitter key level mode ih =>
    obtain ⟨after, hsteps, hscope⟩ := emitter.steps_emit scope key level mode
    rw [hscope]
    exact (growsTo_of_steps hsteps).name? ih
  | fork _ hother name ih =>
    rw [Scope.name?_inherit, if_neg (Ne.symm hother)]
    exact ih

/-- An id has a name in a scope, and every assignment to it that is written from this scope on is
one to that name and declares nothing: an assignment by itself, and one that stands anywhere in a
script. -/
structure Scope.Knows (scope : Scope) (id name : String) : Prop where
  bound : scope.name? id = some name
  assignment : ∀ (emitter : Emitter) {block : Block} {field : Field} {headOnly : Bool}
    {text : String}, block.Assigns field → field.variableId = id →
    (emitter.write scope block headOnly).result = .ok text →
    ∃ value, (emitter.argument scope block "VALUE").result = .ok value ∧
      text = name ++ " = " ++ value
  script : ∀ (emitter : Emitter) {key : String} {level : Nat} {mode : Mode} {text : String},
    (emitter.emit scope key level mode).result = .ok text →
    ∃ lines after,
      draftAt emitter.sources (maxNesting - emitter.depth) emitter.entered key mode
        ⟨scope, emitter.diagnostics⟩ = .ok lines after ∧
      text = scriptText level lines ∧ NamedThroughout lines id name

/-- A scope knows the names of its ids. -/
theorem Scope.knows_of_name? {scope : Scope} {id name : String}
    (hname : scope.name? id = some name) : scope.Knows id name where
  bound := hname
  assignment := by
    intro emitter block field headOnly text hblock hid h
    obtain ⟨value, between, hvalue, hgrown, htext, -⟩ := Emitter.write_eq_ok hblock h
    -- the id is declared, so no declaration word is written, and it keeps its name
    have hdeclared : scope.isDeclared id = true := by
      rw [Scope.isDeclared_eq_isSome, hname]
      rfl
    refine ⟨value, hvalue, ?_⟩
    rw [htext, hid, if_pos hdeclared, Scope.bind_of_name? (hgrown.name? hname),
      String.empty_append]
  script := by
    intro emitter key level mode text h
    obtain ⟨after, hrun, -⟩ := Emitter.run_eq_ok h
    unfold Emitter.nested at hrun
    -- every statement of the script is placed in a scope that has grown from this one
    rw [emitAt_eq_draftAt] at hrun
    obtain ⟨lines, hlines, htext⟩ := exists_of_map_eq_ok hrun
    refine ⟨lines, after, hlines, htext.symm, ?_⟩
    intro statement hwithin
    obtain ⟨hplaced, headOnly, -, hformed⟩ := placed_of_within hlines hwithin
    exact hplaced.named hformed hname

/-- An assignment that is written starts with the word of a declaration if and only if its variable
has no name when the writing begins. Behind it the variable has the name that was written, and
whatever becomes of the scope, all later assignments to the variable are written with this name
and without a declaration. -/
theorem assignment_declares_once {emitter : Emitter} {scope : Scope} {block : Block}
    {field : Field} (hblock : block.Assigns field) {headOnly : Bool} {text : String}
    (h : (emitter.write scope block headOnly).result = .ok text) :
    ∃ name value,
      (emitter.argument scope block "VALUE").result = .ok value ∧
      text = (if scope.isDeclared field.variableId then "" else declarationWord scope.isStage) ++
        name ++ " = " ++ value ∧
      ∀ later, (emitter.write scope block headOnly).scope.Later field.variableId later →
        later.Knows field.variableId name := by
  obtain ⟨value, between, hvalue, -, htext, hscope⟩ := Emitter.write_eq_ok hblock h
  refine ⟨_, value, hvalue, htext, ?_⟩
  intro later hlater
  -- the assignment leaves its id bound, and no later scope forgets it
  have hbound : (emitter.write scope block headOnly).scope.name? field.variableId =
      some (between.bind field.variableId field.value).1 := by
    rw [hscope]
    exact Scope.name?_bind_self between field.variableId field.value
  exact Scope.knows_of_name? (hlater.name? hbound)

/-- An assignment of a number to a variable with the id `v`. -/
def tallyBlock (key value : String) : Block :=
  ⟨key, "data_setvariableto", none, Dict.ofList [("VALUE", .literal ⟨.number, value, none⟩)],
    Dict.ofList [("VARIABLE", ⟨"score", some "v"⟩)], false, false, none⟩

/-- An emitter for two assignments to one variable. -/
def tally : Emitter :=
  .new .empty (Dict.ofList [("first", tallyBlock "first" "1"), ("second", tallyBlock "second" "2")])

/-- The scope behind the first assignment and one more call, in the body of a procedure. -/
def tallyLater : Scope :=
  (tally.emit (tally.write (.new true) (tallyBlock "first" "1") false).scope "second" 0
    .single).scope.inherit "p" "score"

/-- The variable is declared by the first assignment and known to the second. -/
theorem tally_is_declared_once :
    (tallyBlock "first" "1").Assigns ⟨"score", some "v"⟩ ∧
    (tally.write (.new true) (tallyBlock "first" "1") false).result =
      .ok "global var score = 1" ∧
    (tally.write (.new true) (tallyBlock "first" "1") false).scope.Later "v" tallyLater ∧
    tallyLater.Knows "v" "score" ∧
    (tally.write tallyLater (tallyBlock "second" "2") false).result = .ok "score = 2" := by
  have hblock : (tallyBlock "first" "1").Assigns ⟨"score", some "v"⟩ := ⟨rfl, rfl⟩
  have hfirst : (tally.write (.new true) (tallyBlock "first" "1") false).result =
      .ok "global var score = 1" := by
    decide +kernel
  have hlater : (tally.write (.new true) (tallyBlock "first" "1") false).scope.Later "v"
      tallyLater :=
    .fork (.emit .here tally "second" 0 .single) (by decide) "score"
  have hname : tallyLater.name? "v" = some "score" := by
    decide +kernel
  obtain ⟨name, value, -, -, hknown⟩ := assignment_declares_once hblock hfirst
  have hknows := hknown tallyLater hlater
  have hsame : name = "score" := Option.some.inj (hknows.bound.symm.trans hname)
  rw [hsame] at hknows
  exact ⟨hblock, hfirst, hlater, hknows, by decide +kernel⟩

end BlockScribe
