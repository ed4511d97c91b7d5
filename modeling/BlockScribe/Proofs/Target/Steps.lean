import BlockScribe.Proofs.Emission.Frame
import BlockScribe.Script

/-! # What the work on a target does to its session

The scope of a target is written in four ways: declared variables and lists are bound, procedures
are registered, and assignments bind their variables on first sight. `Target.Step` lists them,
each as one change of the session, and `stepsBy_renderTarget` says that the whole work on a
target, one that stops with an error included, is a sequence of them. Bodies of procedures are
written on a copy of the scope, so all that is left of them here are their diagnostics.
-/

namespace BlockScribe

open Script

/-- One change of the session while a target is written. -/
inductive Target.Step (target : Target) : Session → Session → Prop
  /-- A declared variable is bound. -/
  | declareVariable (session : Session) {id : String} {v : Variable}
    (hmem : (id, v) ∈ target.vars.entries) (hunbound : session.scope.name? id = none) :
    Step target session { session with scope := (session.scope.bind id v.name).2 }
  /-- A declared list is bound. -/
  | declareList (session : Session) {id : String} {list : ItemList}
    (hmem : (id, list) ∈ target.lists.entries) (hunbound : session.scope.name? id = none) :
    Step target session { session with scope := (session.scope.bind id list.name).2 }
  /-- A procedure is registered under a fresh name. -/
  | register (session : Session) {definition : Block} {prototype : Prototype}
    (hmem : definition ∈ definitions target.blocks)
    (hread : Prototype.ofDefinition target.blocks definition = .ok prototype)
    (hnew : session.scope.procedure? prototype.proccode = none) :
    Step target session
      { session with
        scope := session.scope.register prototype.proccode
          ⟨definition.id,
            session.scope.freshName (Identifier.ofRaw (proccodeName prototype.proccode)),
            prototype.argumentIds, prototype.argumentNames, prototype.warp⟩ }
  /-- A block of the target is written. -/
  | render {before after : Session} (h : Session.Step target.blocks before after) :
    Step target before after

section Steps

variable {target : Target} {ε α : Type}

theorem Target.Step.note (session : Session) (diagnostic : Diagnostic) :
    Target.Step target session
      { session with diagnostics := session.diagnostics ++ [diagnostic] } :=
  .render (.note session diagnostic)

/-- A rendering of blocks steps as the target does. -/
theorem StepsBy.ofRendering {r : EStateM ε Session α}
    (hr : StepsBy (Session.Step target.blocks) r) : StepsBy (Target.Step target) r :=
  hr.mono fun h => .render h

theorem endOf_work (render : Render α) (session : Session) :
    endOf (work render) session = endOf render session := by
  unfold endOf work
  cases render session with
  | ok value after => rfl
  | error failure after => rfl

theorem StepsBy.work {step : Session → Session → Prop} {render : Render α}
    (h : StepsBy step render) : StepsBy step (Script.work render) := by
  intro session
  rw [endOf_work]
  exact h session

/-! ## Declarations -/

theorem fields_initialAssignment (id : String) (v : Variable) :
    (initialAssignment id v).fields.get? variableSlot = some ⟨v.name, some id⟩ := by
  simp [initialAssignment, Dict.get?_insert]

theorem inputs_initialAssignment (id : String) (v : Variable) :
    (initialAssignment id v).inputs.get? "VALUE" = some (.literal (Literal.ofValue v.value)) := by
  simp [initialAssignment, Dict.get?_insert]

theorem renderDeclaration_initialAssignment (nested : Nested) (id : String) (v : Variable) :
    renderDeclaration nested (initialAssignment id v) = (do
      let value ← renderLiteral (initialAssignment id v) (Literal.ofValue v.value)
      assign ⟨v.name, some id⟩ true (value.getD emptyText)) := by
  unfold renderDeclaration
  rw [fields_initialAssignment]
  unfold renderSlot
  rw [inputs_initialAssignment]
  rfl

theorem stepsBy_declareVariables (nested : Nested) {entries : List (String × Variable)}
    (hentries : ∀ e ∈ entries, e ∈ target.vars.entries) :
    StepsBy (Target.Step target) (declareVariables nested entries) := by
  induction entries with
  | nil => exact stepsBy_pure _
  | cons e rest ih =>
    obtain ⟨id, v⟩ := e
    have hrest := ih fun e he => hentries e (List.mem_cons_of_mem _ he)
    have hassign : ∀ value : String,
        StepsBy (Target.Step target) (assign ⟨v.name, some id⟩ true value) := by
      intro value session
      rw [endOf_of_ok (assign_run _ true value session)]
      show Relation.ReflTransGen _ session
        { session with scope := (session.scope.bind id v.name).2 }
      cases hname : session.scope.name? id with
      | some name => rw [Scope.bind_of_name? hname]
      | none => exact .single (.declareVariable session (hentries (id, v) (by simp)) hname)
    have hliteral : StepsBy (Target.Step target)
        (renderLiteral (initialAssignment id v) (Literal.ofValue v.value)) :=
      (stepsBy_renderLiteral _ _).ofRendering
    unfold declareVariables
    -- the value is a literal and binds nothing, then the variable itself is bound
    rw [renderDeclaration_initialAssignment]
    refine (hliteral.bind fun value => hassign _).bind fun text => ?_
    exact hrest.bind fun _ => stepsBy_pure _

theorem stepsBy_declareLists {entries : List (String × ItemList)}
    (hentries : ∀ e ∈ entries, e ∈ target.lists.entries) :
    StepsBy (Target.Step target) (declareLists entries) := by
  induction entries with
  | nil => exact stepsBy_pure _
  | cons e rest ih =>
    obtain ⟨id, list⟩ := e
    have hrest := ih fun e he => hentries e (List.mem_cons_of_mem _ he)
    have hbind : StepsBy (Target.Step target) (Render.bindName id list.name) := by
      intro session
      rw [endOf_of_ok (bindName_run id list.name session)]
      -- binding a known id changes nothing
      cases hname : session.scope.name? id with
      | some name => rw [Scope.bind_of_name? hname]
      | none => exact .single (.declareList session (hentries (id, list) (by simp)) hname)
    unfold declareLists declareList
    refine (hbind.bind fun name => stepsBy_get.bind fun _ => stepsBy_pure _).bind fun text => ?_
    exact hrest.bind fun _ => stepsBy_pure _

/-! ## Procedures -/

/-- What registering the procedure of a readable definition does to the session. -/
def predeclared (definition : Block) (prototype : Prototype) (session : Session) : Session :=
  match session.scope.procedure? prototype.proccode with
  | some _ =>
    { session with
      diagnostics := session.diagnostics ++
        [⟨some definition.id, .repeatedProcedure prototype.proccode⟩] }
  | none =>
    { session with
      scope := session.scope.register prototype.proccode
        ⟨definition.id,
          session.scope.freshName (Identifier.ofRaw (proccodeName prototype.proccode)),
          prototype.argumentIds, prototype.argumentNames, prototype.warp⟩ }

theorem predeclareOne_of_ok {blocks : Dict String Block} {definition : Block}
    {prototype : Prototype} (h : Prototype.ofDefinition blocks definition = .ok prototype)
    (session : Session) :
    predeclareOne blocks definition session =
      .ok () (predeclared definition prototype session) := by
  unfold predeclareOne
  rw [h]
  rfl

theorem predeclareOne_of_error {blocks : Dict String Block} {definition : Block} {error : Error}
    (h : Prototype.ofDefinition blocks definition = .error error) (session : Session) :
    predeclareOne blocks definition session = .error error session := by
  unfold predeclareOne
  rw [h]
  rfl

theorem stepsBy_predeclareOne {definition : Block}
    (hmem : definition ∈ definitions target.blocks) :
    StepsBy (Target.Step target) (predeclareOne target.blocks definition) := by
  intro session
  cases hread : Prototype.ofDefinition target.blocks definition with
  | error error =>
    rw [endOf_of_error (predeclareOne_of_error hread session)]
  | ok prototype =>
    rw [endOf_of_ok (predeclareOne_of_ok hread session)]
    unfold predeclared
    -- a repeated proccode is noted, a new one registered
    cases hknown : session.scope.procedure? prototype.proccode with
    | some procedure => exact .single (.note session _)
    | none => exact .single (.register session hmem hread hknown)

theorem stepsBy_predeclareAll {list : List Block}
    (hlist : ∀ definition ∈ list, definition ∈ definitions target.blocks) :
    StepsBy (Target.Step target) (predeclareAll target.blocks list) := by
  induction list with
  | nil => exact stepsBy_pure _
  | cons definition rest ih =>
    unfold predeclareAll
    refine (stepsBy_predeclareOne (hlist definition (by simp))).bind fun _ => ?_
    exact ih fun other hother => hlist other (List.mem_cons_of_mem _ hother)

theorem stepsBy_predeclare : StepsBy (Target.Step target) (predeclare target.blocks) :=
  stepsBy_predeclareAll fun _ h => h

/-- On another scope, the same rendering leaves the same diagnostics. -/
theorem steps_withScope {blocks : Dict String Block} {before after : Session}
    (h : Session.Steps blocks before after) (scope : Scope) :
    Session.Steps blocks { before with scope := scope } { after with scope := scope } := by
  -- notes are made again on the other scope, and bindings leave nothing behind
  induction h with
  | refl => exact .refl
  | tail _ hlast ih =>
    cases hlast with
    | note diagnostic => exact ih.tail (.note _ diagnostic)
    | bind _ _ _ _ => exact ih

theorem endOf_onFork (change : Scope → Scope) (render : Render α) (session : Session) :
    endOf (onFork change render) session =
      { endOf render { session with scope := change session.scope } with
        scope := session.scope } := by
  unfold endOf onFork
  cases render { session with scope := change session.scope } with
  | ok value after => rfl
  | error failure after => rfl

/-- A rendering on a copy of the scope leaves the scope as it was. -/
theorem stepsBy_onFork {blocks : Dict String Block} (change : Scope → Scope)
    {render : Render α} (h : StepsBy (Session.Step blocks) render) :
    StepsBy (Session.Step blocks) (onFork change render) := by
  intro session
  rw [endOf_onFork]
  exact steps_withScope (h { session with scope := change session.scope }) session.scope

section Renderings

variable {blocks : Dict String Block} {nested : Nested}
  (hnested : ∀ id level mode, StepsBy (Session.Step blocks) (nested id level mode))
include hnested

theorem stepsBy_renderRest (block : Block) :
    StepsBy (Session.Step blocks) (renderRest nested block) := by
  unfold renderRest
  cases block.next with
  | some next => exact hnested next 1 .chain
  | none => exact stepsBy_pure _

theorem stepsBy_renderProcedures (list : List Block) :
    StepsBy (Session.Step blocks) (renderProcedures nested list) := by
  induction list with
  | nil => exact stepsBy_pure _
  | cons definition rest ih =>
    unfold renderProcedures
    refine stepsBy_get.bind fun session => ?_
    cases session.scope.definedBy? definition.id with
    | none => exact ih
    | some procedure =>
      -- the body works on a copy of the scope
      have hbody := stepsBy_onFork (inherited (parameters procedure))
        (stepsBy_renderRest hnested definition)
      refine (hbody.bind fun _ => stepsBy_pure _).bind fun _ => ?_
      exact ih.bind fun _ => stepsBy_pure _

theorem stepsBy_renderHat (block : Block) (slots : List String) :
    StepsBy (Session.Step blocks) (renderHat nested block slots) := by
  unfold renderHat
  refine (stepsBy_renderCall hnested block block.opcode slots).bind fun _ => ?_
  exact (stepsBy_renderRest hnested block).bind fun _ => stepsBy_pure _

theorem stepsBy_renderEntries (table : SignatureTable) (list : List Block) :
    StepsBy (Session.Step blocks) (renderEntries table nested list) := by
  induction list with
  | nil => exact stepsBy_pure _
  | cons block rest ih =>
    unfold renderEntries
    cases entry table block with
    | hat slots =>
      refine (stepsBy_renderHat hnested block slots).bind fun _ => ?_
      exact ih.bind fun _ => stepsBy_pure _
    | undefined => exact ih.bind fun _ => stepsBy_pure _
    | nothing => exact ih

end Renderings

/-! ## The whole work -/

theorem steps_notes (session : Session) (diagnostics : List Diagnostic) :
    Relation.ReflTransGen (Target.Step target) session
      { session with diagnostics := session.diagnostics ++ diagnostics } := by
  induction diagnostics generalizing session with
  | nil =>
    rw [List.append_nil]
  | cons diagnostic rest ih =>
    have hrest := ih { session with diagnostics := session.diagnostics ++ [diagnostic] }
    simp only [List.append_assoc, List.singleton_append] at hrest
    exact .head (.note session diagnostic) hrest

/-- All work on a target, from any session and however it ends, is a sequence of its steps. -/
theorem stepsBy_renderTarget (table : SignatureTable) (target : Target) :
    StepsBy (Target.Step target) (renderTarget table target) := by
  have hnested : ∀ id level mode, StepsBy (Session.Step target.blocks)
      (emitAt ⟨table, target.blocks⟩ maxNesting [] id level mode) :=
    stepsBy_emitAt ⟨table, target.blocks⟩ maxNesting []
  unfold renderTarget
  refine (stepsBy_declareVariables _ fun _ h => h).work.bind fun vars => ?_
  refine (stepsBy_declareLists fun _ h => h).work.bind fun lists => ?_
  refine stepsBy_predeclare.bind fun _ => ?_
  refine StepsBy.bind (fun session => steps_notes session _) fun _ => ?_
  refine (stepsBy_renderProcedures hnested _).ofRendering.work.bind fun procedures => ?_
  exact (stepsBy_renderEntries hnested table _).ofRendering.work.bind fun _ => stepsBy_pure _

end Steps

end BlockScribe
