import BlockScribe.Emission.Emitter
import BlockScribe.Proofs.Emission.Forms
import BlockScribe.Proofs.Naming
import Mathlib.Logic.Relation

/-! # What a rendering does to its session

A rendering changes its session in two ways only: it notes a diagnostic, or it binds the variable
of an assignment on first sight. `Session.Step` says this once, and `stepsBy_emitAt` says that
every run of the emitter, one that stops included, is a sequence of such steps. Whatever holds at
the start and is kept by a step holds at the end of every run.

* `StepsBy`: a computation whose runs are sequences of given steps; it is closed under the
  operations of the monad.
* `growsTo_of_steps`: the scope keeps its stage flag and its procedures, and its bindings grow at
  the end.
-/

namespace BlockScribe

/-! ## Runs as sequences of steps -/

section StepsBy

variable {ε ε' α β : Type}

/-- The session that a computation leaves, whether it ends well or stops. -/
def endOf (r : EStateM ε Session α) (session : Session) : Session :=
  match r session with
  | .ok _ after => after
  | .error _ after => after

theorem endOf_of_ok {r : EStateM ε Session α} {session after : Session} {value : α}
    (h : r session = .ok value after) : endOf r session = after := by
  simp [endOf, h]

theorem endOf_of_error {r : EStateM ε Session α} {session after : Session} {failure : ε}
    (h : r session = .error failure after) : endOf r session = after := by
  simp [endOf, h]

/-- A sequence runs its second part from where its first part ended well. -/
theorem bind_of_ok {r : EStateM ε Session α} {session after : Session} {value : α}
    (h : r session = .ok value after) (f : α → EStateM ε Session β) :
    (r >>= f) session = f value after := by
  show EStateM.bind r f session = f value after
  simp [EStateM.bind, h]

theorem bind_of_error {r : EStateM ε Session α} {session after : Session} {failure : ε}
    (h : r session = .error failure after) (f : α → EStateM ε Session β) :
    (r >>= f) session = .error failure after := by
  show EStateM.bind r f session = .error failure after
  simp [EStateM.bind, h]

/-- A sequence that ends well consists of two parts that end well. -/
theorem exists_of_bind_eq_ok {r : EStateM ε Session α} {f : α → EStateM ε Session β}
    {session after : Session} {value : β} (h : (r >>= f) session = .ok value after) :
    ∃ first between, r session = .ok first between ∧ f first between = .ok value after := by
  cases hr : r session with
  | ok first between =>
    rw [bind_of_ok hr] at h
    exact ⟨first, between, rfl, h⟩
  | error failure between =>
    rw [bind_of_error hr] at h
    cases h

theorem exists_of_map_eq_ok {r : EStateM ε Session α} {f : α → β} {session after : Session}
    {value : β} (h : (f <$> r) session = .ok value after) :
    ∃ first, r session = .ok first after ∧ f first = value := by
  rw [map_eq_pure_bind] at h
  rcases exists_of_bind_eq_ok h with ⟨first, between, hr, hpure⟩
  have heq : EStateM.Result.ok (f first) between = EStateM.Result.ok value after := hpure
  cases heq
  exact ⟨first, hr, rfl⟩

theorem map_of_ok {r : EStateM ε Session α} {session after : Session} {value : α}
    (h : r session = .ok value after) (f : α → β) :
    (f <$> r) session = .ok (f value) after := by
  rw [map_eq_pure_bind, bind_of_ok h]
  rfl

theorem endOf_map (r : EStateM ε Session α) (f : α → β) (session : Session) :
    endOf (f <$> r) session = endOf r session := by
  unfold endOf
  rw [map_eq_pure_bind]
  cases hr : r session with
  | ok value after =>
    rw [bind_of_ok hr]
    rfl
  | error failure after => rw [bind_of_error hr]

/-- Every run is a sequence of the given steps. -/
def StepsBy (step : Session → Session → Prop) (r : EStateM ε Session α) : Prop :=
  ∀ session, Relation.ReflTransGen step session (endOf r session)

variable {step step' : Session → Session → Prop}

theorem stepsBy_pure (value : α) : StepsBy step (pure value : EStateM ε Session α) :=
  fun _ => .refl

theorem stepsBy_throw (failure : ε) : StepsBy step (throw failure : EStateM ε Session α) :=
  fun _ => .refl

theorem stepsBy_get : StepsBy step (get : EStateM ε Session Session) :=
  fun _ => .refl

theorem StepsBy.bind {r : EStateM ε Session α} {f : α → EStateM ε Session β}
    (hr : StepsBy step r) (hf : ∀ value, StepsBy step (f value)) : StepsBy step (r >>= f) := by
  intro session
  have hfirst := hr session
  cases h : r session with
  | ok value between =>
    rw [endOf_of_ok h] at hfirst
    have hend : endOf (r >>= f) session = endOf (f value) between := by
      unfold endOf
      rw [bind_of_ok h]
    rw [hend]
    exact hfirst.trans (hf value between)
  | error failure between =>
    -- the second part never runs, and the session stays as the first part left it
    rw [endOf_of_error h] at hfirst
    rw [endOf_of_error (bind_of_error h f)]
    exact hfirst

theorem StepsBy.map {r : EStateM ε Session α} (hr : StepsBy step r) (f : α → β) :
    StepsBy step (f <$> r) := by
  intro session
  rw [endOf_map]
  exact hr session

theorem StepsBy.mono {r : EStateM ε Session α} (hr : StepsBy step r)
    (h : ∀ {a b}, step a b → step' a b) : StepsBy step' r :=
  fun session => Relation.ReflTransGen.mono (fun _ _ => h) _ _ (hr session)

/-- A property that every step keeps is kept by every run. -/
theorem StepsBy.keeps {r : EStateM ε Session α} (hr : StepsBy step r) {p : Session → Prop}
    (hstep : ∀ {a b}, step a b → p a → p b) {session : Session} (h : p session) :
    p (endOf r session) := by
  have hsteps := hr session
  generalize endOf r session = after at hsteps
  induction hsteps with
  | refl => exact h
  | tail _ hlast ih => exact hstep hlast ih

end StepsBy

/-! ## The steps of a rendering -/

/-- One change of a session while blocks of `blocks` are written. -/
inductive Session.Step (blocks : Dict String Block) : Session → Session → Prop
  /-- A problem is noted. -/
  | note (session : Session) (diagnostic : Diagnostic) :
    Step blocks session { session with diagnostics := session.diagnostics ++ [diagnostic] }
  /-- The variable of an assignment is bound on first sight. -/
  | bind (session : Session) {key : String} {block : Block} {field : Field}
    (hblock : blocks.get? key = some block) (hopcode : block.opcode = "data_setvariableto")
    (hfield : block.fields.get? variableSlot = some field)
    (hunbound : session.scope.name? field.variableId = none) :
    Step blocks session
      { session with scope := (session.scope.bind field.variableId field.value).2 }

/-- A session that a rendering may turn another one into. -/
abbrev Session.Steps (blocks : Dict String Block) : Session → Session → Prop :=
  Relation.ReflTransGen (Session.Step blocks)

theorem growsTo_of_step {blocks : Dict String Block} {before after : Session}
    (h : Session.Step blocks before after) : before.scope.GrowsTo after.scope := by
  cases h with
  | note diagnostic => exact Scope.GrowsTo.refl _
  | bind _ _ _ _ => exact Scope.growsTo_bind _ _ _

/-- While blocks are written the scope only grows. -/
theorem growsTo_of_steps {blocks : Dict String Block} {before after : Session}
    (h : Session.Steps blocks before after) : before.scope.GrowsTo after.scope := by
  induction h with
  | refl => exact Scope.GrowsTo.refl _
  | tail _ hlast ih => exact ih.trans (growsTo_of_step hlast)

/-! ## Runs of the primitive renderings -/

theorem note_run (block : Block) (notice : Notice) (session : Session) :
    Render.note block notice session =
      .ok () { session with diagnostics := session.diagnostics ++ [⟨some block.id, notice⟩] } :=
  rfl

theorem bindName_run (id raw : String) (session : Session) :
    Render.bindName id raw session =
      .ok (session.scope.bind id raw).1
        { session with scope := (session.scope.bind id raw).2 } :=
  rfl

theorem assign_run (field : Field) (declares : Bool) (value : String) (session : Session) :
    assign field declares value session =
      .ok ((if declares then
            declarationWord (session.scope.bind field.variableId field.value).2.isStage else "") ++
          (session.scope.bind field.variableId field.value).1 ++ " = " ++ value)
        { session with scope := (session.scope.bind field.variableId field.value).2 } :=
  rfl

/-! ## Scripts, block by block -/

/-- The block that a script goes on with behind a block. -/
def Block.successor? (followNext : Bool) (block : Block) : Option String :=
  if followNext then block.next else none

section Chain

variable {blocks : Dict String Block} {single : List String → Block → Render String}
  {followNext : Bool} {entered : List String} {id : String}

theorem renderChain_of_missing (hget : blocks.get? id = none) :
    renderChain blocks single followNext entered id = Render.stop (.missing id) entered := by
  rw [renderChain]
  split
  · rfl
  · rename_i block hsome
    rw [hget] at hsome
    cases hsome

theorem renderChain_of_entered {block : Block} (hget : blocks.get? id = some block)
    (hmem : id ∈ entered) :
    renderChain blocks single followNext entered id = Render.stop (.cyclic id) entered := by
  rw [renderChain]
  split
  · rename_i hnone
    rw [hget] at hnone
    cases hnone
  · rw [dif_pos hmem]

theorem renderChain_of_new {block : Block} (hget : blocks.get? id = some block)
    (hnew : id ∉ entered) :
    renderChain blocks single followNext entered id = (do
      let text ← single (id :: entered) block
      let rest ← match block.successor? followNext with
        | some next => renderChain blocks single followNext (id :: entered) next
        | none => pure []
      return if text.isEmpty then rest else text :: rest) := by
  rw [renderChain]
  split
  · rename_i hnone
    rw [hget] at hnone
    cases hnone
  · rename_i found hsome
    rw [hget] at hsome
    cases hsome
    rw [dif_neg hnew]
    -- the two patterns of the source are one look at the successor
    cases followNext with
    | false => simp [Block.successor?]
    | true =>
      cases hnext : block.next with
      | none => simp [Block.successor?, hnext]
      | some next => simp [Block.successor?, hnext]

end Chain

/-! ## Every run of the emitter is a sequence of steps

The renderings of the parts of a block are given a `nested` that already steps; the two layers of
the recursion, scripts and levels, close the circle. -/

section Runs

variable {blocks : Dict String Block} {nested : Nested}

theorem stepsBy_note (block : Block) (notice : Notice) :
    StepsBy (Session.Step blocks) (Render.note block notice) := by
  intro session
  rw [endOf_of_ok (note_run block notice session)]
  exact .single (.note session _)

theorem stepsBy_assign {key : String} {block : Block} {field : Field}
    (hblock : blocks.get? key = some block) (hopcode : block.opcode = "data_setvariableto")
    (hfield : block.fields.get? variableSlot = some field) (declares : Bool) (value : String) :
    StepsBy (Session.Step blocks) (assign field declares value) := by
  intro session
  rw [endOf_of_ok (assign_run field declares value session)]
  -- a variable that has a name is not bound again
  cases hname : session.scope.name? field.variableId with
  | some name => rw [Scope.bind_of_name? hname]
  | none => exact .single (.bind session hblock hopcode hfield hname)

theorem stepsBy_renderLiteral (owner : Block) (literal : Literal) :
    StepsBy (Session.Step blocks) (renderLiteral owner literal) := by
  unfold renderLiteral
  refine stepsBy_get.bind fun session => ?_
  cases literalText? session.scope literal with
  | some text => exact stepsBy_pure _
  | none => exact (stepsBy_note owner _).bind fun _ => stepsBy_pure _

variable (hnested : ∀ id level mode, StepsBy (Session.Step blocks) (nested id level mode))
include hnested

theorem stepsBy_renderInput (owner : Block) (input : Input) :
    StepsBy (Session.Step blocks) (renderInput nested owner input) := by
  cases input with
  | literal content => exact stepsBy_renderLiteral owner content
  | block id => exact (hnested id 0 .value).map some

theorem stepsBy_renderSlot (block : Block) (slot : String) :
    StepsBy (Session.Step blocks) (renderSlot nested block slot) := by
  unfold renderSlot
  cases block.inputs.get? slot with
  | some input => exact stepsBy_renderInput hnested block input
  | none =>
    cases block.fields.get? slot with
    | some field => exact stepsBy_get.bind fun _ => stepsBy_pure _
    | none => exact stepsBy_pure _

theorem stepsBy_renderSlots (block : Block) (slots : List String) :
    StepsBy (Session.Step blocks) (renderSlots nested block slots) := by
  induction slots with
  | nil => exact stepsBy_pure _
  | cons slot rest ih =>
    unfold renderSlots
    refine (stepsBy_renderSlot hnested block slot).bind fun _ => ?_
    exact ih.bind fun _ => stepsBy_pure _

theorem stepsBy_renderCall (block : Block) (name : String) (slots : List String) :
    StepsBy (Session.Step blocks) (renderCall nested block name slots) :=
  (stepsBy_renderSlots hnested block slots).map _

theorem stepsBy_renderBodies (block : Block) (sockets : List String) :
    StepsBy (Session.Step blocks) (renderBodies nested block sockets) := by
  induction sockets with
  | nil => exact stepsBy_pure _
  | cons socket rest ih =>
    unfold renderBodies
    cases block.inputBlock? socket with
    | some id =>
      refine (hnested id 1 .chain).bind fun _ => ?_
      exact ih.bind fun _ => stepsBy_pure _
    | none =>
      refine (stepsBy_pure "").bind fun _ => ?_
      exact ih.bind fun _ => stepsBy_pure _

theorem stepsBy_renderForm {key : String} {block : Block}
    (hblock : blocks.get? key = some block) {form : Form}
    (hform : ∀ field, form = .assignment field →
      block.opcode = "data_setvariableto" ∧ block.fields.get? variableSlot = some field) :
    StepsBy (Session.Step blocks) (renderForm nested block form) := by
  unfold renderForm
  refine stepsBy_get.bind fun before => ?_
  refine (stepsBy_renderSlots hnested block form.slots).bind fun arguments => ?_
  -- an assignment binds, a construct writes its bodies, and some forms note a problem
  cases form with
  | assignment field =>
    rcases hform field rfl with ⟨hopcode, hfield⟩
    exact stepsBy_assign hblock hopcode hfield _ _
  | branch slots sockets =>
    exact (stepsBy_renderBodies hnested block sockets).bind fun _ => stepsBy_pure _
  | unknownCall proccode => exact (stepsBy_note block _).bind fun _ => stepsBy_pure _
  | namelessAssignment => exact (stepsBy_note block _).bind fun _ => stepsBy_pure _
  | unknown => exact (stepsBy_note block _).bind fun _ => stepsBy_pure _
  | comparison => exact stepsBy_pure _
  | answer slot => exact stepsBy_pure _
  | logging => exact stepsBy_pure _
  | parameter raw => exact stepsBy_pure _
  | choice value => exact stepsBy_pure _
  | call name slots => exact stepsBy_pure _

theorem stepsBy_renderBlock (table : SignatureTable) (headOnly : Bool) {key : String}
    {block : Block} (hblock : blocks.get? key = some block) :
    StepsBy (Session.Step blocks) (renderBlock table nested headOnly block) := by
  unfold renderBlock
  refine stepsBy_get.bind fun session => ?_
  exact stepsBy_renderForm hnested hblock fun field hform => Block.form_eq_assignment hform

end Runs

theorem stepsBy_renderChain {blocks : Dict String Block}
    {single : List String → Block → Render String} {followNext : Bool}
    (hsingle : ∀ entered key block, blocks.get? key = some block →
      StepsBy (Session.Step blocks) (single entered block))
    (entered : List String) (id : String) :
    StepsBy (Session.Step blocks) (renderChain blocks single followNext entered id) := by
  induction entered, id using renderChain.induct blocks with
  | case1 entered id hget =>
    rw [renderChain_of_missing hget]
    exact stepsBy_throw _
  | case2 entered id block hget hmem =>
    rw [renderChain_of_entered hget hmem]
    exact stepsBy_throw _
  | case3 entered id block hget hnew ih =>
    -- a missing or cyclic block stops without a step; a new one is written and followed
    rw [renderChain_of_new hget hnew]
    refine (hsingle (id :: entered) id block hget).bind fun text => ?_
    cases block.successor? followNext with
    | some next => exact (ih next).bind fun _ => stepsBy_pure _
    | none => exact (stepsBy_pure _).bind fun _ => stepsBy_pure _

/-- Every run of the emitter, from any session and however it ends, is a sequence of steps. -/
theorem stepsBy_emitAt (sources : Sources) (room : Nat) (entered : List String) (id : String)
    (level : Nat) (mode : Mode) :
    StepsBy (Session.Step sources.blocks) (emitAt sources room entered id level mode) := by
  induction room generalizing entered id level mode with
  | zero => exact stepsBy_throw _
  | succ room ih =>
    unfold emitAt
    -- within the level everything nested is written by the level below
    refine StepsBy.bind ?_ fun _ => stepsBy_pure _
    refine stepsBy_renderChain (fun inner key block hget => ?_) entered id
    exact stepsBy_renderBlock (ih inner) sources.table mode.headOnly hget

end BlockScribe
