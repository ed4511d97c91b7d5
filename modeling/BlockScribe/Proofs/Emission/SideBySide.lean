import BlockScribe.Proofs.Emission.Frame

/-! # Renderings side by side

What is nested in a block is written by a `Nested` that is handed in, and all the rest of a block
is put together from it and from computations that cannot stop. So a relation between renderings
that sequences keep, and in which such computations stand to themselves, reaches from two ways to
write what is nested to the two renderings of the block around it (`RenderRelation.renderBlock`).
All that such a computation does to its session is to note a problem or to bind an id
(`Session.Touched`).

* `EndsAlike`: what the first rendering ends well with, the second one ends well with. The blocks
  that are being written and the levels that are left decide only whether a script can be written:
  with fewer of the one and more of the other it is written the same (`endsAlike_emitAt`).
* `StopsAbove`: a rendering that stops has not forgotten the blocks that were being written before
  it (`stopsAbove_emitAt`).
-/

namespace BlockScribe

/-- What a computation that cannot stop makes of a session: the session itself, or one with a note
more or with an id bound. -/
inductive Session.Touched (session : Session) : Session → Prop
  | unchanged : Touched session session
  | noted (diagnostic : Diagnostic) :
    Touched session { session with diagnostics := session.diagnostics ++ [diagnostic] }
  | bound (id raw : String) :
    Touched session { session with scope := (session.scope.bind id raw).2 }

/-- A relation between renderings that sequences keep, and in which a rendering that cannot stop
stands to itself. -/
structure RenderRelation (rel : {α : Type} → Render α → Render α → Prop) : Prop where
  refl : ∀ {α : Type} {r : Render α},
    (∀ session, ∃ value after, r session = .ok value after ∧ session.Touched after) → rel r r
  bind : ∀ {α β : Type} {r r' : Render α} {f f' : α → Render β},
    rel r r' → (∀ value, rel (f value) (f' value)) → rel (r >>= f) (r' >>= f')

namespace RenderRelation

variable {rel : {α : Type} → Render α → Render α → Prop} (h : RenderRelation rel)
include h

theorem pure {α : Type} (value : α) : rel (Pure.pure value) (Pure.pure value) :=
  h.refl fun session => ⟨value, session, rfl, .unchanged⟩

theorem get : rel (MonadState.get : Render Session) MonadState.get :=
  h.refl fun session => ⟨session, session, rfl, .unchanged⟩

theorem map {α β : Type} {r r' : Render α} (hr : rel r r') (f : α → β) :
    rel (f <$> r) (f <$> r') := by
  rw [map_eq_pure_bind, map_eq_pure_bind]
  exact h.bind hr fun value => h.pure (f value)

theorem note (block : Block) (notice : Notice) :
    rel (Render.note block notice) (Render.note block notice) :=
  h.refl fun session => ⟨_, _, note_run block notice session, .noted _⟩

theorem assign (field : Field) (declares : Bool) (value : String) :
    rel (BlockScribe.assign field declares value) (BlockScribe.assign field declares value) :=
  h.refl fun session => ⟨_, _, assign_run field declares value session, .bound _ _⟩

theorem renderLiteral (owner : Block) (literal : Literal) :
    rel (BlockScribe.renderLiteral owner literal) (BlockScribe.renderLiteral owner literal) := by
  unfold BlockScribe.renderLiteral
  refine h.bind h.get fun session => ?_
  cases literalText? session.scope literal with
  | some text => exact h.pure _
  | none => exact h.bind (h.note owner _) fun _ => h.pure _

variable {nested nested' : Nested}
  (hnested : ∀ id level mode, rel (nested id level mode) (nested' id level mode))
include hnested

theorem renderSlot (block : Block) (slot : String) :
    rel (BlockScribe.renderSlot nested block slot) (BlockScribe.renderSlot nested' block slot) := by
  unfold BlockScribe.renderSlot
  cases block.inputs.get? slot with
  | some input =>
    cases input with
    | literal content => exact h.renderLiteral block content
    | block id => exact h.map (hnested id 0 .value) some
  | none =>
    cases block.fields.get? slot with
    | some field => exact h.bind h.get fun _ => h.pure _
    | none => exact h.pure _

theorem renderSlots (block : Block) (slots : List String) :
    rel (BlockScribe.renderSlots nested block slots)
      (BlockScribe.renderSlots nested' block slots) := by
  induction slots with
  | nil => exact h.pure _
  | cons slot rest ih =>
    unfold BlockScribe.renderSlots
    refine h.bind (h.renderSlot hnested block slot) fun _ => ?_
    exact h.bind ih fun _ => h.pure _

theorem renderBodies (block : Block) (sockets : List String) :
    rel (BlockScribe.renderBodies nested block sockets)
      (BlockScribe.renderBodies nested' block sockets) := by
  induction sockets with
  | nil => exact h.pure _
  | cons socket rest ih =>
    unfold BlockScribe.renderBodies
    cases block.inputBlock? socket with
    | some id =>
      refine h.bind (hnested id 1 .chain) fun _ => ?_
      exact h.bind ih fun _ => h.pure _
    | none =>
      refine h.bind (h.pure "") fun _ => ?_
      exact h.bind ih fun _ => h.pure _

theorem renderForm (block : Block) (form : Form) :
    rel (BlockScribe.renderForm nested block form) (BlockScribe.renderForm nested' block form) := by
  unfold BlockScribe.renderForm
  refine h.bind h.get fun before => ?_
  refine h.bind (h.renderSlots hnested block form.slots) fun arguments => ?_
  -- behind the arguments only the bodies of a construct are nested
  cases form with
  | branch slots sockets =>
    exact h.bind (h.renderBodies hnested block sockets) fun _ => h.pure _
  | assignment field => exact h.assign field _ _
  | unknownCall proccode => exact h.bind (h.note block _) fun _ => h.pure _
  | namelessAssignment => exact h.bind (h.note block _) fun _ => h.pure _
  | unknown => exact h.bind (h.note block _) fun _ => h.pure _
  | _ => exact h.pure _

/-- Two ways to write what is nested in a block give two renderings of the block. -/
theorem renderBlock (table : SignatureTable) (headOnly : Bool) (block : Block) :
    rel (BlockScribe.renderBlock table nested headOnly block)
      (BlockScribe.renderBlock table nested' headOnly block) := by
  unfold BlockScribe.renderBlock
  refine h.bind h.get fun session => ?_
  exact h.renderForm hnested block _

omit hnested

/-- Two ways to write a block give two renderings of the script. -/
theorem renderChain {single single' : List String → Block → Render String}
    (hstop : ∀ fault entered, rel (Render.stop fault entered : Render (List String))
      (Render.stop fault entered))
    (hsingle : ∀ entered block, rel (single entered block) (single' entered block))
    (blocks : Dict String Block) (followNext : Bool) (entered : List String) (id : String) :
    rel (BlockScribe.renderChain blocks single followNext entered id)
      (BlockScribe.renderChain blocks single' followNext entered id) := by
  induction entered, id using BlockScribe.renderChain.induct blocks with
  | case1 entered id hget =>
    rw [renderChain_of_missing hget, renderChain_of_missing hget]
    exact hstop _ _
  | case2 entered id block hget hmem =>
    rw [renderChain_of_entered hget hmem, renderChain_of_entered hget hmem]
    exact hstop _ _
  | case3 entered id block hget hnew ih =>
    rw [renderChain_of_new hget hnew, renderChain_of_new hget hnew]
    refine h.bind (hsingle (id :: entered) block) fun text => ?_
    cases block.successor? followNext with
    | some next => exact h.bind (ih next) fun _ => h.pure _
    | none => exact h.bind (h.pure _) fun _ => h.pure _

end RenderRelation

/-! ## Renderings that end alike -/

/-- Where the first rendering ends well, the second one ends well with the same value in the same
session. -/
def EndsAlike {α : Type} (r r' : Render α) : Prop :=
  ∀ session value after, r session = .ok value after → r' session = .ok value after

theorem renderRelation_endsAlike : RenderRelation EndsAlike where
  refl _ := fun _ _ _ hrun => hrun
  bind := by
    intro α β r r' f f' hr hf session value after hrun
    obtain ⟨first, between, hfirst, hsecond⟩ := exists_of_bind_eq_ok hrun
    rw [bind_of_ok (hr session first between hfirst)]
    exact hf first between value after hsecond

/-- A script that is written while some blocks are being written is written the same while fewer
are. -/
theorem endsAlike_renderChain {blocks : Dict String Block}
    {single single' : List String → Block → Render String}
    (hsingle : ∀ {entered entered' : List String} block, entered ⊆ entered' →
      EndsAlike (single entered' block) (single' entered block))
    (followNext : Bool) {entered entered' : List String} (hentered : entered ⊆ entered')
    (id : String) :
    EndsAlike (renderChain blocks single followNext entered' id)
      (renderChain blocks single' followNext entered id) := by
  have hrel := renderRelation_endsAlike
  induction entered', id using renderChain.induct blocks generalizing entered with
  | case1 entered' id hget =>
    intro session value after hrun
    rw [renderChain_of_missing hget] at hrun
    cases hrun
  | case2 entered' id block hget hmem =>
    intro session value after hrun
    rw [renderChain_of_entered hget hmem] at hrun
    cases hrun
  | case3 entered' id block hget hnew ih =>
    have hnew' : id ∉ entered := fun hmem => hnew (hentered hmem)
    -- the block joins both lists, so what follows is written while fewer blocks are, too
    have hinner : id :: entered ⊆ id :: entered' := List.cons_subset_cons id hentered
    rw [renderChain_of_new hget hnew, renderChain_of_new hget hnew']
    refine hrel.bind (hsingle block hinner) fun text => ?_
    cases block.successor? followNext with
    | some next => exact hrel.bind (ih next hinner) fun _ => hrel.pure _
    | none => exact hrel.pure _

/-- A script that can be written is written the same while fewer blocks are being written and with
more levels left. -/
theorem endsAlike_emitAt (sources : Sources) {room room' : Nat} (hroom : room ≤ room')
    {entered entered' : List String} (hentered : entered ⊆ entered') (id : String) (level : Nat)
    (mode : Mode) :
    EndsAlike (emitAt sources room entered' id level mode)
      (emitAt sources room' entered id level mode) := by
  have hrel := renderRelation_endsAlike
  induction room generalizing room' entered entered' id level mode with
  | zero =>
    intro session value after hrun
    cases hrun
  | succ room ih =>
    obtain ⟨larger, rfl⟩ : ∃ larger, room' = larger + 1 := ⟨room' - 1, by omega⟩
    have hless : room ≤ larger := by omega
    unfold emitAt
    refine hrel.bind ?_ fun _ => hrel.pure _
    refine endsAlike_renderChain (fun block hinner => ?_) mode.followNext hentered id
    exact hrel.renderBlock (ih hless hinner) sources.table mode.headOnly block

/-! ## Blocks that are being written when a rendering stops -/

/-- Where the rendering stops, the given blocks are among those that are being written. -/
def StopsAbove (outer : List String) {α : Type} (r : Render α) : Prop :=
  ∀ session failure after, r session = .error failure after → outer ⊆ failure.entered

theorem StopsAbove.bind {outer : List String} {α β : Type} {r : Render α} {f : α → Render β}
    (hr : StopsAbove outer r) (hf : ∀ value, StopsAbove outer (f value)) :
    StopsAbove outer (r >>= f) := by
  intro session failure after hrun
  -- the first part either ends well and the second one stops, or it stops itself
  cases hfirst : r session with
  | ok value between =>
    rw [bind_of_ok hfirst] at hrun
    exact hf value between failure after hrun
  | error early between =>
    rw [bind_of_error hfirst] at hrun
    cases hrun
    exact hr session failure after hfirst

theorem renderRelation_stopsAbove (outer : List String) :
    RenderRelation fun r _ => StopsAbove outer r where
  refl := by
    intro α r hr session failure after hrun
    obtain ⟨value, finish, hok, -⟩ := hr session
    rw [hok] at hrun
    cases hrun
  bind hr hf := hr.bind hf

theorem stopsAbove_pure {α : Type} (outer : List String) (value : α) :
    StopsAbove outer (pure value : Render α) :=
  (renderRelation_stopsAbove outer).pure value

theorem stopsAbove_stop {α : Type} (fault : BlockFault) {outer entered : List String}
    (h : outer ⊆ entered) : StopsAbove outer (Render.stop fault entered : Render α) := by
  intro session failure after hrun
  cases hrun
  exact h

theorem stopsAbove_renderBlock {outer : List String} {nested : Nested}
    (hnested : ∀ id level mode, StopsAbove outer (nested id level mode))
    (table : SignatureTable) (headOnly : Bool) (block : Block) :
    StopsAbove outer (renderBlock table nested headOnly block) :=
  @RenderRelation.renderBlock _ (renderRelation_stopsAbove outer) nested nested hnested table
    headOnly block

theorem stopsAbove_renderChain {blocks : Dict String Block}
    {single : List String → Block → Render String} {outer : List String}
    (hsingle : ∀ {entered : List String} block, outer ⊆ entered →
      StopsAbove outer (single entered block))
    (followNext : Bool) {entered : List String} (hentered : outer ⊆ entered) (id : String) :
    StopsAbove outer (renderChain blocks single followNext entered id) := by
  induction entered, id using renderChain.induct blocks with
  | case1 entered id hget =>
    rw [renderChain_of_missing hget]
    exact stopsAbove_stop _ hentered
  | case2 entered id block hget hmem =>
    rw [renderChain_of_entered hget hmem]
    exact stopsAbove_stop _ hentered
  | case3 entered id block hget hnew ih =>
    have hinner : outer ⊆ id :: entered := List.subset_cons_of_subset id hentered
    rw [renderChain_of_new hget hnew]
    refine (hsingle block hinner).bind fun text => ?_
    cases block.successor? followNext with
    | some next => exact (ih next hinner).bind fun _ => stopsAbove_pure outer _
    | none => exact stopsAbove_pure outer _

/-- A script that stops has not left the blocks that were being written before it. -/
theorem stopsAbove_emitAt (sources : Sources) (room : Nat) {outer entered : List String}
    (hentered : outer ⊆ entered) (id : String) (level : Nat) (mode : Mode) :
    StopsAbove outer (emitAt sources room entered id level mode) := by
  induction room generalizing entered id level mode with
  | zero => exact stopsAbove_stop _ hentered
  | succ room ih =>
    unfold emitAt
    refine StopsAbove.bind ?_ fun _ => stopsAbove_pure outer _
    refine stopsAbove_renderChain (fun block hinner => ?_) mode.followNext hentered id
    exact stopsAbove_renderBlock (ih hinner) sources.table mode.headOnly block

end BlockScribe
