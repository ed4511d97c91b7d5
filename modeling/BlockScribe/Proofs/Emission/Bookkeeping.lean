import BlockScribe.Proofs.Emission.Draft
import BlockScribe.Proofs.Emission.SideBySide
import Mathlib.Data.Finset.Basic

/-! # An emitter that keeps its books

The emitter hands down the blocks that are being written and the levels that are left, and hands
back none of them, so nothing of its state has to be put right behind a script. This module looks
at the same work as a machine does it that has one set of blocks and one counter for all: a script
counts one level up when it starts and down when it ends or stops, it puts its blocks on the set one
by one, and takes them off again when its last block is written, but leaves them there when it
stops. What is nested in its blocks does the same in between.

* `Books` and `Keeping`: the state of the machine, and its computations.
* `Keeping.emit`: the machine.
* `Keeping.Follows`: a computation of the machine does what a rendering does, and its books say at
  the end what the rendering says of its own (`follows_emit`).
* `emit_restores_emitter`: what a call leaves of the state of an emitter.
-/

namespace BlockScribe

/-! ## The machine -/

/-- The books of the machine. -/
structure Books where
  session : Session
  /-- The blocks that are being written. -/
  entered : Finset String
  /-- The levels that are in use. -/
  depth : Nat

/-- A computation on books that may stop; what it changed before it stopped stays changed. -/
abbrev Keeping := EStateM BlockFault Books

namespace Keeping

/-- A way to write the block with a given id, indented by a number of tabs. -/
abbrev Writer := (id : String) → (level : Nat) → (mode : Mode) → Keeping String

/-- Puts a block on the set, unless it is there. -/
def enter (id : String) : Keeping Unit := do
  if id ∈ (← get).entered then throw (.cyclic id)
  else modify fun books => { books with entered := insert id books.entered }

/-- Takes blocks off the set, one after the other. -/
def leave (ids : List String) : Keeping Unit :=
  modify fun books => { books with entered := ids.foldl Finset.erase books.entered }

/-- Counts one level up for a computation and down again behind it, also when it stops. -/
def deeper {α : Type} (r : Keeping α) : Keeping α := fun books =>
  match r { books with depth := books.depth + 1 } with
  | .ok value after => .ok value { after with depth := after.depth - 1 }
  | .error fault after => .error fault { after with depth := after.depth - 1 }

/-- A rendering that enters no block, on the session in the books. -/
def plain {α : Type} (r : Render α) : Keeping α := fun books =>
  match r books.session with
  | .ok value after => .ok value { books with session := after }
  | .error failure after => .error failure.fault { books with session := after }

/-- Writes what stands in a slot. -/
def slot (writer : Writer) (block : Block) (name : String) : Keeping (Option String) :=
  match block.inputs.get? name with
  | some (.block id) => some <$> writer id 0 .value
  | some (.literal literal) => plain (renderLiteral block literal)
  | none =>
    match block.fields.get? name with
    | some field => do return some (fieldText (← get).session.scope name field)
    | none => pure (some emptyText)

/-- Writes slots one after the other. -/
def slots (writer : Writer) (block : Block) : List String → Keeping (List (Option String))
  | [] => pure []
  | name :: rest => do
    let text ← slot writer block name
    let texts ← slots writer block rest
    return text :: texts

/-- Writes the bodies in the sockets of a construct. -/
def bodies (writer : Writer) (block : Block) : List String → Keeping (List String)
  | [] => pure []
  | socket :: rest => do
    let body ← match block.inputBlock? socket with
      | some id => writer id 1 .chain
      | none => pure ""
    let others ← bodies writer block rest
    return Layout.braced body :: others

/-- Writes a block in its form. -/
def form (writer : Writer) (block : Block) (form : Form) : Keeping String := do
  let before := (← get).session.scope
  let arguments ← slots writer block form.slots
  match form with
  | .comparison =>
    return " != ".intercalate (arguments.map fun argument => argument.getD emptyText)
  | .answer _ => return "return " ++ soleText arguments
  | .logging => return ""
  | .unknownCall proccode =>
    plain (Render.note block (.unknownProcedure proccode))
    return unknownCallText proccode
  | .assignment field =>
    plain (assign field (!before.isDeclared field.variableId) (soleText arguments))
  | .namelessAssignment =>
    plain (Render.note block .assignmentWithoutVariable)
    return namelessAssignmentText
  | .parameter raw => return Identifier.parameter raw
  | .choice value => return Quoted.quote value
  | .call name _ => return callText name arguments
  | .branch _ sockets =>
    let texts ← bodies writer block sockets
    return callText block.opcode arguments ++ " " ++ " ".intercalate texts
  | .unknown =>
    plain (Render.note block (.undefinedOpcode block.opcode))
    return undefinedText block.opcode

/-- Writes a block. -/
def block (table : SignatureTable) (writer : Writer) (headOnly : Bool) (b : Block) :
    Keeping String := do
  form writer b (b.form table (← get).session.scope headOnly)

/-- Writes the blocks of a script from `id` on, with `passed` in front of it, and leaves all of them
behind the last one. A script has no more turns than there are blocks, so `turns` is no limit if it
is larger. -/
def chain (blocks : Dict String Block) (single : Block → Keeping String) (followNext : Bool) :
    (turns : Nat) → (passed : List String) → (id : String) → Keeping (List String)
  | 0, _, id => throw (.cyclic id)
  | turns + 1, passed, id =>
    match blocks.get? id with
    | none => throw (.missing id)
    | some b => do
      enter id
      let text ← single b
      let rest ← match b.successor? followNext with
        | some next => chain blocks single followNext turns (passed ++ [id]) next
        | none => do
          leave (passed ++ [id])
          pure []
      return if text.isEmpty then rest else text :: rest

/-- Writes the script that starts at a block. The counter refuses what is nested too deeply, so
`levels` is no limit if it is larger than the levels that are left. -/
def emit (sources : Sources) : (levels : Nat) → Writer
  | 0, id, _, _ => throw (.tooDeep id)
  | levels + 1, id, level, mode => do
    if maxNesting ≤ (← get).depth then throw (.tooDeep id)
    else deeper do
      let lines ← chain sources.blocks
        (block sources.table (emit sources levels) mode.headOnly) mode.followNext
        (sources.blocks.keys.length + 1) [] id
      return Layout.indent level (Layout.stack lines)

/-! ## The machine does what renderings do -/

section Follows

variable {α β : Type}

/-- The books at the end of a rendering that started with `depth` levels in use: the blocks of
`finish` are being written if it ended well, and those that it names if it stopped. -/
def closing (finish : Finset String) (depth : Nat) :
    EStateM.Result Failure Session α → EStateM.Result BlockFault Books α
  | .ok value after => .ok value ⟨after, finish, depth⟩
  | .error failure after => .error failure.fault ⟨after, failure.entered.toFinset, depth⟩

/-- A computation of the machine, while the blocks of `start` are being written, does what a
rendering does: it ends as the rendering does, in the same session, with the counter as it was, and
with the blocks of `finish` being written, or those that the rendering names if it stops. -/
def Follows (start finish : Finset String) (depth : Nat) (m : Keeping α) (r : Render α) : Prop :=
  ∀ session, m ⟨session, start, depth⟩ = closing finish depth (r session)

variable {start between finish : Finset String} {depth : Nat}

theorem Follows.bind {m : Keeping α} {r : Render α} {f : α → Keeping β} {g : α → Render β}
    (hm : Follows start between depth m r)
    (hf : ∀ value, Follows between finish depth (f value) (g value)) :
    Follows start finish depth (m >>= f) (r >>= g) := by
  intro session
  have hfirst := hm session
  cases hrun : r session with
  | ok value middle =>
    rw [hrun] at hfirst
    -- the set of the keeper is back where the second part expects it
    have hbind : (m >>= f) ⟨session, start, depth⟩ = f value ⟨middle, between, depth⟩ := by
      show EStateM.bind m f _ = _
      simp only [EStateM.bind, hfirst, closing]
    rw [hbind, bind_of_ok hrun]
    exact hf value middle
  | error failure middle =>
    rw [hrun] at hfirst
    -- what was entered when the rendering stopped is still in the set of the keeper
    have hbind : (m >>= f) ⟨session, start, depth⟩ =
        .error failure.fault ⟨middle, failure.entered.toFinset, depth⟩ := by
      show EStateM.bind m f _ = _
      simp only [EStateM.bind, hfirst, closing]
    rw [hbind, bind_of_error hrun]
    rfl

theorem follows_pure (value : α) :
    Follows start start depth (pure value) (pure value) :=
  fun _ => rfl

theorem Follows.map {m : Keeping α} {r : Render α} (h : Follows start finish depth m r)
    (f : α → β) : Follows start finish depth (f <$> m) (f <$> r) := by
  rw [map_eq_pure_bind, map_eq_pure_bind]
  exact h.bind fun value => follows_pure (f value)

/-- The machine looks up the session where a rendering does. -/
theorem follows_get_bind {f : Books → Keeping β} {g : Session → Render β}
    (h : ∀ session, Follows start finish depth (f ⟨session, start, depth⟩) (g session)) :
    Follows start finish depth (get >>= f) (get >>= g) :=
  fun session => h session session

/-- The machine may look at its books where a rendering looks at nothing. -/
theorem Follows.looking {f : Books → Keeping β} {r : Render β}
    (h : ∀ session, Follows start finish depth (f ⟨session, start, depth⟩) r) :
    Follows start finish depth (get >>= f) r :=
  fun session => h session session

/-- A rendering that cannot stop enters no block. -/
theorem follows_plain {r : Render α}
    (h : ∀ session, ∃ value after, r session = .ok value after) :
    Follows start start depth (plain r) r := by
  intro session
  obtain ⟨value, after, hrun⟩ := h session
  unfold plain
  rw [hrun]
  rfl

theorem follows_note (owner : Block) (notice : Notice) :
    Follows start start depth (plain (Render.note owner notice)) (Render.note owner notice) :=
  follows_plain fun session => ⟨_, _, note_run owner notice session⟩

theorem follows_stop (fault : BlockFault) (entered : List String) :
    Follows entered.toFinset finish depth (throw fault : Keeping α) (Render.stop fault entered) :=
  fun _ => rfl

theorem enter_run (id : String) (books : Books) :
    enter id books =
      if id ∈ books.entered then .error (.cyclic id) books
      else .ok () { books with entered := insert id books.entered } := by
  have hrun : enter id books =
      (if id ∈ books.entered then throw (.cyclic id)
        else modify fun books => { books with entered := insert id books.entered } :
          Keeping Unit) books := rfl
  rw [hrun]
  split
  · rfl
  · rfl

/-- A block that is not on the set is put there, and what follows is done with it on the set. -/
theorem Follows.entering {m : Keeping α} {r : Render α} {id : String} (hnew : id ∉ start)
    (h : Follows (insert id start) finish depth m r) :
    Follows start finish depth (do enter id; m) r := by
  intro session
  have hrun := enter_run id ⟨session, start, depth⟩
  rw [if_neg hnew] at hrun
  have hbind : (do enter id; m : Keeping α) ⟨session, start, depth⟩ =
      m ⟨session, insert id start, depth⟩ := by
    show EStateM.bind (enter id) (fun _ => m) _ = _
    simp only [EStateM.bind, hrun]
  rw [hbind]
  exact h session

/-- A block that is on the set stops the machine. -/
theorem follows_enter_of_mem {m : Keeping α} {id : String} {entered : List String}
    (hmem : id ∈ entered) :
    Follows entered.toFinset finish depth (do enter id; m) (Render.stop (.cyclic id) entered) := by
  intro session
  have hrun := enter_run id ⟨session, entered.toFinset, depth⟩
  rw [if_pos (List.mem_toFinset.2 hmem)] at hrun
  show EStateM.bind (enter id) (fun _ => m) _ = _
  simp only [EStateM.bind, hrun]
  rfl

/-- Taking blocks off a set one by one takes off all of them. -/
theorem foldl_erase (ids : List String) (entered : Finset String) :
    ids.foldl Finset.erase entered = entered \ ids.toFinset := by
  induction ids generalizing entered with
  | nil => simp
  | cons id rest ih =>
    rw [List.foldl_cons, ih]
    ext other
    simp only [Finset.mem_sdiff, Finset.mem_erase, List.mem_toFinset, List.mem_cons]
    tauto

theorem follows_leave (ids : List String) (value : α) :
    Follows start (start \ ids.toFinset) depth (do leave ids; pure value) (pure value) := by
  intro session
  rw [← foldl_erase]
  rfl

/-- One level deeper, and back. -/
theorem Follows.deeper {m : Keeping α} {r : Render α}
    (h : Follows start finish (depth + 1) m r) : Follows start finish depth (deeper m) r := by
  intro session
  have hrun := h session
  unfold Keeping.deeper
  dsimp only
  rw [hrun]
  cases r session with
  | ok value after => rfl
  | error failure after => rfl

end Follows

section Parts

variable {writer : Writer} {nested : Nested} {start : Finset String} {depth : Nat}
  (hwriter : ∀ id level mode,
    Follows start start depth (writer id level mode) (nested id level mode))
include hwriter

theorem follows_slot (b : Block) (name : String) :
    Follows start start depth (slot writer b name) (renderSlot nested b name) := by
  unfold slot renderSlot
  cases b.inputs.get? name with
  | some input =>
    cases input with
    | block id => exact (hwriter id 0 .value).map some
    | literal content =>
      exact follows_plain fun session => ⟨_, _, renderLiteral_run b content session⟩
  | none =>
    cases b.fields.get? name with
    | some field => exact follows_get_bind fun session => follows_pure _
    | none => exact follows_pure _

theorem follows_slots (b : Block) (names : List String) :
    Follows start start depth (slots writer b names) (renderSlots nested b names) := by
  induction names with
  | nil => exact follows_pure _
  | cons name rest ih =>
    unfold slots renderSlots
    refine (follows_slot hwriter b name).bind fun _ => ?_
    exact ih.bind fun _ => follows_pure _

theorem follows_bodies (b : Block) (sockets : List String) :
    Follows start start depth (bodies writer b sockets) (renderBodies nested b sockets) := by
  induction sockets with
  | nil => exact follows_pure _
  | cons socket rest ih =>
    unfold bodies renderBodies
    cases b.inputBlock? socket with
    | some id =>
      refine (hwriter id 1 .chain).bind fun _ => ?_
      exact ih.bind fun _ => follows_pure _
    | none =>
      refine (follows_pure "").bind fun _ => ?_
      exact ih.bind fun _ => follows_pure _

theorem follows_form (b : Block) (f : Form) :
    Follows start start depth (form writer b f) (renderForm nested b f) := by
  unfold form renderForm
  refine follows_get_bind fun before => ?_
  refine (follows_slots hwriter b f.slots).bind fun arguments => ?_
  -- behind the slots only bodies run the writer; the rest is plain
  cases f with
  | branch names sockets => exact (follows_bodies hwriter b sockets).bind fun _ => follows_pure _
  | assignment field =>
    exact follows_plain fun session => ⟨_, _, assign_run field _ _ session⟩
  | unknownCall proccode => exact (follows_note b _).bind fun _ => follows_pure _
  | namelessAssignment => exact (follows_note b _).bind fun _ => follows_pure _
  | unknown => exact (follows_note b _).bind fun _ => follows_pure _
  | _ => exact follows_pure _

theorem follows_block (table : SignatureTable) (headOnly : Bool) (b : Block) :
    Follows start start depth (block table writer headOnly b)
      (renderBlock table nested headOnly b) := by
  unfold block renderBlock
  exact follows_get_bind fun session => follows_form hwriter b _

end Parts

/-- What a script has entered and passed, less what it has passed, stays the same from block to
block. -/
theorem sdiff_passed {entered passed : List String} {id : String} (hnew : id ∉ entered) :
    (id :: entered).toFinset \ (passed ++ [id]).toFinset =
      entered.toFinset \ passed.toFinset := by
  ext other
  simp only [Finset.mem_sdiff, List.mem_toFinset, List.mem_append, List.mem_cons,
    List.not_mem_nil, or_false]
  constructor
  · -- the block itself is passed, so it cannot be among what is left
    rintro ⟨rfl | hother, hnot⟩
    · exact absurd (.inr rfl) hnot
    · exact ⟨hother, fun hmem => hnot (.inl hmem)⟩
  · rintro ⟨hother, hnot⟩
    refine ⟨.inr hother, ?_⟩
    rintro (hmem | rfl)
    · exact hnot hmem
    · -- this is where the block has to be new
      exact hnew hother

/-- Behind a script those blocks are being written that were so before it: the blocks of the script,
`passed` and those that are still to come, are left. -/
theorem follows_chain {blocks : Dict String Block} {single : Block → Keeping String}
    {render : List String → Block → Render String} {depth : Nat}
    (hsingle : ∀ (entered : List String) b,
      Follows entered.toFinset entered.toFinset depth (single b) (render entered b))
    {followNext : Bool} {outer : Finset String} {turns : Nat} {passed entered : List String}
    {id : String} (hturns : unentered blocks entered < turns)
    (hpassed : entered.toFinset \ passed.toFinset = outer) :
    Follows entered.toFinset outer depth (chain blocks single followNext turns passed id)
      (renderChain blocks render followNext entered id) := by
  induction entered, id using renderChain.induct blocks generalizing turns passed with
  | case1 entered id hget =>
    obtain ⟨fewer, rfl⟩ : ∃ fewer, turns = fewer + 1 := ⟨turns - 1, by omega⟩
    rw [renderChain_of_missing hget, chain, hget]
    exact follows_stop _ _
  | case2 entered id b hget hmem =>
    obtain ⟨fewer, rfl⟩ : ∃ fewer, turns = fewer + 1 := ⟨turns - 1, by omega⟩
    rw [renderChain_of_entered hget hmem, chain, hget]
    exact follows_enter_of_mem hmem
  | case3 entered id b hget hnew ih =>
    obtain ⟨fewer, rfl⟩ : ∃ fewer, turns = fewer + 1 := ⟨turns - 1, by omega⟩
    have hfewer : unentered blocks (id :: entered) < fewer := by
      have hless := unentered_lt hget hnew
      omega
    have houter : (id :: entered).toFinset \ (passed ++ [id]).toFinset = outer :=
      (sdiff_passed hnew).trans hpassed
    rw [renderChain_of_new hget hnew, chain, hget]
    refine Follows.entering (fun hmem => hnew (List.mem_toFinset.1 hmem)) ?_
    rw [← List.toFinset_cons]
    refine (hsingle (id :: entered) b).bind fun text => ?_
    cases b.successor? followNext with
    | some next => exact (ih next hfewer houter).bind fun _ => follows_pure _
    | none =>
      -- the last block: all that the script has entered is taken off
      rw [← houter]
      have hlast := @follows_leave (List String) (id :: entered).toFinset depth (passed ++ [id]) []
      exact hlast.bind fun _ => follows_pure _

/-- The machine does what the emitter does, at every level and from whatever books. -/
theorem follows_emit (sources : Sources) {levels depth : Nat}
    (hlevels : maxNesting - depth < levels)
    (entered : List String) (id : String) (level : Nat) (mode : Mode) :
    Follows entered.toFinset entered.toFinset depth (emit sources levels id level mode)
      (emitAt sources (maxNesting - depth) entered id level mode) := by
  induction levels generalizing depth entered id level mode with
  | zero => omega
  | succ levels ih =>
    unfold emit
    refine Follows.looking fun session => ?_
    by_cases hdeep : maxNesting ≤ depth
    · -- no level is left, and both refuse the block
      have hnone : maxNesting - depth = 0 := by omega
      rw [if_pos hdeep, hnone]
      exact follows_stop _ _
    · have hroom : maxNesting - depth = maxNesting - (depth + 1) + 1 := by omega
      rw [if_neg hdeep, hroom]
      unfold emitAt
      refine (Follows.bind ?_ fun _ => follows_pure _).deeper
      have hturns : unentered sources.blocks entered < sources.blocks.keys.length + 1 :=
        Nat.lt_succ_of_le (List.length_filter_le _ _)
      refine follows_chain (fun inner b => ?_) hturns (by simp)
      exact follows_block (ih (by omega) inner) sources.table mode.headOnly b

end Keeping

/-! ## Calls of an emitter -/

namespace Emitter

/-- The books that the state of an emitter amounts to, with a scope to work on. -/
def books (emitter : Emitter) (scope : Scope) : Books :=
  ⟨⟨scope, emitter.diagnostics⟩, emitter.entered.toFinset, emitter.depth⟩

end Emitter

namespace Emitter.Outcome

/-- The outcome of a call as one of the machine. -/
def kept {α : Type} (outcome : Outcome α) : EStateM.Result BlockFault Books α :=
  match outcome.result with
  | .ok value => .ok value (outcome.emitter.books outcome.scope)
  | .error fault => .error fault (outcome.emitter.books outcome.scope)

end Emitter.Outcome

/-- However far a rendering came, it has only added to the diagnostics. -/
theorem prefix_of_steps {blocks : Dict String Block} {before after : Session}
    (h : Session.Steps blocks before after) : before.diagnostics <+: after.diagnostics := by
  induction h with
  | refl => exact List.prefix_rfl
  | tail _ hlast ih =>
    cases hlast with
    | note diagnostic => exact ih.trans (List.prefix_append _ _)
    | bind _ _ _ _ => exact ih

/-- The emitter that a run leaves, by how the rendering ended. -/
theorem Emitter.run_eq {α : Type} (emitter : Emitter) (scope : Scope) (render : Render α) :
    emitter.run scope render =
      match render ⟨scope, emitter.diagnostics⟩ with
      | .ok value after =>
        ⟨.ok value, after.scope, { emitter with diagnostics := after.diagnostics }⟩
      | .error failure after =>
        ⟨.error failure.fault, after.scope,
          { emitter with diagnostics := after.diagnostics, entered := failure.entered }⟩ :=
  rfl

/-- A call of an emitter, in whatever state the emitter is, ends as the machine does that keeps its
books. It leaves the depth as it was; the blocks that are being written behind it are those from
before if it ends well, and include them if it fails; and the diagnostics are those from before with
new ones behind them. -/
theorem emit_restores_emitter (emitter : Emitter) (scope : Scope) (id : String) (level : Nat)
    (mode : Mode) :
    let outcome := emitter.emit scope id level mode
    Keeping.emit emitter.sources (maxNesting + 1) id level mode (emitter.books scope) =
      outcome.kept ∧
    outcome.emitter.depth = emitter.depth ∧
    (∀ text, outcome.result = .ok text → outcome.emitter.entered = emitter.entered) ∧
    (∀ fault, outcome.result = .error fault → emitter.entered ⊆ outcome.emitter.entered) ∧
    ∃ added, outcome.emitter.diagnostics = emitter.diagnostics ++ added := by
  intro outcome
  -- the keeper, the blocks that a stop leaves behind and the notes, each told by its own lemma
  have hfollows := Keeping.follows_emit emitter.sources
    (Nat.lt_succ_of_le (Nat.sub_le maxNesting emitter.depth)) emitter.entered id level mode
    ⟨scope, emitter.diagnostics⟩
  have hstops := stopsAbove_emitAt emitter.sources (maxNesting - emitter.depth)
    (List.Subset.refl emitter.entered) id level mode ⟨scope, emitter.diagnostics⟩
  have hadded := prefix_of_steps (stepsBy_emitAt emitter.sources (maxNesting - emitter.depth)
    emitter.entered id level mode ⟨scope, emitter.diagnostics⟩)
  have houtcome : outcome = emitter.run scope (emitter.nested id level mode) := rfl
  rw [Emitter.run_eq, Emitter.nested] at houtcome
  cases hrun : emitAt emitter.sources (maxNesting - emitter.depth) emitter.entered id level mode
    ⟨scope, emitter.diagnostics⟩ with
  | ok text after =>
    rw [hrun] at hfollows houtcome
    rw [endOf_of_ok hrun] at hadded
    -- the set is restored as it was
    obtain ⟨added, hadded⟩ := hadded
    rw [houtcome]
    refine ⟨hfollows, rfl, fun _ _ => rfl, ?_, added, hadded.symm⟩
    intro fault hfault
    cases hfault
  | error failure after =>
    rw [hrun] at hfollows houtcome
    rw [endOf_of_error hrun] at hadded
    -- the set is what was entered at the stop
    obtain ⟨added, hadded⟩ := hadded
    rw [houtcome]
    refine ⟨hfollows, rfl, ?_, fun _ _ => hstops failure after hrun, added, hadded.symm⟩
    intro text htext
    cases htext

end BlockScribe
