import BlockScribe.Proofs.Emission.Bookkeeping

/-! # Scripts come to an end

A script leads from block to block, and into the inputs and bodies of each. No counter goes down on
all of these ways: the levels are not counted from a block to the next one, and a script alone does
not see what is nested in its blocks. What does go down is the number of blocks that are not being
written, since a call goes on only from a block that it could put on the set.

* `Keeping.emitWithin`: the machine that keeps books, with a limit on the blocks that the calls
  active at one time may have entered together. At the limit it stops with a fault of choice.
* `Cut`: how a run looks that was stopped at the limit. The blocks that the active calls have
  entered are known, all different, and none of them was being written before.
* `renderWithin`: the same limit on renderings, which hand down what the machine keeps in its set.
* `emission_ends_within_blocks`: a limit above the number of blocks is never reached, and so does
  not change anything.
-/

namespace BlockScribe

/-! ## Runs with a limit -/

/-- The fault with which a run stops at the limit: by the blocks that the active calls have entered,
the last one first, and the block that would come next. -/
abbrev Interruption := (active : List String) → (next : String) → BlockFault

namespace Keeping

/-- Writes a script one level deeper, with a given way to write its blocks. -/
def script (lines : Mode → List String → String → Keeping (List String)) : Writer :=
  fun id level mode => do
    if maxNesting ≤ (← get).depth then throw (.tooDeep id)
    else deeper do
      let texts ← lines mode [] id
      return Layout.indent level (Layout.stack texts)

/-- Writes the blocks of a script from `id` on, with `passed` in front of it, inside of calls that
have entered the blocks of `active`. They can be followed by `fuel` more. -/
def linesWithin (sources : Sources) (interrupt : Interruption) :
    (fuel : Nat) → (active : List String) → Mode → (passed : List String) → (id : String) →
      Keeping (List String)
  | 0, active, _, _, id => throw (interrupt active id)
  | fuel + 1, active, mode, passed, id =>
    match sources.blocks.get? id with
    | none => throw (.missing id)
    | some b => do
      enter id
      let text ← block sources.table
        (script (linesWithin sources interrupt fuel (id :: active))) mode.headOnly b
      let rest ← match b.successor? mode.followNext with
        | some next =>
          linesWithin sources interrupt fuel (id :: active) mode (passed ++ [id]) next
        | none => do
          leave (passed ++ [id])
          pure []
      return if text.isEmpty then rest else text :: rest

/-- Writes the script that starts at a block. The calls that are active at one time enter `fuel`
blocks at most. -/
def emitWithin (sources : Sources) (interrupt : Interruption) (fuel : Nat) : Writer :=
  script (linesWithin sources interrupt fuel [])

end Keeping

/-- Writes a script with `room` levels left for it, with a given way to write its blocks on the
levels behind the first. -/
def renderScript (lines : (room : Nat) → Mode → String → Render (List String))
    (entered : List String) : (room : Nat) → Nested
  | 0, id, _, _ => Render.stop (.tooDeep id) entered
  | room + 1, id, level, mode => do
    let texts ← lines room mode id
    return Layout.indent level (Layout.stack texts)

/-- Writes the blocks of a script from `id` on, while the blocks of `start` and `active` are being
written. Those of `active` can be followed by `fuel` more. -/
def renderWithin (sources : Sources) (interrupt : Interruption) (start : List String) :
    (fuel : Nat) → (active : List String) → (room : Nat) → Mode → (id : String) →
      Render (List String)
  | 0, active, _, _, id => Render.stop (interrupt active id) (active ++ start)
  | fuel + 1, active, room, mode, id =>
    match sources.blocks.get? id with
    | none => Render.stop (.missing id) (active ++ start)
    | some block =>
      if id ∈ active ++ start then Render.stop (.cyclic id) (active ++ start)
      else do
        let text ← renderBlock sources.table
          (renderScript (renderWithin sources interrupt start fuel (id :: active))
            (id :: active ++ start) room)
          mode.headOnly block
        let rest ← match block.successor? mode.followNext with
          | some next => renderWithin sources interrupt start fuel (id :: active) room mode next
          | none => pure []
        return if text.isEmpty then rest else text :: rest

/-! ## The machine with a limit does what renderings with a limit do -/

namespace Keeping

/-- A script follows the rendering of it, if its blocks do. -/
theorem follows_script {lines : Mode → List String → String → Keeping (List String)}
    {rendered : (room : Nat) → Mode → String → Render (List String)} {entered : List String}
    (hlines : ∀ depth mode id, Follows entered.toFinset entered.toFinset (depth + 1)
      (lines mode [] id) (rendered (maxNesting - (depth + 1)) mode id))
    (depth : Nat) (id : String) (level : Nat) (mode : Mode) :
    Follows entered.toFinset entered.toFinset depth (script lines id level mode)
      (renderScript rendered entered (maxNesting - depth) id level mode) := by
  unfold script
  refine Follows.looking fun session => ?_
  -- the depth that the keeper counts and the room that is left add up to the limit
  by_cases hdeep : maxNesting ≤ depth
  · have hnone : maxNesting - depth = 0 := by omega
    rw [if_pos hdeep, hnone]
    exact follows_stop _ _
  · have hroom : maxNesting - depth = maxNesting - (depth + 1) + 1 := by omega
    rw [if_neg hdeep, hroom]
    unfold renderScript
    exact ((hlines depth mode id).bind fun _ => follows_pure _).deeper

/-- The machine keeps in its set what the renderings hand down, at every limit. -/
theorem follows_linesWithin (sources : Sources) (interrupt : Interruption) (start : List String)
    {fuel : Nat} {active passed : List String} {outer : Finset String}
    (hpassed : (active ++ start).toFinset \ passed.toFinset = outer) (depth : Nat) (mode : Mode)
    (id : String) :
    Follows (active ++ start).toFinset outer depth
      (linesWithin sources interrupt fuel active mode passed id)
      (renderWithin sources interrupt start fuel active (maxNesting - depth) mode id) := by
  induction fuel generalizing active passed outer depth mode id with
  | zero => exact follows_stop _ _
  | succ fuel ih =>
    unfold linesWithin renderWithin
    cases sources.blocks.get? id with
    | none => exact follows_stop _ _
    | some b =>
      dsimp only
      by_cases hmem : id ∈ active ++ start
      · rw [if_pos hmem]
        exact follows_enter_of_mem hmem
      · have houter : (id :: active ++ start).toFinset \ (passed ++ [id]).toFinset = outer :=
          (sdiff_passed hmem).trans hpassed
        rw [if_neg hmem]
        refine Follows.entering (fun hset => hmem (List.mem_toFinset.1 hset)) ?_
        rw [← List.toFinset_cons]
        -- what is nested in the block leaves the set as it is with the block on it
        have hscript : ∀ other level mode, Follows (id :: active ++ start).toFinset
            (id :: active ++ start).toFinset depth
            (script (linesWithin sources interrupt fuel (id :: active)) other level mode)
            (renderScript (renderWithin sources interrupt start fuel (id :: active))
              (id :: active ++ start) (maxNesting - depth) other level mode) :=
          follows_script (fun depth mode other => ih (by simp) (depth + 1) mode other) depth
        refine (follows_block hscript sources.table mode.headOnly b).bind fun text => ?_
        cases b.successor? mode.followNext with
        | some next => exact (ih houter depth mode next).bind fun _ => follows_pure _
        | none =>
          rw [← houter]
          have hlast := @follows_leave (List String) (id :: active ++ start).toFinset depth
            (passed ++ [id]) []
          exact hlast.bind fun _ => follows_pure _

theorem follows_emitWithin (sources : Sources) (interrupt : Interruption) (fuel : Nat)
    (entered : List String) (depth : Nat) (id : String) (level : Nat) (mode : Mode) :
    Follows entered.toFinset entered.toFinset depth
      (emitWithin sources interrupt fuel id level mode)
      (renderScript (renderWithin sources interrupt entered fuel []) entered (maxNesting - depth)
        id level mode) := by
  refine follows_script (fun depth mode id => ?_) depth id level mode
  have hnone : ([] ++ entered).toFinset \ ([] : List String).toFinset = entered.toFinset := by
    simp
  exact follows_linesWithin sources interrupt entered hnone (depth + 1) mode id

end Keeping

/-! ## At the limit -/

/-- The blocks that calls have entered on top of those of `start`: they are known and all different,
and none of them was being written before. -/
structure EntersNew (blocks : Dict String Block) (start active : List String) : Prop where
  known : ∀ id ∈ active, id ∈ blocks.keys
  fresh : ∀ id ∈ active, id ∉ start
  distinct : active.Nodup

section Limits

variable {sources : Sources} {interrupt : Interruption} {start : List String} {fuel : Nat}

theorem entersNew_nil (blocks : Dict String Block) (start : List String) :
    EntersNew blocks start [] :=
  ⟨by simp, by simp, List.nodup_nil⟩

theorem EntersNew.cons {blocks : Dict String Block} {active : List String}
    (h : EntersNew blocks start active) {id : String} {block : Block}
    (hget : blocks.get? id = some block) (hnew : id ∉ active ++ start) :
    EntersNew blocks start (id :: active) := by
  rw [List.mem_append, not_or] at hnew
  refine ⟨List.forall_mem_cons.2 ⟨?_, h.known⟩, List.forall_mem_cons.2 ⟨hnew.2, h.fresh⟩,
    List.nodup_cons.2 ⟨hnew.1, h.distinct⟩⟩
  exact List.mem_map.2 ⟨(id, block), Dict.mem_entries_of_get? hget, rfl⟩

/-- No more blocks can be entered than there are that are not being written. -/
theorem EntersNew.length_le {blocks : Dict String Block} {active : List String}
    (h : EntersNew blocks start active) : active.length ≤ unentered blocks start := by
  have hsub : active ⊆ blocks.keys.filter fun id => !start.contains id := by
    intro id hid
    rw [List.mem_filter]
    exact ⟨h.known id hid, by simpa using h.fresh id hid⟩
  exact (List.subperm_of_subset h.distinct hsub).length_le

theorem unentered_le_size (blocks : Dict String Block) (entered : List String) :
    unentered blocks entered ≤ blocks.size := by
  have hkeys : blocks.keys.length = blocks.size := List.length_map _
  rw [← hkeys]
  exact List.length_filter_le _ _

/-- A rendering that was stopped at a limit of `fuel` blocks. -/
def CutAt (sources : Sources) (interrupt : Interruption) (start : List String) (fuel : Nat)
    (failure : Failure) : Prop :=
  ∃ active next, EntersNew sources.blocks start active ∧ active.length = fuel ∧
    failure = ⟨interrupt active next, active ++ start⟩

/-- A rendering with a limit runs as one without, unless it is stopped at the limit. -/
def RunsUnless (cut : Failure → Prop) {α : Type} (r limited : Render α) : Prop :=
  ∀ session, limited session = r session ∨
    ∃ failure after, cut failure ∧ limited session = .error failure after

theorem RunsUnless.of_eq {cut : Failure → Prop} {α : Type} {r limited : Render α}
    (h : limited = r) : RunsUnless cut r limited :=
  fun session => .inl (congrFun h session)

theorem renderRelation_runsUnless (cut : Failure → Prop) : RenderRelation (RunsUnless cut) where
  refl _ := .of_eq rfl
  bind := by
    intro α β r limited f g hr hf session
    -- a first part that was cut off cuts the whole
    rcases hr session with heq | ⟨failure, between, hcut, hstopped⟩
    · cases hrun : r session with
      | ok value between =>
        rw [hrun] at heq
        rw [bind_of_ok hrun, bind_of_ok heq]
        exact hf value between
      | error failure between =>
        rw [hrun] at heq
        rw [bind_of_error hrun, bind_of_error heq]
        exact .inl rfl
    · exact .inr ⟨failure, between, hcut, bind_of_error hstopped g⟩

/-- A script is written as without a limit, if its blocks are. -/
theorem runsUnless_renderScript {cut : Failure → Prop} {entered : List String}
    {lines : (room : Nat) → Mode → String → Render (List String)}
    (hlines : ∀ room mode id, RunsUnless cut
      (renderChain sources.blocks (fun entered block =>
        renderBlock sources.table (emitAt sources room entered) mode.headOnly block)
        mode.followNext entered id)
      (lines room mode id))
    (room : Nat) (id : String) (level : Nat) (mode : Mode) :
    RunsUnless cut (emitAt sources room entered id level mode)
      (renderScript lines entered room id level mode) := by
  have hrel := renderRelation_runsUnless cut
  cases room with
  | zero => exact .of_eq rfl
  | succ room =>
    unfold emitAt renderScript
    exact hrel.bind (hlines room mode id) fun _ => hrel.pure _

/-- The blocks of a script are written as without a limit, or else a call was stopped that had
entered as many blocks as the limit allows. -/
theorem runsUnless_renderWithin {active : List String}
    (hactive : EntersNew sources.blocks start active) {limit : Nat}
    (hlimit : active.length + fuel = limit) (room : Nat) (mode : Mode) (id : String) :
    RunsUnless (CutAt sources interrupt start limit)
      (renderChain sources.blocks (fun entered block =>
        renderBlock sources.table (emitAt sources room entered) mode.headOnly block)
        mode.followNext (active ++ start) id)
      (renderWithin sources interrupt start fuel active room mode id) := by
  have hrel := renderRelation_runsUnless (CutAt sources interrupt start limit)
  induction fuel generalizing active room mode id with
  | zero =>
    intro session
    exact .inr ⟨_, session, ⟨active, id, hactive, hlimit, rfl⟩, rfl⟩
  | succ fuel ih =>
    unfold renderWithin
    cases hget : sources.blocks.get? id with
    | none => exact .of_eq (renderChain_of_missing hget).symm
    | some block =>
      dsimp only
      by_cases hmem : id ∈ active ++ start
      · rw [if_pos hmem]
        exact .of_eq (renderChain_of_entered hget hmem).symm
      · rw [if_neg hmem, renderChain_of_new hget hmem]
        -- the block joins the active ones, and one block less can follow
        have hinner : EntersNew sources.blocks start (id :: active) := hactive.cons hget hmem
        have hless : (id :: active).length + fuel = limit := by
          rw [List.length_cons]
          omega
        have hnested : ∀ other level mode, RunsUnless (CutAt sources interrupt start limit)
            (emitAt sources room (id :: active ++ start) other level mode)
            (renderScript (renderWithin sources interrupt start fuel (id :: active))
              (id :: active ++ start) room other level mode) :=
          runsUnless_renderScript (fun room mode other => ih hinner hless room mode other) room
        refine hrel.bind (hrel.renderBlock hnested sources.table mode.headOnly block)
          fun text => ?_
        cases block.successor? mode.followNext with
        | some next => exact hrel.bind (ih hinner hless room mode next) fun _ => hrel.pure _
        | none => exact hrel.pure _

theorem runsUnless_emitAt (room : Nat) (id : String) (level : Nat) (mode : Mode) :
    RunsUnless (CutAt sources interrupt start fuel) (emitAt sources room start id level mode)
      (renderScript (renderWithin sources interrupt start fuel []) start room id level mode) := by
  refine runsUnless_renderScript (fun room mode id => ?_) room id level mode
  exact runsUnless_renderWithin (entersNew_nil sources.blocks start) (Nat.zero_add fuel) room mode
    id

end Limits

/-! ## A call of an emitter -/

/-- A run of the machine that was stopped at a limit of `fuel` blocks: the calls that were active
had entered that many blocks, all of them new, and exactly these have joined the set. -/
structure Emitter.Cut (emitter : Emitter) (interrupt : Interruption) (fuel : Nat)
    (result : EStateM.Result BlockFault Books String) : Prop where
  stopped : ∃ active next after, result = .error (interrupt active next) after ∧
    EntersNew emitter.sources.blocks emitter.entered active ∧ active.length = fuel ∧
    after.entered = active.toFinset ∪ emitter.entered.toFinset
  le_size : fuel ≤ emitter.sources.blocks.size

theorem Emitter.kept_run {α : Type} (emitter : Emitter) (scope : Scope) (render : Render α) :
    (emitter.run scope render).kept =
      Keeping.closing emitter.entered.toFinset emitter.depth
        (render ⟨scope, emitter.diagnostics⟩) := by
  rw [Emitter.run_eq]
  cases render ⟨scope, emitter.diagnostics⟩ with
  | ok value after => rfl
  | error failure after => rfl

/-- Every call of an emitter comes to an end, in whatever state the emitter is. The machine that
keeps its books ends just so as long as the active calls may have entered more blocks than there
are; and with a lower limit it does so, too, or is stopped inside of calls that have entered as many
blocks as the limit allows, all of them different and new. -/
theorem emission_ends_within_blocks (emitter : Emitter) (scope : Scope) (id : String) (level : Nat)
    (mode : Mode) (interrupt : Interruption) (fuel : Nat) :
    let result := Keeping.emitWithin emitter.sources interrupt fuel id level mode
      (emitter.books scope)
    let outcome := emitter.emit scope id level mode
    (emitter.sources.blocks.size < fuel → result = outcome.kept) ∧
    (result = outcome.kept ∨ emitter.Cut interrupt fuel result) := by
  intro result outcome
  have hkept : outcome.kept = Keeping.closing emitter.entered.toFinset emitter.depth
      (emitAt emitter.sources (maxNesting - emitter.depth) emitter.entered id level mode
        ⟨scope, emitter.diagnostics⟩) :=
    emitter.kept_run scope (emitter.nested id level mode)
  have hfollows := Keeping.follows_emitWithin emitter.sources interrupt fuel emitter.entered
    emitter.depth id level mode ⟨scope, emitter.diagnostics⟩
  change result = _ at hfollows
  have hruns : RunsUnless (CutAt emitter.sources interrupt emitter.entered fuel) _ _ :=
    runsUnless_emitAt (maxNesting - emitter.depth) id level mode
  -- the run is either the emission itself or cut where the fuel or the stack ended
  have hcut : result = outcome.kept ∨ emitter.Cut interrupt fuel result := by
    rcases hruns ⟨scope, emitter.diagnostics⟩ with
      heq | ⟨failure, after, ⟨active, next, hactive, hlength, rfl⟩, hstopped⟩
    · left
      rw [hfollows, hkept, heq]
    · right
      rw [hstopped] at hfollows
      refine ⟨⟨active, next, _, hfollows, hactive, hlength, ?_⟩, ?_⟩
      · ext id
        simp
      · -- no more blocks can have been entered than there are
        have hmost := hactive.length_le
        have hfew := unentered_le_size emitter.sources.blocks emitter.entered
        omega
  refine ⟨?_, hcut⟩
  intro hfuel
  rcases hcut with heq | hstopped
  · exact heq
  · -- with more fuel than blocks there is no such cut
    have hsize := hstopped.le_size
    omega

end BlockScribe
