import BlockScribe.Proofs.Emission.Bindings
import BlockScribe.Proofs.Emission.Bookkeeping

/-! # A script is its statements, one after the other

While a later block of a script is written, the earlier ones are still being written, and none of
them may be met again. The blocks that are being written decide only whether a script can be
written, so each of its blocks can be written by itself, too, and to the same text. A script that
is written is what single calls for its blocks write, one after the other, less the empty texts.

* `NextChain`: the ids that the links to the next block lead to, up to the last one.
* `Emitter.emitEach`: calls for single statements, one after the other.
* `chain_is_sequence`: both for every script that is written.
-/

namespace BlockScribe

/-- The ids from a block on that the links to the next block lead to, up to a block without one. -/
inductive NextChain (blocks : Dict String Block) : String → List String → Prop
  | last {id : String} {block : Block} (hget : blocks.get? id = some block)
    (hnext : block.next = none) : NextChain blocks id [id]
  | link {id next : String} {block : Block} {ids : List String}
    (hget : blocks.get? id = some block) (hnext : block.next = some next)
    (hrest : NextChain blocks next ids) : NextChain blocks id (id :: ids)

/-! ## Single statements -/

/-- Writes blocks one after the other, each by itself. -/
def renderEach (nested : Nested) (headOnly : Bool) : List String → Render (List String)
  | [] => pure []
  | id :: rest => do
    let text ← nested id 0 ⟨headOnly, false⟩
    let texts ← renderEach nested headOnly rest
    return text :: texts

/-- Calls an emitter for single statements, one after the other: each call works on the scope and
the emitter that the one before it left, and the first that fails is the last. -/
def Emitter.emitEach (headOnly : Bool) :
    (ids : List String) → (emitter : Emitter) → (scope : Scope) → Outcome (List String)
  | [], emitter, scope => ⟨.ok [], scope, emitter⟩
  | id :: rest, emitter, scope =>
    let first := emitter.emit scope id 0 ⟨headOnly, false⟩
    match first.result with
    | .error fault => ⟨.error fault, first.scope, first.emitter⟩
    | .ok text =>
      let others := emitEach headOnly rest first.emitter first.scope
      ⟨others.result.map (text :: ·), others.scope, others.emitter⟩

/-- A call that ends well leaves the emitter with more diagnostics, and otherwise as it was. -/
theorem Emitter.emit_of_ok {emitter : Emitter} {scope : Scope} {id : String} {level : Nat}
    {mode : Mode} {text : String} {after : Session}
    (h : emitter.nested id level mode ⟨scope, emitter.diagnostics⟩ = .ok text after) :
    emitter.emit scope id level mode =
      ⟨.ok text, after.scope, { emitter with diagnostics := after.diagnostics }⟩ := by
  unfold Emitter.emit
  rw [Emitter.run_eq, h]

/-- Calls one after the other do what the renderings do. -/
theorem emitEach_of_renderEach {headOnly : Bool} {ids : List String} {emitter : Emitter}
    {scope : Scope} {texts : List String} {after : Session}
    (h : renderEach emitter.nested headOnly ids ⟨scope, emitter.diagnostics⟩ = .ok texts after) :
    Emitter.emitEach headOnly ids emitter scope =
      ⟨.ok texts, after.scope, { emitter with diagnostics := after.diagnostics }⟩ := by
  induction ids generalizing emitter scope texts with
  | nil =>
    cases h
    rfl
  | cons id rest ih =>
    unfold renderEach at h
    obtain ⟨text, between, hfirst, h⟩ := exists_of_bind_eq_ok h
    obtain ⟨others, finish, hrest, h⟩ := exists_of_bind_eq_ok h
    cases h
    -- the first call leaves an emitter that writes what is nested in the same way
    have hothers := @ih { emitter with diagnostics := between.diagnostics } between.scope others
      hrest
    unfold Emitter.emitEach
    rw [Emitter.emit_of_ok hfirst]
    dsimp only
    rw [hothers]
    rfl

/-- A block that is written alone is what its form gives, behind the tabs of its level. -/
theorem emitAt_of_new {sources : Sources} {entered : List String} {id : String} {block : Block}
    (hget : sources.blocks.get? id = some block) (hnew : id ∉ entered) (room level : Nat)
    (headOnly : Bool) :
    emitAt sources (room + 1) entered id level ⟨headOnly, false⟩ =
      Layout.indent level <$>
        renderBlock sources.table (emitAt sources room (id :: entered)) headOnly block := by
  unfold emitAt
  rw [renderChain_of_new hget hnew]
  simp only [Block.successor?, Bool.false_eq_true, if_false, pure_bind, bind_assoc,
    map_eq_pure_bind]
  congr 1
  funext text
  -- one text on one line, or none
  cases hempty : text.isEmpty with
  | true =>
    rw [String.isEmpty_iff.1 hempty]
    rfl
  | false =>
    have hstack : Layout.stack [text] = text := String.intercalate_singleton
    rw [if_neg Bool.false_ne_true, hstack]

/-- A block that is written as a part of a script can be written by itself, while fewer blocks are
being written. -/
theorem emitAt_single {sources : Sources} {room : Nat} {headOnly : Bool}
    {outer entered : List String} (houter : outer ⊆ entered) {id : String} {block : Block}
    (hget : sources.blocks.get? id = some block) (hnew : id ∉ entered)
    {session after : Session} {text : String}
    (h : renderBlock sources.table (emitAt sources room (id :: entered)) headOnly block session =
      .ok text after) :
    emitAt sources (room + 1) outer id 0 ⟨headOnly, false⟩ session = .ok text after := by
  have hinner : id :: outer ⊆ id :: entered := List.cons_subset_cons id houter
  -- with fewer blocks being written, the same block is written the same
  have halone : renderBlock sources.table (emitAt sources room (id :: outer)) headOnly block
      session = .ok text after :=
    renderRelation_endsAlike.renderBlock (endsAlike_emitAt sources (Nat.le_refl room) hinner)
      sources.table headOnly block session text after h
  have hnew' : id ∉ outer := fun hmem => hnew (houter hmem)
  rw [emitAt_of_new hget hnew', map_of_ok halone]
  rfl

/-- The blocks of a script that is written: they follow one another, they are different and new, and
single renderings of them, while fewer blocks are being written, give the same texts in the same
sessions. -/
theorem renderChain_eq_renderEach {sources : Sources} {room : Nat} {headOnly : Bool}
    {outer entered : List String} (houter : outer ⊆ entered) {id : String}
    {session after : Session} {lines : List String}
    (h : renderChain sources.blocks
      (fun entered block =>
        renderBlock sources.table (emitAt sources room entered) headOnly block)
      true entered id session = .ok lines after) :
    ∃ ids texts, NextChain sources.blocks id ids ∧ ids.Nodup ∧ (∀ i ∈ ids, i ∉ entered) ∧
      renderEach (emitAt sources (room + 1) outer) headOnly ids session = .ok texts after ∧
      lines = texts.filter fun text => !text.isEmpty := by
  induction entered, id using renderChain.induct sources.blocks
    generalizing session lines after with
  | case1 entered id hget =>
    rw [renderChain_of_missing hget] at h
    cases h
  | case2 entered id block hget hmem =>
    rw [renderChain_of_entered hget hmem] at h
    cases h
  | case3 entered id block hget hnew ih =>
    rw [renderChain_of_new hget hnew] at h
    obtain ⟨text, between, hfirst, h⟩ := exists_of_bind_eq_ok h
    have halone := emitAt_single houter hget hnew hfirst
    -- the script is followed, so what comes next is what the block names
    have hsuccessor : block.successor? true = block.next := rfl
    rw [hsuccessor] at h
    cases hnext : block.next with
    | none =>
      rw [hnext] at h
      cases h
      -- the last block of the script
      refine ⟨[id], [text], .last hget hnext, List.nodup_singleton id, ?_, ?_, ?_⟩
      · intro i hi
        rw [List.mem_singleton.1 hi]
        exact hnew
      · unfold renderEach
        rw [bind_of_ok halone]
        rfl
      · cases htext : text.isEmpty with
        | true => simp [htext]
        | false => simp [htext]
    | some next =>
      rw [hnext] at h
      obtain ⟨rest, finish, hrest, h⟩ := exists_of_bind_eq_ok h
      cases h
      obtain ⟨ids, texts, hchain, hdistinct, hfresh, heach, hlines⟩ :=
        -- what follows is written with one block more entered, from the same outer ones
        ih next (List.subset_cons_of_subset id houter) hrest
      refine ⟨id :: ids, text :: texts, .link hget hnext hchain, ?_, ?_, ?_, ?_⟩
      · -- the block is entered before the others, so it cannot be one of them
        exact List.nodup_cons.2 ⟨fun hmem => hfresh id hmem List.mem_cons_self, hdistinct⟩
      · intro i hi
        rcases List.mem_cons.1 hi with rfl | hother
        · exact hnew
        · exact fun hmem => hfresh i hother (List.mem_cons_of_mem _ hmem)
      · unfold renderEach
        rw [bind_of_ok halone, bind_of_ok heach]
        rfl
      · rw [hlines]
        cases htext : text.isEmpty with
        | true => simp [htext]
        | false => simp [htext]

/-- A script that is written is the sequence of its statements: the links to the next block lead
through finitely many different blocks, and calls for these blocks alone, one after the other, end
well with the same scope and the same emitter. The script has their texts line by line, less the
empty ones. -/
theorem chain_is_sequence {emitter : Emitter} {scope : Scope} {id : String} {level : Nat}
    {headOnly : Bool} {text : String}
    (h : (emitter.emit scope id level ⟨headOnly, true⟩).result = .ok text) :
    ∃ ids texts, NextChain emitter.sources.blocks id ids ∧ ids.Nodup ∧
      Emitter.emitEach headOnly ids emitter scope =
        ⟨.ok texts, (emitter.emit scope id level ⟨headOnly, true⟩).scope,
          (emitter.emit scope id level ⟨headOnly, true⟩).emitter⟩ ∧
      text = Layout.indent level (Layout.stack (texts.filter fun text => !text.isEmpty)) := by
  obtain ⟨after, hrun, -⟩ := Emitter.run_eq_ok h
  rw [Emitter.emit_of_ok hrun]
  have hnested : emitter.nested =
      emitAt emitter.sources (maxNesting - emitter.depth) emitter.entered := rfl
  rw [hnested] at hrun
  -- without a level left nothing is written
  cases hroom : maxNesting - emitter.depth with
  | zero =>
    rw [hroom] at hrun
    cases hrun
  | succ room =>
    rw [hroom] at hrun hnested
    unfold emitAt at hrun
    obtain ⟨lines, finish, hlines, hrun⟩ := exists_of_bind_eq_ok hrun
    cases hrun
    obtain ⟨ids, texts, hchain, hdistinct, -, heach, rfl⟩ :=
      renderChain_eq_renderEach (List.Subset.refl emitter.entered) hlines
    rw [← hnested] at heach
    exact ⟨ids, texts, hchain, hdistinct, emitEach_of_renderEach heach, rfl⟩

/-- Two assignments with a call of the logging helper between them. -/
def loggedTally : Emitter :=
  .new .empty (Dict.ofList
    [("first", { tallyBlock "first" "1" with next := some "log" }),
      ("log", ⟨"log", "procedures_call", some "second", Dict.ofList [], Dict.ofList [], false,
        false, some ⟨some loggingProccode, none, none, false⟩⟩),
      ("second", tallyBlock "second" "2")])

/-- The call leaves no line, not even an empty one. -/
theorem loggedTally_is_sequence :
    (loggedTally.emit (.new false) "first" 1 .chain).result =
      .ok "\tvar score = 1\n\tscore = 2" ∧
    ∃ ids texts, NextChain loggedTally.sources.blocks "first" ids ∧ ids.Nodup ∧
      (Emitter.emitEach false ids loggedTally (.new false)).result = .ok texts ∧
      "\tvar score = 1\n\tscore = 2" =
        Layout.indent 1 (Layout.stack (texts.filter fun text => !text.isEmpty)) := by
  have hresult : (loggedTally.emit (.new false) "first" 1 .chain).result =
      .ok "\tvar score = 1\n\tscore = 2" := by
    decide +kernel
  obtain ⟨ids, texts, hchain, hdistinct, heach, htext⟩ := chain_is_sequence hresult
  refine ⟨hresult, ids, texts, hchain, hdistinct, ?_, htext⟩
  rw [heach]

end BlockScribe
