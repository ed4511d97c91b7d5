import BlockScribe.Proofs.Emission.Frame

/-! # What a rendering depends on

Two things that a rendering is handed do not matter to it as a whole.

* Of the blocks it looks at those only that the links lead to. `Reaches` follows the link to the
  next block and the links of the inputs, and two tables that agree on a set of ids closed under
  links give the same renderings of all ids in the set (`emitAt_congr`), one that stops included.
* Of the diagnostics it looks at none. `AddsNotes` says that a computation puts its own notes behind
  those that it finds and is otherwise the same whatever it finds (`addsNotes_emitAt`).
-/

namespace BlockScribe

/-! ## Links -/

/-- The block that an input links to. -/
def Input.link? : Input → Option String
  | .block id => some id
  | .literal _ => none

/-- The blocks that a block links to: the next one, and those in its inputs. -/
def Block.links (block : Block) : List String :=
  block.next.toList ++ block.inputs.values.filterMap Input.link?

theorem Block.mem_links_of_next {block : Block} {id : String} (h : block.next = some id) :
    id ∈ block.links := by
  refine List.mem_append_left _ ?_
  rw [h]
  exact List.mem_cons_self

theorem Block.mem_links_of_input {block : Block} {slot id : String}
    (h : block.inputs.get? slot = some (.block id)) : id ∈ block.links := by
  refine List.mem_append_right _ ?_
  exact List.mem_filterMap.2 ⟨.block id, Dict.mem_values_of_get? h, rfl⟩

theorem Block.inputBlock?_eq_some {block : Block} {slot id : String}
    (h : block.inputBlock? slot = some id) : block.inputs.get? slot = some (.block id) := by
  unfold Block.inputBlock? at h
  split at h
  · rename_i found hget
    cases h
    exact hget
  · cases h

/-- A block has a link to another one. -/
def LinksTo (blocks : Dict String Block) (id other : String) : Prop :=
  ∃ block, blocks.get? id = some block ∧ other ∈ block.links

/-- The links lead from one block to another one, in any number of steps. -/
def Reaches (blocks : Dict String Block) : String → String → Prop :=
  Relation.ReflTransGen (LinksTo blocks)

/-- No link leads out of a set of ids. -/
def ClosedUnderLinks (blocks : Dict String Block) (kept : Set String) : Prop :=
  ∀ id ∈ kept, ∀ other, LinksTo blocks id other → other ∈ kept

theorem ClosedUnderLinks.mem_of_reaches {blocks : Dict String Block} {kept : Set String}
    (hclosed : ClosedUnderLinks blocks kept) {id other : String} (hid : id ∈ kept)
    (h : Reaches blocks id other) : other ∈ kept := by
  induction h with
  | refl => exact hid
  | tail _ hlink ih => exact hclosed _ ih _ hlink

/-- Whether a set is closed can be read off the entries of the table. -/
theorem closedUnderLinks_of_entries {blocks : Dict String Block} {kept : Set String}
    (h : ∀ entry ∈ blocks.entries, entry.1 ∈ kept → ∀ other ∈ entry.2.links, other ∈ kept) :
    ClosedUnderLinks blocks kept := by
  rintro id hid other ⟨block, hget, hlink⟩
  exact h (id, block) (Dict.mem_entries_of_get? hget) hid other hlink

/-- The ids that are reached from a set of ids, those of the set included. -/
def reachedFrom (blocks : Dict String Block) (starts : Set String) : Set String :=
  { id | ∃ start ∈ starts, Reaches blocks start id }

theorem subset_reachedFrom (blocks : Dict String Block) (starts : Set String) :
    starts ⊆ reachedFrom blocks starts :=
  fun start hstart => ⟨start, hstart, .refl⟩

theorem links_subset_reachedFrom {blocks : Dict String Block} {starts : Set String}
    {start : String} {block : Block} (hstart : start ∈ starts)
    (hget : blocks.get? start = some block) :
    ∀ id ∈ block.links, id ∈ reachedFrom blocks starts :=
  fun _ hid => ⟨start, hstart, .single ⟨block, hget, hid⟩⟩

theorem closedUnderLinks_reachedFrom (blocks : Dict String Block) (starts : Set String) :
    ClosedUnderLinks blocks (reachedFrom blocks starts) := by
  rintro id ⟨start, hstart, hreaches⟩ other hlink
  exact ⟨start, hstart, hreaches.tail hlink⟩

/-- What lies outside of a closed set around the starts is not reached. -/
theorem ClosedUnderLinks.not_mem_reachedFrom {blocks : Dict String Block} {kept : Set String}
    (hclosed : ClosedUnderLinks blocks kept) {starts : Set String} (hstarts : starts ⊆ kept)
    {id : String} (hid : id ∉ kept) : id ∉ reachedFrom blocks starts := by
  rintro ⟨start, hstart, hreaches⟩
  exact hid (hclosed.mem_of_reaches (hstarts hstart) hreaches)

/-! ## Only linked blocks are looked at -/

section Nested

variable {nested nested' : Nested} {kept : Set String}
  (hnested : ∀ id ∈ kept, nested' id = nested id)
include hnested

theorem renderInput_congr (owner : Block) {input : Input}
    (hinput : ∀ id, input = .block id → id ∈ kept) :
    renderInput nested' owner input = renderInput nested owner input := by
  cases input with
  | literal content => rfl
  | block id =>
    unfold renderInput
    dsimp only
    rw [hnested id (hinput id rfl)]

variable {block : Block} (hlinks : ∀ id ∈ block.links, id ∈ kept)
include hlinks

theorem renderSlot_congr (slot : String) :
    renderSlot nested' block slot = renderSlot nested block slot := by
  unfold renderSlot
  cases hinput : block.inputs.get? slot with
  | none => rfl
  | some input =>
    refine renderInput_congr hnested block fun id hid => ?_
    rw [hid] at hinput
    exact hlinks id (Block.mem_links_of_input hinput)

theorem renderSlots_congr (slots : List String) :
    renderSlots nested' block slots = renderSlots nested block slots := by
  induction slots with
  | nil => rfl
  | cons slot rest ih =>
    unfold renderSlots
    rw [renderSlot_congr hnested hlinks slot, ih]

theorem renderCall_congr (name : String) (slots : List String) :
    renderCall nested' block name slots = renderCall nested block name slots := by
  unfold renderCall
  rw [renderSlots_congr hnested hlinks slots]

theorem renderBodies_congr (sockets : List String) :
    renderBodies nested' block sockets = renderBodies nested block sockets := by
  induction sockets with
  | nil => rfl
  | cons socket rest ih =>
    unfold renderBodies
    rw [ih]
    cases hbody : block.inputBlock? socket with
    | none => rfl
    | some id =>
      -- a socket with a block is a link, so both ways to write agree on it
      have hmem : id ∈ block.links :=
        Block.mem_links_of_input (Block.inputBlock?_eq_some hbody)
      dsimp only
      rw [hnested id (hlinks id hmem)]

theorem renderForm_congr (form : Form) :
    renderForm nested' block form = renderForm nested block form := by
  unfold renderForm
  rw [renderSlots_congr hnested hlinks form.slots]
  cases form with
  | branch slots sockets =>
    dsimp only
    rw [renderBodies_congr hnested hlinks sockets]
  | _ => rfl

theorem renderBlock_congr (table : SignatureTable) (headOnly : Bool) :
    renderBlock table nested' headOnly block = renderBlock table nested headOnly block := by
  unfold renderBlock
  refine bind_congr fun session => ?_
  exact renderForm_congr hnested hlinks _

end Nested

/-- Two tables have the same blocks in a set of ids that no link leaves. -/
structure AgreeOn (kept : Set String) (blocks blocks' : Dict String Block) : Prop where
  closed : ClosedUnderLinks blocks kept
  get?_eq : ∀ id ∈ kept, blocks'.get? id = blocks.get? id

theorem AgreeOn.links_mem {kept : Set String} {blocks blocks' : Dict String Block}
    (h : AgreeOn kept blocks blocks') {id : String} {block : Block} (hid : id ∈ kept)
    (hget : blocks.get? id = some block) : ∀ other ∈ block.links, other ∈ kept :=
  fun other hother => h.closed id hid other ⟨block, hget, hother⟩

section Agree

variable {kept : Set String} {blocks blocks' : Dict String Block}
  (hagree : AgreeOn kept blocks blocks')
include hagree

theorem renderChain_congr {single single' : List String → Block → Render String}
    (hsingle : ∀ entered, ∀ id ∈ kept, ∀ block, blocks.get? id = some block →
      single' entered block = single entered block)
    (followNext : Bool) (entered : List String) {id : String} (hid : id ∈ kept) :
    renderChain blocks' single' followNext entered id =
      renderChain blocks single followNext entered id := by
  -- the first table gives the induction; the second one follows it step by step
  induction entered, id using renderChain.induct blocks with
  | case1 entered id hget =>
    have hget' : blocks'.get? id = none := (hagree.get?_eq id hid).trans hget
    rw [renderChain_of_missing hget, renderChain_of_missing hget']
  | case2 entered id block hget hmem =>
    have hget' : blocks'.get? id = some block := (hagree.get?_eq id hid).trans hget
    rw [renderChain_of_entered hget hmem, renderChain_of_entered hget' hmem]
  | case3 entered id block hget hnew ih =>
    have hget' : blocks'.get? id = some block := (hagree.get?_eq id hid).trans hget
    rw [renderChain_of_new hget hnew, renderChain_of_new hget' hnew,
      hsingle (id :: entered) id hid block hget]
    refine bind_congr fun text => ?_
    cases hnext : block.successor? followNext with
    | none => rfl
    | some next =>
      have hlink : next ∈ block.links := by
        unfold Block.successor? at hnext
        split at hnext
        · exact Block.mem_links_of_next hnext
        · cases hnext
      have hrest := ih next (hagree.links_mem hid hget next hlink)
      dsimp only
      rw [hrest]

/-- An id that stays in the set is written the same with both tables. -/
theorem emitAt_congr (table : SignatureTable) (room : Nat) (entered : List String) {id : String}
    (hid : id ∈ kept) :
    emitAt ⟨table, blocks'⟩ room entered id = emitAt ⟨table, blocks⟩ room entered id := by
  induction room generalizing entered id with
  | zero => rfl
  | succ room ih =>
    funext level mode
    unfold emitAt
    dsimp only
    -- the level below is the same for all that the blocks of this level link to
    rw [renderChain_congr hagree (fun inner key hkey block hget => ?_) mode.followNext entered hid]
    exact renderBlock_congr (fun other hother => ih inner hother) (hagree.links_mem hkey hget)
      table mode.headOnly

end Agree

/-! ## Diagnostics are added, not looked at -/

/-- The session with diagnostics that were noted before all others. -/
def Session.behind (earlier : List Diagnostic) (session : Session) : Session :=
  { session with diagnostics := earlier ++ session.diagnostics }

section AddsNotes

variable {ε α β : Type}

/-- The outcome of a computation, with diagnostics that were noted before it. -/
def outcomeBehind (earlier : List Diagnostic) :
    EStateM.Result ε Session α → EStateM.Result ε Session α
  | .ok value after => .ok value (after.behind earlier)
  | .error failure after => .error failure (after.behind earlier)

/-- A computation that adds its notes to those that are there and does not look at them. -/
def AddsNotes (r : EStateM ε Session α) : Prop :=
  ∀ earlier session, r (session.behind earlier) = outcomeBehind earlier (r session)

theorem AddsNotes.of_ok {r : EStateM ε Session α} (hr : AddsNotes r) {session after : Session}
    {value : α} (h : r session = .ok value after) (earlier : List Diagnostic) :
    r (session.behind earlier) = .ok value (after.behind earlier) := by
  rw [hr earlier session, h]
  rfl

theorem AddsNotes.of_error {r : EStateM ε Session α} (hr : AddsNotes r)
    {session after : Session} {failure : ε} (h : r session = .error failure after)
    (earlier : List Diagnostic) :
    r (session.behind earlier) = .error failure (after.behind earlier) := by
  rw [hr earlier session, h]
  rfl

/-- From another session with the same scope, a computation ends with the same value and scope. -/
theorem AddsNotes.rerun {r : EStateM ε Session α} (hr : AddsNotes r)
    {session after other : Session} {value : α} (h : r session = .ok value after)
    (hscope : other.scope = session.scope) :
    ∃ finish, r other = .ok value finish ∧ finish.scope = after.scope := by
  -- both sessions are the one without diagnostics, behind what they hold
  have hsession : (⟨session.scope, []⟩ : Session).behind session.diagnostics = session := by
    simp [Session.behind]
  have hother : (⟨session.scope, []⟩ : Session).behind other.diagnostics = other := by
    rw [← hscope]
    simp [Session.behind]
  cases hbare : r ⟨session.scope, []⟩ with
  | error failure finish =>
    have herror := hr.of_error hbare session.diagnostics
    rw [hsession, h] at herror
    cases herror
  | ok found finish =>
    have hok := hr.of_ok hbare session.diagnostics
    rw [hsession, h] at hok
    cases hok
    have hrerun := hr.of_ok hbare other.diagnostics
    rw [hother] at hrerun
    exact ⟨_, hrerun, rfl⟩

theorem addsNotes_pure (value : α) : AddsNotes (pure value : EStateM ε Session α) :=
  fun _ _ => rfl

theorem addsNotes_throw (failure : ε) : AddsNotes (throw failure : EStateM ε Session α) :=
  fun _ _ => rfl

theorem AddsNotes.bind {r : EStateM ε Session α} {f : α → EStateM ε Session β}
    (hr : AddsNotes r) (hf : ∀ value, AddsNotes (f value)) : AddsNotes (r >>= f) := by
  intro earlier session
  cases h : r session with
  | ok value between =>
    rw [bind_of_ok h, bind_of_ok (hr.of_ok h earlier)]
    exact hf value earlier between
  | error failure between =>
    rw [bind_of_error h, bind_of_error (hr.of_error h earlier)]
    rfl

theorem AddsNotes.map {r : EStateM ε Session α} (hr : AddsNotes r) (f : α → β) :
    AddsNotes (f <$> r) := by
  rw [map_eq_pure_bind]
  exact hr.bind fun value => addsNotes_pure (f value)

/-- What goes on with the scope alone does not look at the diagnostics. -/
theorem addsNotes_get_bind {f : Session → EStateM ε Session β}
    (hscope : ∀ earlier session, f (session.behind earlier) = f session)
    (hf : ∀ session, AddsNotes (f session)) :
    AddsNotes ((get : EStateM ε Session Session) >>= f) := by
  intro earlier session
  have hrun : ∀ start : Session,
      ((get : EStateM ε Session Session) >>= f) start = f start start := fun _ => rfl
  rw [hrun, hrun, hscope]
  exact hf session earlier session

end AddsNotes

theorem addsNotes_note (block : Block) (notice : Notice) :
    AddsNotes (Render.note block notice) := by
  intro earlier session
  rw [note_run, note_run]
  simp [Session.behind, outcomeBehind]

theorem addsNotes_assign (field : Field) (declares : Bool) (value : String) :
    AddsNotes (assign field declares value) :=
  fun _ _ => rfl

theorem addsNotes_renderLiteral (owner : Block) (literal : Literal) :
    AddsNotes (renderLiteral owner literal) := by
  unfold renderLiteral
  refine addsNotes_get_bind (fun _ _ => rfl) fun session => ?_
  cases literalText? session.scope literal with
  | some text => exact addsNotes_pure _
  | none => exact (addsNotes_note owner _).bind fun _ => addsNotes_pure _

section Parts

variable {nested : Nested} (hnested : ∀ id level mode, AddsNotes (nested id level mode))
include hnested

theorem addsNotes_renderInput (owner : Block) (input : Input) :
    AddsNotes (renderInput nested owner input) := by
  cases input with
  | literal content => exact addsNotes_renderLiteral owner content
  | block id => exact (hnested id 0 .value).map some

theorem addsNotes_renderSlot (block : Block) (slot : String) :
    AddsNotes (renderSlot nested block slot) := by
  unfold renderSlot
  cases block.inputs.get? slot with
  | some input => exact addsNotes_renderInput hnested block input
  | none =>
    cases block.fields.get? slot with
    | some field => exact addsNotes_get_bind (fun _ _ => rfl) fun _ => addsNotes_pure _
    | none => exact addsNotes_pure _

theorem addsNotes_renderSlots (block : Block) (slots : List String) :
    AddsNotes (renderSlots nested block slots) := by
  induction slots with
  | nil => exact addsNotes_pure _
  | cons slot rest ih =>
    unfold renderSlots
    refine (addsNotes_renderSlot hnested block slot).bind fun _ => ?_
    exact ih.bind fun _ => addsNotes_pure _

theorem addsNotes_renderCall (block : Block) (name : String) (slots : List String) :
    AddsNotes (renderCall nested block name slots) :=
  (addsNotes_renderSlots hnested block slots).map _

theorem addsNotes_renderBodies (block : Block) (sockets : List String) :
    AddsNotes (renderBodies nested block sockets) := by
  induction sockets with
  | nil => exact addsNotes_pure _
  | cons socket rest ih =>
    unfold renderBodies
    cases block.inputBlock? socket with
    | some id =>
      refine (hnested id 1 .chain).bind fun _ => ?_
      exact ih.bind fun _ => addsNotes_pure _
    | none =>
      refine (addsNotes_pure "").bind fun _ => ?_
      exact ih.bind fun _ => addsNotes_pure _

theorem addsNotes_renderForm (block : Block) (form : Form) :
    AddsNotes (renderForm nested block form) := by
  unfold renderForm
  -- of the session at the start only the scope is kept for later
  refine addsNotes_get_bind (fun _ _ => rfl) fun before => ?_
  refine (addsNotes_renderSlots hnested block form.slots).bind fun arguments => ?_
  cases form with
  | assignment field => exact addsNotes_assign field _ _
  | branch slots sockets =>
    exact (addsNotes_renderBodies hnested block sockets).bind fun _ => addsNotes_pure _
  | unknownCall proccode => exact (addsNotes_note block _).bind fun _ => addsNotes_pure _
  | namelessAssignment => exact (addsNotes_note block _).bind fun _ => addsNotes_pure _
  | unknown => exact (addsNotes_note block _).bind fun _ => addsNotes_pure _
  | _ => exact addsNotes_pure _

theorem addsNotes_renderBlock (table : SignatureTable) (headOnly : Bool) (block : Block) :
    AddsNotes (renderBlock table nested headOnly block) := by
  unfold renderBlock
  refine addsNotes_get_bind (fun _ _ => rfl) fun session => ?_
  exact addsNotes_renderForm hnested block _

end Parts

theorem addsNotes_renderChain {blocks : Dict String Block}
    {single : List String → Block → Render String}
    (hsingle : ∀ entered block, AddsNotes (single entered block)) (followNext : Bool)
    (entered : List String) (id : String) :
    AddsNotes (renderChain blocks single followNext entered id) := by
  induction entered, id using renderChain.induct blocks with
  | case1 entered id hget =>
    rw [renderChain_of_missing hget]
    exact addsNotes_throw _
  | case2 entered id block hget hmem =>
    rw [renderChain_of_entered hget hmem]
    exact addsNotes_throw _
  | case3 entered id block hget hnew ih =>
    -- a missing or cyclic block stops at once; here the block is written and the script goes on
    rw [renderChain_of_new hget hnew]
    refine (hsingle (id :: entered) block).bind fun text => ?_
    cases block.successor? followNext with
    | some next => exact (ih next).bind fun _ => addsNotes_pure _
    | none => exact (addsNotes_pure _).bind fun _ => addsNotes_pure _

/-- Whatever was noted before, a script is written the same, and its notes come behind. -/
theorem addsNotes_emitAt (sources : Sources) (room : Nat) (entered : List String) (id : String)
    (level : Nat) (mode : Mode) : AddsNotes (emitAt sources room entered id level mode) := by
  induction room generalizing entered id level mode with
  | zero => exact addsNotes_throw _
  | succ room ih =>
    unfold emitAt
    refine AddsNotes.bind ?_ fun _ => addsNotes_pure _
    refine addsNotes_renderChain (fun inner block => ?_) mode.followNext entered id
    exact addsNotes_renderBlock (ih inner) sources.table mode.headOnly block

end BlockScribe
