import BlockScribe.Proofs.Emission.Frame
import Mathlib.Data.List.Lex

/-! # When a script can be written, and what stops it otherwise

The links that a rendering follows span a tree: a block's children are the blocks in the slots and
sockets of its form and, where the mode goes on, its next block. A node of the tree is a `Place`,
and it is found by its address, the child indices on the way down from the root. Depth-first
order is the lexicographic order of addresses.

* `Place.pathTo`: the places from a node up to the root.
* `offence?`: what is wrong with the last place of a path, the nesting before the missing block
  before the repeated one.
* `Clean` and `Fails`: no place below a path offends; the first one that does has a given fault.
* `scans_emitAt`: a run of the emitter ends well only on a clean tree, and stops only with the
  fault of the first offending place. One lemma for each part of a rendering lists the links that
  the part follows, in order.
* `emit_new_succeeds_iff_and_reports_first`: both for an emitter that has not written anything.
-/

namespace BlockScribe

/-! ## The tree of places -/

/-- A node of the tree that is written from a block: its id, what is written of it, and how many
inputs and bodies are around it. -/
structure Place where
  id : String
  mode : Mode
  nesting : Nat
deriving DecidableEq, Repr

namespace Place

/-- The places that the given slots of a block link to, in order. -/
def linked (block : Block) (mode : Mode) (nesting : Nat) (slots : List String) : List Place :=
  (slots.filterMap block.inputBlock?).map fun id => ⟨id, mode, nesting⟩

theorem linked_cons (block : Block) (mode : Mode) (nesting : Nat) (slot : String)
    (rest : List String) :
    linked block mode nesting (slot :: rest) =
      linked block mode nesting [slot] ++ linked block mode nesting rest := by
  simp only [linked, ← List.map_append, ← List.filterMap_append, List.singleton_append]

/-- The places inside a block: its arguments, then its bodies. -/
def inside (sources : Sources) (scope : Scope) (place : Place) (block : Block) : List Place :=
  let form := block.form sources.table scope place.mode.headOnly
  linked block .value (place.nesting + 1) form.slots ++
    linked block .chain (place.nesting + 1) form.sockets

/-- The children of a place: what is inside its block, then the block behind it. -/
def children (sources : Sources) (scope : Scope) (place : Place) : List Place :=
  match sources.blocks.get? place.id with
  | none => []
  | some block =>
    place.inside sources scope block ++
      (block.successor? place.mode.followNext).toList.map fun id =>
        ⟨id, place.mode, place.nesting⟩

/-- The path from the node at an address up to the root and what is above it. The address lists
the child indices on the way down. -/
def pathTo (sources : Sources) (scope : Scope) (above : List Place) (place : Place) :
    (address : List Nat) → Option (List Place)
  | [] => some (place :: above)
  | i :: rest =>
    (place.children sources scope)[i]?.bind fun child =>
      pathTo sources scope (place :: above) child rest

end Place

/-- What is wrong with the last place of a path, which stands first in the list. -/
def offence? (blocks : Dict String Block) : (path : List Place) → Option BlockFault
  | [] => none
  | place :: above =>
    if maxNesting ≤ place.nesting then some (.tooDeep place.id)
    else if blocks.get? place.id = none then some (.missing place.id)
    else if place.id ∈ above.map Place.id then some (.cyclic place.id)
    else none

/-- A path whose places are all known, all different and not nested too deeply. -/
structure WithinLimits (blocks : Dict String Block) (path : List Place) : Prop where
  known : ∀ place ∈ path, blocks.contains place.id = true
  distinct : (path.map Place.id).Nodup
  shallow : ∀ place ∈ path, place.nesting < maxNesting

theorem offence?_eq_none_iff (blocks : Dict String Block) (place : Place) (above : List Place) :
    offence? blocks (place :: above) = none ↔
      place.nesting < maxNesting ∧ blocks.contains place.id = true ∧
        place.id ∉ above.map Place.id := by
  have hknown : blocks.contains place.id = true ↔ ¬ blocks.get? place.id = none := by
    rw [Dict.get?_eq_none_iff, Dict.contains_iff, not_not]
  rw [hknown]
  simp only [offence?]
  -- the three checks in their order, each the negation of one condition
  split_ifs with hdeep hmissing hcyclic
  · simp only [false_iff]
    intro h
    omega
  · simp only [false_iff]
    intro h
    exact h.2.1 hmissing
  · simp only [false_iff]
    intro h
    exact h.2.2 hcyclic
  · simp only [true_iff]
    exact ⟨by omega, hmissing, hcyclic⟩

theorem withinLimits_cons_iff (blocks : Dict String Block) (place : Place)
    (above : List Place) :
    WithinLimits blocks (place :: above) ↔
      offence? blocks (place :: above) = none ∧ WithinLimits blocks above := by
  rw [offence?_eq_none_iff]
  constructor
  · intro h
    -- what holds of the whole path holds of its first place and of the path above
    have hdistinct := h.distinct
    rw [List.map_cons, List.nodup_cons] at hdistinct
    refine ⟨⟨h.shallow place (by simp), h.known place (by simp), hdistinct.1⟩, ?_⟩
    exact ⟨fun p hp => h.known p (by simp [hp]), hdistinct.2,
      fun p hp => h.shallow p (by simp [hp])⟩
  · rintro ⟨⟨hshallow, hknown, hnew⟩, habove⟩
    -- and back: each of the three is a check of the first place and the same of the others
    refine ⟨?_, ?_, ?_⟩
    · intro p hp
      rcases List.mem_cons.1 hp with rfl | hp
      · exact hknown
      · exact habove.known p hp
    · rw [List.map_cons, List.nodup_cons]
      exact ⟨hnew, habove.distinct⟩
    · intro p hp
      rcases List.mem_cons.1 hp with rfl | hp
      · exact hshallow
      · exact habove.shallow p hp

section Tree

variable {sources : Sources} {scope : Scope}

/-- If no node offends, every path from the root is within the limits. -/
theorem withinLimits_of_no_offence {above : List Place} {place : Place} {address : List Nat}
    {path : List Place} (habove : WithinLimits sources.blocks above)
    (hnone : ∀ address path, place.pathTo sources scope above address = some path →
      offence? sources.blocks path = none)
    (hpath : place.pathTo sources scope above address = some path) :
    WithinLimits sources.blocks path := by
  induction address generalizing above place with
  | nil =>
    cases hpath
    rw [withinLimits_cons_iff]
    exact ⟨hnone [] _ rfl, habove⟩
  | cons i rest ih =>
    rcases Option.bind_eq_some_iff.1 hpath with ⟨child, hchild, hrest⟩
    -- the place itself offends nothing, so it may stand above its child
    have hhere : WithinLimits sources.blocks (place :: above) := by
      rw [withinLimits_cons_iff]
      exact ⟨hnone [] _ rfl, habove⟩
    refine ih hhere (fun inner path' hinner => ?_) hrest
    -- an address below the child is an address below the place
    exact hnone (i :: inner) path' (Option.bind_eq_some_iff.2 ⟨child, hchild, hinner⟩)

/-- A path within the limits does not offend. -/
theorem offence?_of_withinLimits {path : List Place} (h : WithinLimits sources.blocks path) :
    offence? sources.blocks path = none := by
  cases path with
  | nil => rfl
  | cons place above => exact ((withinLimits_cons_iff _ _ _).1 h).1

/-! ## Clean trees and first faults -/

/-- Neither the last place of a path nor any place below it offends. -/
inductive Clean (sources : Sources) (scope : Scope) : List Place → Prop
  | intro {place : Place} {above : List Place}
    (hhere : offence? sources.blocks (place :: above) = none)
    (hbelow : ∀ child ∈ place.children sources scope,
      Clean sources scope (child :: place :: above)) :
    Clean sources scope (place :: above)

/-- Of the last place of a path and those below it, the first to offend has the given fault. -/
inductive Fails (sources : Sources) (scope : Scope) : List Place → BlockFault → Prop
  | here {place : Place} {above : List Place} {fault : BlockFault}
    (hhere : offence? sources.blocks (place :: above) = some fault) :
    Fails sources scope (place :: above) fault
  | deeper {place child : Place} {above before after : List Place} {fault : BlockFault}
    (hhere : offence? sources.blocks (place :: above) = none)
    (hchildren : place.children sources scope = before ++ child :: after)
    (hbefore : ∀ earlier ∈ before, Clean sources scope (earlier :: place :: above))
    (hchild : Fails sources scope (child :: place :: above) fault) :
    Fails sources scope (place :: above) fault

/-- Some node at or below a place offends with the given fault, and no node before it in
depth-first order offends. -/
def FirstOffence (sources : Sources) (scope : Scope) (above : List Place) (place : Place)
    (fault : BlockFault) : Prop :=
  ∃ address path, place.pathTo sources scope above address = some path ∧
    offence? sources.blocks path = some fault ∧
    ∀ earlier < address, ∀ path', place.pathTo sources scope above earlier = some path' →
      offence? sources.blocks path' = none

/-- A tree has one first fault at most. -/
theorem FirstOffence.unique {above : List Place} {place : Place} {fault fault' : BlockFault}
    (h : FirstOffence sources scope above place fault)
    (h' : FirstOffence sources scope above place fault') : fault = fault' := by
  rcases h with ⟨address, path, hpath, hoffence, hleast⟩
  rcases h' with ⟨address', path', hpath', hoffence', hleast'⟩
  -- of two different addresses the greater one would not be the first
  rcases lt_trichotomy address address' with hlt | rfl | hlt
  · have hnone := hleast' address hlt path hpath
    rw [hoffence] at hnone
    cases hnone
  · rw [hpath] at hpath'
    cases hpath'
    rw [hoffence] at hoffence'
    exact Option.some.inj hoffence'
  · have hnone := hleast address' hlt path' hpath'
    rw [hoffence'] at hnone
    cases hnone

theorem Clean.offence?_pathTo {above : List Place} {place : Place}
    (h : Clean sources scope (place :: above)) {address : List Nat} {path : List Place}
    (hpath : place.pathTo sources scope above address = some path) :
    offence? sources.blocks path = none := by
  induction address generalizing above place with
  | nil =>
    cases hpath
    cases h with
    | intro hhere _ => exact hhere
  | cons i rest ih =>
    rcases Option.bind_eq_some_iff.1 hpath with ⟨child, hchild, hrest⟩
    cases h with
    -- the address goes on inside a child, which is clean as well
    | intro _ hbelow => exact ih (hbelow child (List.mem_of_getElem? hchild)) hrest

/-- The first fault of a tree is that of the offending node with the least address. -/
theorem Fails.firstOffence {above : List Place} {place : Place} {fault : BlockFault}
    (h : Fails sources scope (place :: above) fault) :
    FirstOffence sources scope above place fault := by
  generalize hroot : place :: above = root at h
  induction h generalizing place above with
  | here hhere =>
    rcases List.cons.inj hroot with ⟨rfl, rfl⟩
    exact ⟨[], _, rfl, hhere, fun earlier hlt => absurd hlt (List.not_lt_nil earlier)⟩
  | @deeper _ child _ before after fault hhere hchildren hbefore _ ih =>
    rcases List.cons.inj hroot with ⟨rfl, rfl⟩
    rcases ih rfl with ⟨address, path, hpath, hoffence, hleast⟩
    -- the child stands behind `before`, which is its index in the address
    have hget : (place.children sources scope)[before.length]? = some child := by
      simp [hchildren]
    refine ⟨before.length :: address, path, ?_, hoffence, ?_⟩
    · exact Option.bind_eq_some_iff.2 ⟨child, hget, hpath⟩
    · intro earlier hlt path' hpath'
      cases earlier with
      | nil =>
        cases hpath'
        exact hhere
      | cons i rest =>
        rcases Option.bind_eq_some_iff.1 hpath' with ⟨sibling, hsibling, hrest⟩
        rcases List.cons_lt_cons_iff.1 hlt with hi | ⟨rfl, hrest_lt⟩
        · -- an earlier sibling: its whole tree is clean
          have hmem : sibling ∈ before := by
            rw [hchildren, List.getElem?_append_left hi] at hsibling
            exact List.mem_of_getElem? hsibling
          exact (hbefore sibling hmem).offence?_pathTo hrest
        · have heq : sibling = child := by
            rw [hget] at hsibling
            exact (Option.some.inj hsibling).symm
          rw [heq] at hrest
          exact hleast rest hrest_lt path' hrest

end Tree

/-! ## Renderings follow their links in order -/

/-- Of the trees at `places`, all on the end of a path, the first that is not clean fails with
the given fault. -/
def FailsAmong (sources : Sources) (scope : Scope) (path places : List Place)
    (fault : BlockFault) : Prop :=
  ∃ before place after, places = before ++ place :: after ∧
    (∀ earlier ∈ before, Clean sources scope (earlier :: path)) ∧
    Fails sources scope (place :: path) fault

/-- A rendering that follows the links to `places`, one after the other, from inside `path`: it
ends well only if all their trees are clean, and stops only with the fault of the first that is
not. The procedures of the scope decide what is followed, so they are fixed. -/
def Scans {α : Type} (sources : Sources) (scope : Scope) (path places : List Place)
    (r : Render α) : Prop :=
  ∀ session, session.scope.procedures = scope.procedures →
    match r session with
    | .ok _ after => after.scope.procedures = scope.procedures ∧
      ∀ place ∈ places, Clean sources scope (place :: path)
    | .error failure _ => FailsAmong sources scope path places failure.fault

section Scans

variable {sources : Sources} {scope : Scope} {path : List Place} {α β : Type}

/-- A rendering that cannot stop and keeps the procedures follows no link. -/
theorem scans_of_run {r : Render α} (value : Session → α) (change : Session → Session)
    (hrun : ∀ session, r session = .ok (value session) (change session))
    (hchange : ∀ session, (change session).scope.procedures = session.scope.procedures) :
    Scans sources scope path [] r := by
  intro session hsession
  rw [hrun session]
  exact ⟨(hchange session).trans hsession, by simp⟩

theorem scans_pure (value : α) : Scans sources scope path [] (pure value) :=
  scans_of_run (fun _ => value) id (fun _ => rfl) fun _ => rfl

theorem scans_note (block : Block) (notice : Notice) :
    Scans sources scope path [] (Render.note block notice) :=
  scans_of_run (fun _ => ()) _ (fun session => note_run block notice session) fun _ => rfl

theorem scans_assign (field : Field) (declares : Bool) (value : String) :
    Scans sources scope path [] (assign field declares value) :=
  scans_of_run _ _ (fun session => assign_run field declares value session) fun session =>
    Scope.procedures_bind session.scope field.variableId field.value

/-- One after the other, two renderings follow the links of the first, then those of the
second. -/
theorem Scans.bind {places later : List Place} {r : Render α} {f : α → Render β}
    (hr : Scans sources scope path places r)
    (hf : ∀ value, Scans sources scope path later (f value)) :
    Scans sources scope path (places ++ later) (r >>= f) := by
  intro session hsession
  have hfirst := hr session hsession
  cases h : r session with
  | error failure between =>
    -- the links of the second part come later, so the first fault stays the first
    rw [h] at hfirst
    rw [bind_of_error h]
    rcases hfirst with ⟨before, place, after, heq, hbefore, hfails⟩
    exact ⟨before, place, after ++ later, by simp [heq], hbefore, hfails⟩
  | ok value between =>
    rw [h] at hfirst
    rw [bind_of_ok h]
    rcases hfirst with ⟨hbetween, hclean⟩
    have hsecond := hf value between hbetween
    cases h' : f value between with
    | error failure after =>
      -- all links of the first part are clean, so they stand before the fault
      rw [h'] at hsecond
      rcases hsecond with ⟨before, place, rest, heq, hbefore, hfails⟩
      refine ⟨places ++ before, place, rest, by simp [heq], ?_, hfails⟩
      intro earlier hearlier
      rcases List.mem_append.1 hearlier with hmem | hmem
      · exact hclean earlier hmem
      · exact hbefore earlier hmem
    | ok result after =>
      rw [h'] at hsecond
      refine ⟨hsecond.1, ?_⟩
      intro place hplace
      rcases List.mem_append.1 hplace with hmem | hmem
      · exact hclean place hmem
      · exact hsecond.2 place hmem

theorem Scans.map {places : List Place} {r : Render α} (hr : Scans sources scope path places r)
    (f : α → β) : Scans sources scope path places (f <$> r) := by
  have hpure : ∀ value, Scans sources scope path [] (pure (f value) : Render β) :=
    fun value => scans_pure (f value)
  have h := hr.bind hpure
  rwa [List.append_nil, ← map_eq_pure_bind] at h

/-- A rendering that looks at the session first. -/
theorem scans_get_bind {places : List Place} {f : Session → Render α}
    (hf : ∀ session, session.scope.procedures = scope.procedures →
      Scans sources scope path places (f session)) :
    Scans sources scope path places (get >>= f) :=
  fun session hsession => hf session hsession session hsession

/-- Behind a place that does not offend, following its children settles its whole tree. -/
theorem Scans.enter {place : Place} {r : Render α}
    (hhere : offence? sources.blocks (place :: path) = none)
    (hr : Scans sources scope (place :: path) (place.children sources scope) r) :
    Scans sources scope path [place] r := by
  intro session hsession
  have hrun := hr session hsession
  cases h : r session with
  | ok value after =>
    rw [h] at hrun
    refine ⟨hrun.1, ?_⟩
    intro other hother
    rw [List.mem_singleton.1 hother]
    exact .intro hhere hrun.2
  | error failure after =>
    rw [h] at hrun
    -- what fails below the place fails one place deeper, with the same children in front of it
    rcases hrun with ⟨before, child, later, heq, hbefore, hfails⟩
    exact ⟨[], place, [], rfl, by simp, .deeper hhere heq hbefore hfails⟩

/-- At a place that offends, the rendering stops with the fault of that place. -/
theorem scans_stop {place : Place} {fault : BlockFault}
    (hhere : offence? sources.blocks (place :: path) = some fault) (entered : List String) :
    Scans sources scope path [place] (Render.stop fault entered : Render α) :=
  fun _ _ => ⟨[], place, [], rfl, by simp, .here hhere⟩

theorem scans_renderLiteral (owner : Block) (literal : Literal) :
    Scans sources scope path [] (renderLiteral owner literal) := by
  refine scans_get_bind fun session _ => ?_
  cases literalText? session.scope literal with
  | some text => exact scans_pure _
  | none => exact (scans_note owner _).bind fun _ => scans_pure _

/-! The parts of a block follow the links in their slots and sockets, all at one nesting. -/

variable {nested : Nested} {nesting : Nat}
  (hnested : ∀ id level mode,
    Scans sources scope path [⟨id, mode, nesting⟩] (nested id level mode))
include hnested

theorem scans_renderSlot (block : Block) (slot : String) :
    Scans sources scope path (Place.linked block .value nesting [slot])
      (renderSlot nested block slot) := by
  unfold renderSlot
  -- only a block in an input is a link; a literal and a field are written at the place
  cases hinput : block.inputs.get? slot with
  | some input =>
    cases input with
    | literal content =>
      have hlinked : Place.linked block .value nesting [slot] = [] := by
        simp [Place.linked, Block.inputBlock?, hinput]
      rw [hlinked]
      exact scans_renderLiteral block content
    | block id =>
      have hlinked : Place.linked block .value nesting [slot] = [⟨id, .value, nesting⟩] := by
        simp [Place.linked, Block.inputBlock?, hinput]
      rw [hlinked]
      exact (hnested id 0 .value).map some
  | none =>
    have hlinked : Place.linked block .value nesting [slot] = [] := by
      simp [Place.linked, Block.inputBlock?, hinput]
    rw [hlinked]
    cases block.fields.get? slot with
    | some field => exact scans_get_bind fun _ _ => scans_pure _
    | none => exact scans_pure _

theorem scans_renderSlots (block : Block) (slots : List String) :
    Scans sources scope path (Place.linked block .value nesting slots)
      (renderSlots nested block slots) := by
  induction slots with
  | nil => exact scans_pure _
  | cons slot rest ih =>
    rw [Place.linked_cons]
    refine (scans_renderSlot hnested block slot).bind fun _ => ?_
    exact ih.map _

theorem scans_renderBodies (block : Block) (sockets : List String) :
    Scans sources scope path (Place.linked block .chain nesting sockets)
      (renderBodies nested block sockets) := by
  induction sockets with
  | nil => exact scans_pure _
  | cons socket rest ih =>
    rw [Place.linked_cons]
    unfold renderBodies
    cases hinput : block.inputBlock? socket with
    | some id =>
      have hlinked : Place.linked block .chain nesting [socket] = [⟨id, .chain, nesting⟩] := by
        simp [Place.linked, hinput]
      rw [hlinked]
      refine (hnested id 1 .chain).bind fun _ => ?_
      exact ih.map _
    | none =>
      have hlinked : Place.linked block .chain nesting [socket] = [] := by
        simp [Place.linked, hinput]
      rw [hlinked]
      refine (scans_pure "").bind fun _ => ?_
      exact ih.map _

/-- A block follows the links in the slots of its form, then those in its sockets. -/
theorem scans_renderForm (block : Block) (form : Form) :
    Scans sources scope path
      (Place.linked block .value nesting form.slots ++
        Place.linked block .chain nesting form.sockets)
      (renderForm nested block form) := by
  refine scans_get_bind fun before _ => ?_
  refine (scans_renderSlots hnested block form.slots).bind fun arguments => ?_
  -- only a construct has sockets, so the others are through with their links
  cases form with
  | branch slots sockets => exact (scans_renderBodies hnested block sockets).map _
  | assignment field => exact scans_assign field _ _
  | unknownCall proccode => exact (scans_note block _).bind fun _ => scans_pure _
  | namelessAssignment => exact (scans_note block _).bind fun _ => scans_pure _
  | unknown => exact (scans_note block _).bind fun _ => scans_pure _
  | comparison => exact scans_pure _
  | answer slot => exact scans_pure _
  | logging => exact scans_pure _
  | parameter raw => exact scans_pure _
  | choice value => exact scans_pure _
  | call name slots => exact scans_pure _

theorem scans_renderBlock (block : Block) (headOnly : Bool) :
    Scans sources scope path
      (Place.linked block .value nesting (block.form sources.table scope headOnly).slots ++
        Place.linked block .chain nesting (block.form sources.table scope headOnly).sockets)
      (renderBlock sources.table nested headOnly block) := by
  -- names may have been bound on the way, but the form looks at procedures only
  refine scans_get_bind fun session hsession => ?_
  rw [Block.form_congr sources.table headOnly block hsession]
  exact scans_renderForm hnested block _

end Scans

section Levels

variable {sources : Sources} {scope : Scope}

/-- A script follows what is inside its first block and then the rest of the script. -/
theorem scans_renderChain {single : List String → Block → Render String} {mode : Mode}
    {nesting : Nat} (hnesting : nesting < maxNesting)
    (hsingle : ∀ (path : List Place) (id : String) (block : Block),
      Scans sources scope (⟨id, mode, nesting⟩ :: path)
        (Place.inside sources scope ⟨id, mode, nesting⟩ block)
        (single (id :: path.map Place.id) block))
    (entered : List String) (id : String) (path : List Place)
    (hentered : entered = path.map Place.id) :
    Scans sources scope path [⟨id, mode, nesting⟩]
      (renderChain sources.blocks single mode.followNext entered id) := by
  -- the induction follows the script; the path grows with the blocks that are entered
  induction entered, id using renderChain.induct sources.blocks generalizing path with
  | case1 entered id hget =>
    rw [renderChain_of_missing hget]
    apply scans_stop
    simp [offence?, hget, Nat.not_le.2 hnesting]
  | case2 entered id block hget hmem =>
    rw [renderChain_of_entered hget hmem]
    apply scans_stop
    rw [hentered] at hmem
    simp [offence?, hget, Nat.not_le.2 hnesting, hmem]
  | case3 entered id block hget hnew ih =>
    rw [renderChain_of_new hget hnew]
    rw [hentered] at hnew
    have hhere : offence? sources.blocks (⟨id, mode, nesting⟩ :: path) = none := by
      simp [offence?, hget, Nat.not_le.2 hnesting, hnew]
    -- the block offends nothing: the place is entered, and its children are read off the block
    apply Scans.enter hhere
    have hchildren : Place.children sources scope ⟨id, mode, nesting⟩ =
        Place.inside sources scope ⟨id, mode, nesting⟩ block ++
          (block.successor? mode.followNext).toList.map fun next => ⟨next, mode, nesting⟩ := by
      simp [Place.children, hget]
    rw [hchildren, hentered]
    refine (hsingle path id block).bind fun text => ?_
    cases block.successor? mode.followNext with
    | none => exact scans_pure _
    | some next =>
      have hrest := ih next (⟨id, mode, nesting⟩ :: path) (by simp [hentered])
      rw [hentered] at hrest
      exact hrest.map _

/-- A run of the emitter follows the tree of its first place, at any level. -/
theorem scans_emitAt (room nesting : Nat) (hroom : room + nesting = maxNesting)
    (path : List Place) (id : String) (level : Nat) (mode : Mode) :
    Scans sources scope path [⟨id, mode, nesting⟩]
      (emitAt sources room (path.map Place.id) id level mode) := by
  induction room generalizing nesting path id level mode with
  | zero =>
    -- no level is left: the place itself is nested too deeply
    unfold emitAt
    apply scans_stop
    have hdeep : maxNesting ≤ nesting := by omega
    simp [offence?, hdeep]
  | succ room ih =>
    unfold emitAt
    refine Scans.map ?_ _
    refine scans_renderChain (by omega) (fun inner id block => ?_) _ id path rfl
    exact scans_renderBlock (ih (nesting + 1) (by omega) (⟨id, mode, nesting⟩ :: inner)) block
      mode.headOnly

end Levels

/-! ## A new emitter -/

theorem Emitter.result_run {α : Type} (emitter : Emitter) (scope : Scope) (render : Render α) :
    (emitter.run scope render).result =
      match render ⟨scope, emitter.diagnostics⟩ with
      | .ok value _ => .ok value
      | .error failure _ => .error failure.fault := by
  unfold Emitter.run EStateM.run
  cases render ⟨scope, emitter.diagnostics⟩ with
  | ok value session => rfl
  | error failure session => rfl

/-- A run from a new emitter ends well on a clean tree and else stops with its first fault. -/
theorem emit_new_result (table : SignatureTable) (blocks : Dict String Block) (scope : Scope)
    (id : String) (level : Nat) (mode : Mode) :
    (∃ text, ((Emitter.new table blocks).emit scope id level mode).result = .ok text ∧
      Clean ⟨table, blocks⟩ scope [⟨id, mode, 0⟩]) ∨
    (∃ fault, ((Emitter.new table blocks).emit scope id level mode).result = .error fault ∧
      FirstOffence ⟨table, blocks⟩ scope [] ⟨id, mode, 0⟩ fault) := by
  have hscan : Scans ⟨table, blocks⟩ scope [] [⟨id, mode, 0⟩]
      (emitAt ⟨table, blocks⟩ maxNesting [] id level mode) :=
    scans_emitAt maxNesting 0 rfl [] id level mode
  have hrun := hscan ⟨scope, (Emitter.new table blocks).diagnostics⟩ rfl
  have hresult := Emitter.result_run (Emitter.new table blocks) scope
    (emitAt ⟨table, blocks⟩ maxNesting [] id level mode)
  change ((Emitter.new table blocks).emit scope id level mode).result = _ at hresult
  rw [hresult]
  cases hemit : emitAt ⟨table, blocks⟩ maxNesting [] id level mode
    ⟨scope, (Emitter.new table blocks).diagnostics⟩ with
  | ok text after =>
    rw [hemit] at hrun
    exact Or.inl ⟨text, rfl, hrun.2 _ (by simp)⟩
  | error failure after =>
    rw [hemit] at hrun
    rcases hrun with ⟨before, place, later, heq, _, hfails⟩
    -- the only place of the root is the root
    have hplace : place = ⟨id, mode, 0⟩ := by
      have hmem : place ∈ [(⟨id, mode, 0⟩ : Place)] := by simp [heq]
      exact List.mem_singleton.1 hmem
    rw [hplace] at hfails
    exact Or.inr ⟨failure.fault, rfl, hfails.firstOffence⟩

/-- From a new emitter, a script is written exactly when every path of its tree from the root is
known, free of repetitions and nested fewer than 256 times. Otherwise the fault is that of the
first place, in depth-first order, that offends. -/
theorem emit_new_succeeds_iff_and_reports_first (table : SignatureTable)
    (blocks : Dict String Block) (scope : Scope) (id : String) (level : Nat) (mode : Mode) :
    let sources : Sources := ⟨table, blocks⟩
    let root : Place := ⟨id, mode, 0⟩
    let result := ((Emitter.new table blocks).emit scope id level mode).result
    ((∃ text, result = .ok text) ↔
      ∀ address path, root.pathTo sources scope [] address = some path →
        (∀ place ∈ path, blocks.contains place.id = true) ∧
        (path.map Place.id).Nodup ∧
        (∀ place ∈ path, place.nesting < 256)) ∧
    (∀ fault, result = .error fault ↔ FirstOffence sources scope [] root fault) := by
  intro sources root result
  rcases emit_new_result table blocks scope id level mode with
    ⟨text, hok, hclean⟩ | ⟨first, herror, hfirst⟩
  · change result = .ok text at hok
    have hnone : ∀ address path, root.pathTo sources scope [] address = some path →
        offence? sources.blocks path = none := fun _ _ hpath => hclean.offence?_pathTo hpath
    refine ⟨⟨fun _ address path hpath => ?_, fun _ => ⟨text, hok⟩⟩, fun fault => ⟨?_, ?_⟩⟩
    · -- nothing stands above the root, so its limits hold to begin with
      have hroot : WithinLimits sources.blocks [] := ⟨by simp, by simp, by simp⟩
      have hlimits := withinLimits_of_no_offence hroot hnone hpath
      exact ⟨hlimits.known, hlimits.distinct, hlimits.shallow⟩
    · intro herror
      rw [hok] at herror
      cases herror
    · rintro ⟨address, path, hpath, hoffence, _⟩
      rw [hnone address path hpath] at hoffence
      cases hoffence
  · change result = .error first at herror
    refine ⟨⟨?_, fun hall => ?_⟩, fun fault => ⟨?_, ?_⟩⟩
    · rintro ⟨text, hok⟩
      rw [herror] at hok
      cases hok
    · rcases hfirst with ⟨address, path, hpath, hoffence, _⟩
      rcases hall address path hpath with ⟨hknown, hdistinct, hshallow⟩
      have hlimits : WithinLimits sources.blocks path := ⟨hknown, hdistinct, hshallow⟩
      rw [offence?_of_withinLimits hlimits] at hoffence
      cases hoffence
    · intro hfault
      rw [herror] at hfault
      cases hfault
      exact hfirst
    · intro hfault
      -- there is only one first offence
      rw [hfault.unique hfirst]
      exact herror

end BlockScribe
