import BlockScribe.Proofs.Target.Calls
import Mathlib.Data.List.Induction

/-! # What the registration of procedures leaves behind

The definitions of a target are read one after the other. Each of them is either the first with its
proccode and registered, or it repeats a proccode and is noted, and the first that cannot be read
ends the registration. `Registered` says what the definitions read so far have left behind, and it
is an invariant of the loop: it holds of all definitions when the registration ends well, and of
those in front of the failing one when it does not.

* `firstWith?`: the definition that a proccode belongs to.
* `Registered`: registrations, notes and bindings behind a list of definitions.
* `predeclare_registers_first_definitions`: when the registration ends well, and what it leaves.
-/

namespace BlockScribe

/-! ## The first definition of a proccode -/

/-- The proccode that a definition gives, if its prototype can be read. -/
def Block.definedProccode? (blocks : Dict String Block) (definition : Block) : Option String :=
  (Prototype.ofDefinition blocks definition).toOption.map Prototype.proccode

/-- The first definition of a list with a proccode. -/
def firstWith? (blocks : Dict String Block) (list : List Block) (proccode : String) :
    Option Block :=
  list.find? fun definition => definition.definedProccode? blocks == some proccode

/-- Whether a definition is the first of a list with its proccode. -/
def Block.isFirstIn (blocks : Dict String Block) (list : List Block) (definition : Block) : Bool :=
  match definition.definedProccode? blocks with
  | none => false
  | some proccode => (firstWith? blocks list proccode).any fun first => first.id == definition.id

/-- The note on a definition that repeats a proccode. -/
def Block.repetition (blocks : Dict String Block) (definition : Block) : Diagnostic :=
  ⟨some definition.id, .repeatedProcedure ((definition.definedProccode? blocks).getD "")⟩

section First

variable {blocks : Dict String Block} {list : List Block} {definition : Block} {proccode : String}

theorem definedProccode?_of_ok {prototype : Prototype}
    (h : Prototype.ofDefinition blocks definition = .ok prototype) :
    definition.definedProccode? blocks = some prototype.proccode := by
  unfold Block.definedProccode?
  rw [h]
  rfl

theorem definedProccode?_eq_some_iff :
    definition.definedProccode? blocks = some proccode ↔
      ∃ prototype, Prototype.ofDefinition blocks definition = .ok prototype ∧
        prototype.proccode = proccode := by
  unfold Block.definedProccode?
  cases Prototype.ofDefinition blocks definition with
  | error error => simp [Except.toOption]
  | ok prototype => simp [Except.toOption]

/-- What is found for a proccode is in the list and has the proccode. -/
theorem mem_of_firstWith? (h : firstWith? blocks list proccode = some definition) :
    definition ∈ list ∧ definition.definedProccode? blocks = some proccode :=
  ⟨List.mem_of_find?_eq_some h, by simpa using List.find?_some h⟩

theorem firstWith?_eq_none_iff :
    firstWith? blocks list proccode = none ↔
      ∀ definition ∈ list, definition.definedProccode? blocks ≠ some proccode := by
  simp [firstWith?]

/-- The first definition of a proccode, by the definitions in front of it. -/
theorem firstWith?_of_isFirstDefinition {prototype : Prototype}
    (h : IsFirstDefinition blocks list proccode definition prototype) :
    firstWith? blocks list proccode = some definition := by
  rcases h with ⟨earlier, later, hlist, hread, hproccode, hearlier⟩
  refine List.find?_eq_some_iff_append.2 ⟨?_, earlier, later, hlist, ?_⟩
  · rw [definedProccode?_of_ok hread, hproccode]
    exact beq_self_eq_true _
  · intro other hother
    have hne : other.definedProccode? blocks ≠ some proccode := by
      intro hsame
      rcases definedProccode?_eq_some_iff.1 hsame with ⟨found, hfound, heq⟩
      exact hearlier other hother found hfound heq
    simpa using hne

/-- With one id for each definition, a definition is the first of its proccode if and only if it is
what is found for some proccode. -/
theorem isFirstIn_iff (hids : (list.map Block.id).Nodup) (hmem : definition ∈ list) :
    definition.isFirstIn blocks list = true ↔
      ∃ proccode, firstWith? blocks list proccode = some definition := by
  unfold Block.isFirstIn
  constructor
  · intro h
    cases hproccode : definition.definedProccode? blocks with
    | none =>
      rw [hproccode] at h
      cases h
    | some own =>
      rw [hproccode] at h
      rcases (Option.any_eq_true _ _).1 h with ⟨first, hfirst, hid⟩
      -- ids are distinct, so the first one with the id of the definition is the definition
      have heq : first = definition :=
        List.inj_on_of_nodup_map hids (mem_of_firstWith? hfirst).1 hmem (beq_iff_eq.1 hid)
      exact ⟨own, heq ▸ hfirst⟩
  · rintro ⟨proccode, hfirst⟩
    rw [(mem_of_firstWith? hfirst).2]
    dsimp only
    rw [hfirst]
    exact beq_self_eq_true _

/-- A definition at the end does not matter to the definitions in front of it. -/
theorem isFirstIn_concat_of_mem (hmem : definition ∈ list) (last : Block) :
    definition.isFirstIn blocks (list ++ [last]) = definition.isFirstIn blocks list := by
  unfold Block.isFirstIn
  cases hproccode : definition.definedProccode? blocks with
  | none => rfl
  | some proccode =>
    have hsome : (firstWith? blocks list proccode).isSome = true := by
      refine List.find?_isSome.2 ⟨definition, hmem, ?_⟩
      rw [hproccode]
      exact beq_self_eq_true _
    dsimp only
    unfold firstWith? at hsome ⊢
    rw [List.find?_append, Option.or_of_isSome hsome]

/-- A definition at the end is the first if and only if none in front of it has its proccode. -/
theorem isFirstIn_concat_self (hids : ((list ++ [definition]).map Block.id).Nodup)
    (hproccode : definition.definedProccode? blocks = some proccode) :
    definition.isFirstIn blocks (list ++ [definition]) =
      (firstWith? blocks list proccode).isNone := by
  have hself : firstWith? blocks [definition] proccode = some definition := by
    simp [firstWith?, hproccode]
  have hfind : firstWith? blocks (list ++ [definition]) proccode =
      (firstWith? blocks list proccode).or (some definition) := by
    rw [← hself]
    exact List.find?_append
  unfold Block.isFirstIn
  rw [hproccode]
  dsimp only
  rw [hfind]
  cases hfirst : firstWith? blocks list proccode with
  | none => simp
  | some first =>
    -- the one in front has another id
    rw [List.map_append, List.map_singleton, List.nodup_append] at hids
    have hne : first.id ≠ definition.id :=
      hids.2.2 first.id (List.mem_map_of_mem (mem_of_firstWith? hfirst).1) definition.id
        (List.mem_singleton.2 rfl)
    simpa using hne

end First

/-! ## The loop -/

section Run

variable {blocks : Dict String Block} {list : List Block} {session after : Session}

/-- The last definition of a run finds what the others have left. -/
theorem predeclareAll_concat_eq_ok {last : Block}
    (h : predeclareAll blocks (list ++ [last]) session = .ok () after) :
    ∃ between prototype, predeclareAll blocks list session = .ok () between ∧
      Prototype.ofDefinition blocks last = .ok prototype ∧
      after = predeclared last prototype between := by
  rw [predeclareAll_append] at h
  rcases exists_of_bind_eq_ok h with ⟨_, between, hfront, hlast⟩
  rcases predeclareAll_cons_eq_ok hlast with ⟨prototype, hread, hnone⟩
  cases hnone
  exact ⟨between, prototype, hfront, hread, rfl⟩

/-- A run that fails ends at the first definition that cannot be read, with what the definitions in
front of it have left. -/
theorem predeclareAll_eq_error {error : Error}
    (h : predeclareAll blocks list session = .error error after) :
    ∃ earlier definition later, list = earlier ++ definition :: later ∧
      Prototype.ofDefinition blocks definition = .error error ∧
      predeclareAll blocks earlier session = .ok () after := by
  induction list generalizing session with
  | nil => cases h
  | cons first rest ih =>
    unfold predeclareAll at h
    -- the definition fails, or it is read and the failure is behind it
    cases hread : Prototype.ofDefinition blocks first with
    | error found =>
      rw [bind_of_error (predeclareOne_of_error hread session)] at h
      cases h
      exact ⟨[], first, rest, rfl, hread, rfl⟩
    | ok prototype =>
      rw [bind_of_ok (predeclareOne_of_ok hread session)] at h
      rcases ih h with ⟨earlier, definition, later, rfl, hfails, hrun⟩
      refine ⟨first :: earlier, definition, later, rfl, hfails, ?_⟩
      unfold predeclareAll
      rw [bind_of_ok (predeclareOne_of_ok hread session)]
      exact hrun

/-- A run that ends well has read all definitions. -/
theorem exists_prototype_of_predeclareAll (h : predeclareAll blocks list session = .ok () after) :
    ∀ definition ∈ list, ∃ prototype,
      Prototype.ofDefinition blocks definition = .ok prototype := by
  induction list generalizing session with
  | nil => exact List.forall_mem_nil _
  | cons first rest ih =>
    rcases predeclareAll_cons_eq_ok h with ⟨prototype, hread, hrest⟩
    exact List.forall_mem_cons.2 ⟨⟨prototype, hread⟩, ih hrest⟩

/-- A run ends well if and only if every definition can be read. -/
theorem exists_predeclareAll_eq_ok_iff (session : Session) :
    (∃ after, predeclareAll blocks list session = .ok () after) ↔
      ∀ definition ∈ list, ∃ prototype,
        Prototype.ofDefinition blocks definition = .ok prototype := by
  constructor
  · rintro ⟨after, h⟩
    exact exists_prototype_of_predeclareAll h
  · intro hall
    cases hrun : predeclareAll blocks list session with
    | ok _ after => exact ⟨after, rfl⟩
    | error error after =>
      rcases predeclareAll_eq_error hrun with ⟨earlier, definition, later, rfl, hfails, -⟩
      rcases hall definition (by simp) with ⟨prototype, hread⟩
      rw [hfails] at hread
      cases hread

/-- From a session without procedures, a proccode is registered if and only if some definition has
it, and then from the first of them. -/
theorem registered_of_firstWith? (h : predeclareAll blocks list session = .ok () after)
    (hstart : session.scope.procedures = .empty) (proccode : String) :
    (after.scope.procedure? proccode = none ∧ firstWith? blocks list proccode = none) ∨
    ∃ procedure definition prototype, after.scope.procedure? proccode = some procedure ∧
      firstWith? blocks list proccode = some definition ∧
      Prototype.ofDefinition blocks definition = .ok prototype ∧
      procedure.RegisteredFrom definition prototype := by
  -- nothing is registered at the start, so the first definition wins
  have hnew : session.scope.procedure? proccode = none := by
    unfold Scope.procedure?
    rw [hstart]
    rfl
  rcases registeredFrom_first h hnew with ⟨hnone, hothers⟩ |
    ⟨procedure, definition, prototype, hprocedure, hfirst, hfrom⟩
  · refine .inl ⟨hnone, firstWith?_eq_none_iff.2 fun definition hmem hsame => ?_⟩
    rcases definedProccode?_eq_some_iff.1 hsame with ⟨prototype, hread, heq⟩
    exact hothers definition hmem prototype hread heq
  · have hread : Prototype.ofDefinition blocks definition = .ok prototype := by
      rcases hfirst with ⟨_, _, _, hread, -⟩
      exact hread
    exact .inr ⟨procedure, definition, prototype, hprocedure,
      firstWith?_of_isFirstDefinition hfirst, hread, hfrom⟩

/-- A run notes the definitions that are not the first with their proccode, in order. -/
theorem diagnostics_predeclareAll_eq_filter (hids : (list.map Block.id).Nodup)
    (hstart : session.scope.procedures = .empty)
    (h : predeclareAll blocks list session = .ok () after) :
    after.diagnostics = session.diagnostics ++
      (list.filter fun definition => !definition.isFirstIn blocks list).map
        (Block.repetition blocks) := by
  induction list using List.reverseRecOn generalizing after with
  | nil =>
    cases h
    exact (List.append_nil _).symm
  | append_singleton front last ih =>
    rcases predeclareAll_concat_eq_ok h with ⟨between, prototype, hfront, hread, rfl⟩
    have hproccode := definedProccode?_of_ok hread
    have hidsfront : (front.map Block.id).Nodup := by
      rw [List.map_append] at hids
      exact (List.nodup_append.1 hids).1
    have hkept : front.filter (fun d => !d.isFirstIn blocks (front ++ [last])) =
        front.filter fun d => !d.isFirstIn blocks front :=
      List.filter_congr fun d hd => by rw [isFirstIn_concat_of_mem hd]
    rw [List.filter_append, hkept, List.map_append, ← List.append_assoc, ← ih hidsfront hfront]
    -- the last one is noted if and only if its proccode is registered when it comes
    rw [List.filter_singleton, isFirstIn_concat_self hids hproccode]
    unfold predeclared
    rcases registered_of_firstWith? hfront hstart prototype.proccode with ⟨hnone, hfirst⟩ |
      ⟨procedure, _, _, hprocedure, hfirst, -⟩
    · rw [hnone, hfirst]
      exact (List.append_nil _).symm
    · rw [hprocedure, hfirst]
      simp [Block.repetition, hproccode]

end Run

/-! ## What a run leaves -/

/-- What is behind a list of definitions that were read from a session without procedures. -/
structure Registered (blocks : Dict String Block) (list : List Block) (before after : Session) :
    Prop where
  /-- The registered proccodes are those of the definitions. -/
  registered_iff : ∀ proccode, (after.scope.procedure? proccode).isSome = true ↔
    ∃ definition ∈ list, definition.definedProccode? blocks = some proccode
  /-- A proccode is registered with what the first definition of it says. -/
  registered_from : ∀ proccode procedure, after.scope.procedure? proccode = some procedure →
    ∃ definition prototype, firstWith? blocks list proccode = some definition ∧
      Prototype.ofDefinition blocks definition = .ok prototype ∧
      procedure.RegisteredFrom definition prototype ∧
      procedure.argumentNames.length = procedure.arguments.length
  /-- The blocks that define a procedure are the first definitions of the proccodes. -/
  defined_iff : ∀ id, (after.scope.definedBy? id).isSome = true ↔
    ∃ definition ∈ list, definition.id = id ∧ definition.isFirstIn blocks list = true
  /-- The other definitions are noted, in order. -/
  diagnostics_eq : after.diagnostics = before.diagnostics ++
    (list.filter fun definition => !definition.isFirstIn blocks list).map
      (Block.repetition blocks)
  /-- No binding changes. -/
  bindings_eq : after.scope.bindings = before.scope.bindings

section Leaves

variable {blocks : Dict String Block} {list : List Block} {session after : Session}

theorem registered_from_of_predeclareAll (h : predeclareAll blocks list session = .ok () after)
    (hstart : session.scope.procedures = .empty) {proccode : String} {procedure : Procedure}
    (hprocedure : after.scope.procedure? proccode = some procedure) :
    ∃ definition prototype, firstWith? blocks list proccode = some definition ∧
      Prototype.ofDefinition blocks definition = .ok prototype ∧
      procedure.RegisteredFrom definition prototype := by
  rcases registered_of_firstWith? h hstart proccode with ⟨hnone, -⟩ |
    ⟨found, definition, prototype, hfound, hfirst, hread, hfrom⟩
  · rw [hprocedure] at hnone
    cases hnone
  · rw [hprocedure] at hfound
    cases hfound
    exact ⟨definition, prototype, hfirst, hread, hfrom⟩

theorem registered_iff_of_predeclareAll (h : predeclareAll blocks list session = .ok () after)
    (hstart : session.scope.procedures = .empty) (proccode : String) :
    (after.scope.procedure? proccode).isSome = true ↔
      ∃ definition ∈ list, definition.definedProccode? blocks = some proccode := by
  rcases registered_of_firstWith? h hstart proccode with ⟨hnone, hfirst⟩ |
    ⟨procedure, definition, _, hprocedure, hfirst, -⟩
  · rw [hnone]
    have hothers := firstWith?_eq_none_iff.1 hfirst
    constructor
    · intro hsome
      cases hsome
    · rintro ⟨definition, hmem, hsame⟩
      exact absurd hsame (hothers definition hmem)
  · rw [hprocedure]
    exact ⟨fun _ => ⟨definition, mem_of_firstWith? hfirst⟩, fun _ => rfl⟩

/-- The procedure that a block defines is registered under the proccode that the block is the first
with. -/
theorem registered_of_definedBy? (h : predeclareAll blocks list session = .ok () after)
    (hstart : session.scope.procedures = .empty) {id : String} {procedure : Procedure}
    (hdefined : after.scope.definedBy? id = some procedure) :
    ∃ proccode definition prototype, after.scope.procedure? proccode = some procedure ∧
      firstWith? blocks list proccode = some definition ∧ definition.id = id ∧
      Prototype.ofDefinition blocks definition = .ok prototype ∧
      procedure.RegisteredFrom definition prototype := by
  unfold Scope.definedBy? at hdefined
  have hid : procedure.definition = id := by
    simpa using List.find?_some hdefined
  rcases Dict.exists_get?_of_mem_values (List.mem_of_find?_eq_some hdefined) with
    ⟨proccode, hprocedure⟩
  rcases registered_from_of_predeclareAll h hstart hprocedure with
    ⟨definition, prototype, hfirst, hread, hfrom⟩
  exact ⟨proccode, definition, prototype, hprocedure, hfirst,
    hfrom.definition_eq.symm.trans hid, hread, hfrom⟩

theorem defined_iff_of_predeclareAll (hids : (list.map Block.id).Nodup)
    (h : predeclareAll blocks list session = .ok () after)
    (hstart : session.scope.procedures = .empty) (id : String) :
    (after.scope.definedBy? id).isSome = true ↔
      ∃ definition ∈ list, definition.id = id ∧ definition.isFirstIn blocks list = true := by
  constructor
  · intro hsome
    rcases Option.isSome_iff_exists.1 hsome with ⟨procedure, hdefined⟩
    rcases registered_of_definedBy? h hstart hdefined with
      ⟨proccode, definition, _, -, hfirst, hid, -⟩
    have hmem := (mem_of_firstWith? hfirst).1
    exact ⟨definition, hmem, hid, (isFirstIn_iff hids hmem).2 ⟨proccode, hfirst⟩⟩
  · rintro ⟨definition, hmem, hid, hwins⟩
    rcases (isFirstIn_iff hids hmem).1 hwins with ⟨proccode, hfirst⟩
    rcases registered_of_firstWith? h hstart proccode with ⟨-, hnone⟩ |
      ⟨procedure, found, _, hprocedure, hfound, -, hfrom⟩
    · rw [hfirst] at hnone
      cases hnone
    · -- the registered procedure carries the id of the definition
      rw [hfirst] at hfound
      cases hfound
      refine List.find?_isSome.2 ⟨procedure, Dict.mem_values_of_get? hprocedure, ?_⟩
      rw [hfrom.definition_eq, hid]
      exact beq_self_eq_true _

/-- What definitions with ids of their own leave behind, if all of them can be read. -/
theorem registered_of_predeclareAll (hids : (list.map Block.id).Nodup)
    (hstart : session.scope.procedures = .empty)
    (h : predeclareAll blocks list session = .ok () after) :
    Registered blocks list session after where
  registered_iff := registered_iff_of_predeclareAll h hstart
  registered_from := by
    intro proccode procedure hprocedure
    rcases registered_from_of_predeclareAll h hstart hprocedure with
      ⟨definition, prototype, hfirst, hread, hfrom⟩
    exact ⟨definition, prototype, hfirst, hread, hfrom, hfrom.length_eq hread⟩
  defined_iff := defined_iff_of_predeclareAll hids h hstart
  diagnostics_eq := diagnostics_predeclareAll_eq_filter hids hstart h
  bindings_eq := bindings_predeclareAll h

end Leaves

/-- The registration of a target's procedures ends well if and only if every definition can be read,
and then leaves what all definitions leave. Otherwise it ends with the error of the first definition
that cannot be read, and leaves what the definitions in front of that one leave. -/
theorem predeclare_registers_first_definitions {blocks : Dict String Block}
    (hkeyed : ∀ e ∈ blocks.entries, e.2.id = e.1) {session : Session}
    (hstart : session.scope.procedures = .empty) :
    ((∃ after, predeclare blocks session = .ok () after) ↔
      ∀ definition ∈ definitions blocks, ∃ prototype,
        Prototype.ofDefinition blocks definition = .ok prototype) ∧
    (∀ after, predeclare blocks session = .ok () after →
      Registered blocks (definitions blocks) session after) ∧
    ∀ error after, predeclare blocks session = .error error after →
      ∃ earlier definition later, definitions blocks = earlier ++ definition :: later ∧
        (∀ other ∈ earlier, ∃ prototype,
          Prototype.ofDefinition blocks other = .ok prototype) ∧
        Prototype.ofDefinition blocks definition = .error error ∧
        Registered blocks earlier session after := by
  -- blocks are known under their own ids, so definitions have different ones
  have hids := nodup_ids_of_keyed hkeyed
  refine ⟨exists_predeclareAll_eq_ok_iff session, ?_, ?_⟩
  · intro after hrun
    exact registered_of_predeclareAll hids hstart hrun
  · intro error after hrun
    rcases predeclareAll_eq_error hrun with ⟨earlier, definition, later, hlist, hfails, hearlier⟩
    -- what was read in front of the failing one is a run of its own that ended well
    have hidsEarlier : (earlier.map Block.id).Nodup := by
      rw [hlist, List.map_append] at hids
      exact (List.nodup_append.1 hids).1
    exact ⟨earlier, definition, later, hlist, exists_prototype_of_predeclareAll hearlier, hfails,
      registered_of_predeclareAll hidsEarlier hstart hearlier⟩

/-- The blocks of the jumper, with a prototype for its last definition that says nothing. -/
def stumblingBlocks : Dict String Block :=
  jumper.blocks.insert "otherType"
    ⟨"otherType", "procedures_prototype", none, .empty, .empty, true, false, none⟩

/-- The registration of the jumper reads all three definitions and keeps the first of two with one
proccode. With a prototype that says nothing it fails at the last definition, behind both of
them. -/
theorem jumper_registers_first_definitions :
    (∀ e ∈ jumper.blocks.entries, e.2.id = e.1) ∧ (∀ e ∈ stumblingBlocks.entries, e.2.id = e.1) ∧
    (Scope.new false).procedures = .empty ∧
    (∃ after, predeclare jumper.blocks ⟨Scope.new false, []⟩ = .ok () after ∧
      Registered jumper.blocks (definitions jumper.blocks) ⟨Scope.new false, []⟩ after) ∧
    (definitions jumper.blocks).map (fun d => (d.id, d.isFirstIn jumper.blocks
        (definitions jumper.blocks))) = [("first", true), ("second", false), ("other", true)] ∧
    ∃ error after earlier definition later,
      predeclare stumblingBlocks ⟨Scope.new false, []⟩ = .error error after ∧
      definitions stumblingBlocks = earlier ++ definition :: later ∧
      Prototype.ofDefinition stumblingBlocks definition = .error error ∧
      Registered stumblingBlocks earlier ⟨Scope.new false, []⟩ after ∧
      after.diagnostics = [⟨some "second", .repeatedProcedure "jump %s"⟩] := by
  have hkeyed : ∀ e ∈ jumper.blocks.entries, e.2.id = e.1 := by
    decide
  have hkeyed' : ∀ e ∈ stumblingBlocks.entries, e.2.id = e.1 := by
    decide +kernel
  -- the one run ends well, the other one stumbles behind a repetition
  have hruns : (match predeclare jumper.blocks ⟨Scope.new false, []⟩ with
      | .ok _ _ => true
      | .error _ _ => false) = true := by
    decide +kernel
  have hstumbles : (match predeclare stumblingBlocks ⟨Scope.new false, []⟩ with
      | .ok _ _ => none
      | .error _ after => some after.diagnostics) =
      some [⟨some "second", .repeatedProcedure "jump %s"⟩] := by
    decide +kernel
  refine ⟨hkeyed, hkeyed', rfl, ?_, by decide +kernel, ?_⟩
  · cases hrun : predeclare jumper.blocks ⟨Scope.new false, []⟩ with
    | error error after =>
      rw [hrun] at hruns
      cases hruns
    | ok _ after =>
      exact ⟨after, rfl, (predeclare_registers_first_definitions hkeyed rfl).2.1 after hrun⟩
  · cases hrun : predeclare stumblingBlocks ⟨Scope.new false, []⟩ with
    | ok _ after =>
      rw [hrun] at hstumbles
      cases hstumbles
    | error error after =>
      rw [hrun] at hstumbles
      rcases (predeclare_registers_first_definitions hkeyed' rfl).2.2 error after hrun with
        ⟨earlier, definition, later, hlist, -, hfails, hregistered⟩
      exact ⟨error, after, earlier, definition, later, rfl, hlist, hfails, hregistered,
        Option.some.inj hstumbles⟩

end BlockScribe
