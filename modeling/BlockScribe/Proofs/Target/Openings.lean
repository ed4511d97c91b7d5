import BlockScribe.Proofs.Target.Steps
import Mathlib.Data.List.Infix

/-! # How far the work on a target has come

The work on a target goes through lists: its variables, its lists, the definitions of procedures,
once to register them and once to write them, and the other blocks at the top level. It may be cut
between any two members of any of these lists. What is in front of the cut is a computation of its
own, an opening of the work, and the session that it leaves is the one that the work has at this
point, or the one that it ends in if it stops before.

* `Target.Opening`: the parts in front of the cuts.
* `Target.Opening.exists_rest`: the whole work is any of its openings and what comes behind it.
* `stepsBy_opening`: an opening changes the session by the steps of the target.
-/

namespace BlockScribe

open Script

/-! ## Lists in two parts -/

theorem work_bind {α β : Type} (render : Render α) (next : α → Render β) :
    work (render >>= next) = work render >>= fun value => work (next value) := by
  funext session
  show work (render >>= next) session = EStateM.bind (work render) _ session
  unfold EStateM.bind
  -- running the work runs the rendering, and only the failure is told in other words
  cases hrun : render session with
  | ok value after =>
    have hfirst : work render session = .ok value after := by
      unfold work
      rw [hrun]
    rw [hfirst]
    unfold work
    rw [bind_of_ok hrun]
  | error failure after =>
    have hfirst : work render session =
        .error (Error.ofCause (.block failure.fault)) after := by
      unfold work
      rw [hrun]
    rw [hfirst]
    unfold work
    rw [bind_of_error hrun]

theorem work_pure {α : Type} (value : α) : work (pure value) = pure value := rfl

theorem declareVariables_append (nested : Nested) (front back : List (String × Variable)) :
    declareVariables nested (front ++ back) = (do
      let texts ← declareVariables nested front
      let others ← declareVariables nested back
      return texts ++ others) := by
  induction front with
  | nil => simp [declareVariables]
  | cons e rest ih => simp [declareVariables, ih]

theorem declareLists_append (front back : List (String × ItemList)) :
    declareLists (front ++ back) = (do
      let texts ← declareLists front
      let others ← declareLists back
      return texts ++ others) := by
  induction front with
  | nil => simp [declareLists]
  | cons e rest ih => simp [declareLists, ih]

theorem predeclareAll_append (blocks : Dict String Block) (front back : List Block) :
    predeclareAll blocks (front ++ back) = (do
      predeclareAll blocks front
      predeclareAll blocks back) := by
  induction front with
  | nil => simp [predeclareAll]
  | cons definition rest ih => simp [predeclareAll, ih]

theorem renderProcedures_append (nested : Nested) (front back : List Block) :
    renderProcedures nested (front ++ back) = (do
      let texts ← renderProcedures nested front
      let others ← renderProcedures nested back
      return texts ++ others) := by
  induction front with
  | nil => simp [renderProcedures]
  | cons definition rest ih =>
    rw [List.cons_append]
    simp only [renderProcedures, bind_assoc]
    refine bind_congr fun session => ?_
    cases session.scope.definedBy? definition.id with
    | none => exact ih
    | some procedure => simp [ih]

theorem renderEntries_append (table : SignatureTable) (nested : Nested) (front back : List Block) :
    renderEntries table nested (front ++ back) = (do
      let texts ← renderEntries table nested front
      let others ← renderEntries table nested back
      return texts ++ others) := by
  induction front with
  | nil => simp [renderEntries]
  | cons block rest ih =>
    rw [List.cons_append]
    simp only [renderEntries]
    cases entry table block with
    | hat slots => simp [ih]
    | undefined => simp [ih]
    | nothing => exact ih

/-! ## Openings -/

section Openings

variable (table : SignatureTable) (target : Target)

/-- The way that blocks of the target are written, at its top level. -/
def Target.nested : Nested := emitAt ⟨table, target.blocks⟩ maxNesting []

/-- Declares variables and lists. -/
def Target.declaring (vars : List (String × Variable)) (lists : List (String × ItemList)) :
    Work (List String) := do
  let vars ← work (declareVariables (target.nested table) vars)
  let lists ← work (declareLists lists)
  return vars ++ lists

/-- Declares the variables and lists of the target, and registers procedures. -/
def Target.registering (procedures : List Block) : Work (List String) := do
  let declared ← target.declaring table target.vars.entries target.lists.entries
  predeclareAll target.blocks procedures
  return declared

/-- Declares the variables and lists of the target, registers its procedures, and writes procedures
and entries. -/
def Target.writing (procedures entries : List Block) : Work (List String) := do
  let declared ← target.registering table (definitions target.blocks)
  modify fun session =>
    { session with
      diagnostics := session.diagnostics ++ undefinedEntries table target.blocks }
  let procedures ← work (renderProcedures (target.nested table) procedures)
  let entries ← work (renderEntries table (target.nested table) entries)
  return declared ++ procedures ++ entries

/-- The work on a target up to a point between two variables, two lists, two registrations, two
procedures or two entries, or at one of their ends. -/
inductive Target.Opening : Work (List String) → Prop
  | declarations {done : List (String × Variable)} (hdone : done <+: target.vars.entries) :
    Opening (target.declaring table done [])
  | lists {done : List (String × ItemList)} (hdone : done <+: target.lists.entries) :
    Opening (target.declaring table target.vars.entries done)
  | registrations {done : List Block} (hdone : done <+: definitions target.blocks) :
    Opening (target.registering table done)
  | procedures {done : List Block} (hdone : done <+: definitions target.blocks) :
    Opening (target.writing table done [])
  | entries {done : List Block} (hdone : done <+: entryBlocks target.blocks) :
    Opening (target.writing table (definitions target.blocks) done)

end Openings

/-- A computation begins with another one. -/
def BeginsWith (whole first : Work (List String)) : Prop :=
  ∃ rest : List String → Work (List String), whole = first >>= rest

theorem BeginsWith.trans {whole middle first : Work (List String)} (h : BeginsWith whole middle)
    (hmiddle : BeginsWith middle first) : BeginsWith whole first := by
  obtain ⟨rest, rfl⟩ := h
  obtain ⟨between, rfl⟩ := hmiddle
  exact ⟨fun parts => between parts >>= rest, bind_assoc _ _ _⟩

section Rest

variable {table : SignatureTable} {target : Target}

theorem renderTarget_eq_writing :
    renderTarget table target =
      target.writing table (definitions target.blocks) (entryBlocks target.blocks) := by
  unfold renderTarget Target.writing Target.registering Target.declaring predeclare Target.nested
  simp

theorem beginsWith_declaring_variables {done vars : List (String × Variable)} (h : done <+: vars)
    (lists : List (String × ItemList)) :
    BeginsWith (target.declaring table vars lists) (target.declaring table done []) := by
  obtain ⟨more, rfl⟩ := h
  -- the other variables go on in the session that the first ones leave
  refine ⟨fun parts => do
    let others ← work (declareVariables (target.nested table) more)
    let lists ← work (declareLists lists)
    return parts ++ others ++ lists, ?_⟩
  unfold Target.declaring
  simp [-bind_pure_comp, declareVariables_append, work_bind, work_pure, declareLists]

theorem beginsWith_declaring_lists {done lists : List (String × ItemList)} (h : done <+: lists)
    (vars : List (String × Variable)) :
    BeginsWith (target.declaring table vars lists) (target.declaring table vars done) := by
  obtain ⟨more, rfl⟩ := h
  refine ⟨fun parts => do
    let others ← work (declareLists more)
    return parts ++ others, ?_⟩
  unfold Target.declaring
  simp [-bind_pure_comp, declareLists_append, work_bind, work_pure]

theorem beginsWith_registering {done procedures : List Block} (h : done <+: procedures) :
    BeginsWith (target.registering table procedures) (target.registering table done) := by
  obtain ⟨more, rfl⟩ := h
  -- what was declared is told again behind the other registrations
  refine ⟨fun parts => do
    predeclareAll target.blocks more
    return parts, ?_⟩
  unfold Target.registering
  simp [-bind_pure_comp, predeclareAll_append]

theorem beginsWith_writing_procedures {done procedures : List Block} (h : done <+: procedures)
    (entries : List Block) :
    BeginsWith (target.writing table procedures entries) (target.writing table done []) := by
  obtain ⟨more, rfl⟩ := h
  refine ⟨fun parts => do
    let others ← work (renderProcedures (target.nested table) more)
    let entries ← work (renderEntries table (target.nested table) entries)
    return parts ++ others ++ entries, ?_⟩
  unfold Target.writing
  simp [-bind_pure_comp, renderProcedures_append, work_bind, work_pure, renderEntries]

theorem beginsWith_writing_entries {done entries : List Block} (h : done <+: entries)
    (procedures : List Block) :
    BeginsWith (target.writing table procedures entries)
      (target.writing table procedures done) := by
  obtain ⟨more, rfl⟩ := h
  refine ⟨fun parts => do
    let others ← work (renderEntries table (target.nested table) more)
    return parts ++ others, ?_⟩
  unfold Target.writing
  simp [-bind_pure_comp, renderEntries_append, work_bind, work_pure]

/-- The work on a target is any of its openings, and then the rest. -/
theorem Target.Opening.exists_rest {part : Work (List String)} (h : target.Opening table part) :
    ∃ rest : List String → Work (List String), renderTarget table target = part >>= rest := by
  -- declarations and registrations come first in whatever is written
  have hregistering : BeginsWith (renderTarget table target)
      (target.registering table (definitions target.blocks)) := by
    rw [renderTarget_eq_writing]
    exact ⟨_, rfl⟩
  have hdeclaring : BeginsWith (renderTarget table target)
      (target.declaring table target.vars.entries target.lists.entries) :=
    hregistering.trans ⟨_, rfl⟩
  show BeginsWith _ _
  -- within its list, the cut is made by the lemma of that list
  cases h with
  | declarations hdone => exact hdeclaring.trans (beginsWith_declaring_variables hdone _)
  | lists hdone => exact hdeclaring.trans (beginsWith_declaring_lists hdone _)
  | registrations hdone => exact hregistering.trans (beginsWith_registering hdone)
  | procedures hdone =>
    rw [renderTarget_eq_writing]
    exact beginsWith_writing_procedures hdone _
  | entries hdone =>
    rw [renderTarget_eq_writing]
    exact beginsWith_writing_entries hdone _

end Rest

/-! ## The steps of an opening -/

section Steps

variable {table : SignatureTable} {target : Target}

theorem stepsBy_nested (id : String) (level : Nat) (mode : Mode) :
    StepsBy (Session.Step target.blocks) (target.nested table id level mode) :=
  stepsBy_emitAt ⟨table, target.blocks⟩ maxNesting [] id level mode

theorem stepsBy_declaring {vars : List (String × Variable)} {lists : List (String × ItemList)}
    (hvars : vars ⊆ target.vars.entries) (hlists : lists ⊆ target.lists.entries) :
    StepsBy (Target.Step target) (target.declaring table vars lists) := by
  unfold Target.declaring
  refine (stepsBy_declareVariables _ fun _ he => hvars he).work.bind fun vars => ?_
  exact (stepsBy_declareLists fun _ he => hlists he).work.bind fun _ => stepsBy_pure _

theorem stepsBy_registering {procedures : List Block}
    (hprocedures : procedures ⊆ definitions target.blocks) :
    StepsBy (Target.Step target) (target.registering table procedures) := by
  unfold Target.registering
  refine (stepsBy_declaring (List.Subset.refl _) (List.Subset.refl _)).bind fun declared => ?_
  exact (stepsBy_predeclareAll fun _ hd => hprocedures hd).bind fun _ => stepsBy_pure _

theorem stepsBy_writing (procedures entries : List Block) :
    StepsBy (Target.Step target) (target.writing table procedures entries) := by
  unfold Target.writing
  refine (stepsBy_registering (List.Subset.refl _)).bind fun declared => ?_
  -- the notes on undefined entries are steps, too
  refine StepsBy.bind (fun session => steps_notes session _) fun _ => ?_
  refine (stepsBy_renderProcedures stepsBy_nested _).ofRendering.work.bind fun procedures => ?_
  exact (stepsBy_renderEntries stepsBy_nested table _).ofRendering.work.bind
    fun _ => stepsBy_pure _

/-- An opening, from any session and however it ends, is a sequence of the steps of the target. -/
theorem stepsBy_opening {part : Work (List String)} (h : target.Opening table part) :
    StepsBy (Target.Step target) part := by
  cases h with
  | declarations hdone => exact stepsBy_declaring hdone.subset (List.nil_subset _)
  | lists hdone => exact stepsBy_declaring (List.Subset.refl _) hdone.subset
  | registrations hdone => exact stepsBy_registering hdone.subset
  | procedures _ => exact stepsBy_writing _ _
  | entries _ => exact stepsBy_writing _ _

end Steps

end BlockScribe
