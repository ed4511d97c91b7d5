import BlockScribe.Proofs.Emission.Watch
import BlockScribe.Proofs.Target.Openings

/-! # Names of a target never collide

All the time that a target is written, its scope is hygienic: every name in it is a proper word,
and no two of its variables, lists and procedures share one. The names are written by four hands,
each of which makes its names fresh against what the scope holds at that moment, so the invariant
is kept by each step of the work (`Target.Step.keeps_hygiene`).

A point of the work is one of two kinds. The work may be between two of its parts, and then the
session is the one that an opening of the work leaves (`Target.Opening`). Or it is in the middle of
a hat script, and then looks around every block that is nested in the script see the session
(`Target.inspected`).

A sprite starts with the names of the stage, which come from a scope of the same kind
(`hygienic_startScope`).
-/

namespace BlockScribe

open Script

/-! ## The start -/

/-- Names for ids that the scope does not have join it in order. -/
theorem entries_inherited {names : List (String × String)} {scope : Scope}
    (hdistinct : (names.map Prod.fst).Nodup)
    (hnew : ∀ e ∈ names, scope.name? e.1 = none) :
    (inherited names scope).bindings.entries = scope.bindings.entries ++ names := by
  induction names generalizing scope with
  | nil => simp [inherited]
  | cons e rest ih =>
    rw [List.map_cons, List.nodup_cons] at hdistinct
    -- the ids are different, so the first one does not stand in the way of the others
    have hrest : ∀ other ∈ rest, (scope.inherit e.1 e.2).name? other.1 = none := by
      intro other hother
      have hne : other.1 ≠ e.1 := by
        intro heq
        exact hdistinct.1 (heq ▸ List.mem_map_of_mem hother)
      rw [Scope.name?_inherit, if_neg hne]
      exact hnew other (List.mem_cons_of_mem _ hother)
    have htail := ih hdistinct.2 hrest
    have hhead : (scope.inherit e.1 e.2).bindings.entries = scope.bindings.entries ++ [e] :=
      Dict.entries_insert_of_get?_eq_none (hnew e (by simp)) e.2
    -- the first name is in, and the others join behind it
    rw [hhead, List.append_assoc, List.singleton_append] at htail
    exact htail

theorem procedures_inherited (names : List (String × String)) (scope : Scope) :
    (inherited names scope).procedures = scope.procedures := by
  induction names generalizing scope with
  | nil => rfl
  | cons e rest ih => exact ih (scope.inherit e.1 e.2)

theorem isStage_inherited (names : List (String × String)) (scope : Scope) :
    (inherited names scope).isStage = scope.isStage := by
  induction names generalizing scope with
  | nil => rfl
  | cons e rest ih => exact ih (scope.inherit e.1 e.2)

theorem isBare_of_mem_parameters {procedure : Procedure} {e : String × String}
    (h : e ∈ parameters procedure) : Identifier.IsBare e.2 := by
  rcases List.mem_map.1 h with ⟨pair, -, rfl⟩
  exact (Identifier.isProper_parameter pair.2).toIsBare

/-- A target starts with the names of the stage and nothing else. -/
theorem startScope_eq (isStage : Bool) (globals : Dict String String) :
    startScope isStage globals = ⟨.empty, globals, isStage⟩ := by
  have hbindings : (startScope isStage globals).bindings = globals := by
    apply Dict.ext
    have h : (inherited globals.entries (Scope.new isStage)).bindings.entries =
        [] ++ globals.entries := entries_inherited globals.distinct fun _ _ => rfl
    exact h
  have hprocedures : (startScope isStage globals).procedures = .empty :=
    procedures_inherited _ _
  have hstage : (startScope isStage globals).isStage = isStage := isStage_inherited _ _
  cases hstart : startScope isStage globals with
  | mk procedures bindings stage =>
    rw [hstart] at hbindings hprocedures hstage
    subst hbindings hprocedures hstage
    rfl

/-- The raw names of a target's variables and lists, by id, in the order of their
declarations. -/
def Target.rawNames (target : Target) : List (String × String) :=
  target.vars.entries.map (fun e => (e.1, e.2.name)) ++
    target.lists.entries.map (fun e => (e.1, e.2.name))

theorem Target.globals_eq (stage : Target) :
    stage.globals = ((Scope.new true).bindAll stage.rawNames).bindings := rfl

/-- A scope without procedures is hygienic if its bindings are those of a hygienic one. -/
theorem Scope.Hygienic.withoutProcedures {scope : Scope} (h : scope.Hygienic) (isStage : Bool) :
    Scope.Hygienic ⟨.empty, scope.bindings, isStage⟩ where
  binding_proper := by
    intro id name hname
    exact h.binding_proper hname
  procedure_proper := by
    intro proccode procedure hprocedure
    cases hprocedure
  binding_injective := by
    intro id other name hid hother
    exact h.binding_injective hid hother
  procedure_injective := by
    intro proccode other procedure twin hprocedure
    cases hprocedure
  disjoint := by
    intro id name proccode procedure _ hprocedure
    cases hprocedure

/-- The names that a target of a project sees at its start. -/
def Project.visible (project : Project) (target : Target) : Dict String String :=
  if target.isStage then .empty else project.globals

theorem hygienic_startScope (project : Project) (target : Target) :
    (startScope target.isStage (project.visible target)).Hygienic := by
  have hempty : Scope.Hygienic ⟨.empty, .empty, target.isStage⟩ :=
    Scope.hygienic_new target.isStage
  rw [startScope_eq]
  unfold Project.visible Project.globals
  split
  · exact hempty
  · cases project.targets.find? Target.isStage with
    | none => exact hempty
    | some stage =>
      have hstage := (Scope.hygienic_new true).bindAll stage.rawNames
      exact hstage.withoutProcedures target.isStage

/-! ## The steps -/

/-- Every change of a target's session keeps its scope hygienic. -/
theorem Target.Step.keeps_hygiene {target : Target} {before after : Session}
    (h : Target.Step target before after) (hbefore : before.scope.Hygienic) :
    after.scope.Hygienic := by
  -- every writer makes its name fresh against the scope that it finds
  cases h with
  | declareVariable _ _ => exact hbefore.bind _ _
  | declareList _ _ => exact hbefore.bind _ _
  | register _ _ _ => exact hbefore.register_fresh _ _ _ _ _ _
  | render hrender =>
    cases hrender with
    | note _ => exact hbefore
    | bind _ _ _ _ => exact hbefore.bind _ _

/-- Noting a problem and binding an id keep the scope hygienic. -/
theorem Session.Touched.keeps_hygiene {before after : Session} (h : before.Touched after)
    (hbefore : before.scope.Hygienic) : after.scope.Hygienic := by
  cases h with
  | unchanged => exact hbefore
  | noted _ => exact hbefore
  | bound _ _ => exact hbefore.bind _ _

/-! ## Inside an entry -/

namespace RenderRelation

variable {rel : {α : Type} → Render α → Render α → Prop} (h : RenderRelation rel)
  {nested nested' : Nested}
  (hnested : ∀ id level mode, rel (nested id level mode) (nested' id level mode))
include h hnested

theorem renderRest (block : Block) :
    rel (Script.renderRest nested block) (Script.renderRest nested' block) := by
  unfold Script.renderRest
  cases block.next with
  | some next => exact hnested next 1 .chain
  | none => exact h.pure _

theorem renderHat (block : Block) (slots : List String) :
    rel (Script.renderHat nested block slots) (Script.renderHat nested' block slots) := by
  unfold Script.renderHat renderCall
  refine h.bind (h.map (h.renderSlots hnested block slots) _) fun head => ?_
  exact h.bind (h.renderRest hnested block) fun _ => h.pure _

/-- Two ways to write what is nested in entries give two renderings of the entries. -/
theorem renderEntries (table : SignatureTable) (entries : List Block) :
    rel (Script.renderEntries table nested entries)
      (Script.renderEntries table nested' entries) := by
  induction entries with
  | nil => exact h.pure _
  | cons block rest ih =>
    unfold Script.renderEntries
    cases entry table block with
    | hat slots =>
      refine h.bind (h.renderHat hnested block slots) fun _ => ?_
      exact h.bind ih fun _ => h.pure _
    | undefined => exact h.bind ih fun _ => h.pure _
    | nothing => exact ih

end RenderRelation

section Inspection

variable (table : SignatureTable) (target : Target)

/-- The way that blocks of the target are written, with a look in front of every block and one
behind it that stop with an alarm where the scope is not hygienic. -/
def Target.inspected (alarm : Failure) : Nested :=
  watchedAt (fun session => session.scope.Hygienic) alarm ⟨table, target.blocks⟩ maxNesting []

/-- From a hygienic scope, entries are written the same with looks around all that is nested in
them, whatever alarm the looks would give. -/
theorem renderEntries_inspected (alarm : Failure) (entries : List Block) {session : Session}
    (hsession : session.scope.Hygienic) :
    renderEntries table (target.inspected table alarm) entries session =
      renderEntries table (target.nested table) entries session := by
  have hrel : RenderRelation (AgreesKeeping fun session => session.scope.Hygienic) :=
    renderRelation_agreesKeeping fun htouched => htouched.keeps_hygiene
  have hnested := agreesKeeping_watchedAt (p := fun session => session.scope.Hygienic)
    (fun htouched => htouched.keeps_hygiene) alarm ⟨table, target.blocks⟩ maxNesting []
  exact (hrel.renderEntries hnested table entries session hsession).1

end Inspection

/-! ## The whole work -/

/-- The scope of a target of a project is hygienic at every point of the work on the target: at the
start; after every opening of the work, that is after each of the declarations and registrations
and each of the procedures and entries, also where the work stops in it; inside every entry, where
looks in front of every nested block and behind it find nothing, so that the entry is written the
same with them; and at the end, well or not. -/
theorem target_scope_hygienic_at_every_point (table : SignatureTable) (project : Project)
    (target : Target) :
    let start : Session := ⟨startScope target.isStage (project.visible target), []⟩
    start.scope.Hygienic ∧
    (∀ part, target.Opening table part →
      (∃ rest : List String → Work (List String), renderTarget table target = part >>= rest) ∧
      (endOf part start).scope.Hygienic) ∧
    (∀ done block later, entryBlocks target.blocks = done ++ block :: later →
      ∀ alarm : Failure,
        let before := endOf (target.writing table (definitions target.blocks) done) start
        renderEntries table (target.inspected table alarm) [block] before =
          renderEntries table (target.nested table) [block] before) ∧
    (endOf (renderTarget table target) start).scope.Hygienic := by
  intro start
  have hstart : start.scope.Hygienic := hygienic_startScope project target
  have hopening : ∀ part, target.Opening table part → (endOf part start).scope.Hygienic := by
    intro part hpart
    exact (stepsBy_opening hpart).keeps (fun hstep => hstep.keeps_hygiene) hstart
  refine ⟨hstart, fun part hpart => ⟨hpart.exists_rest, hopening part hpart⟩, ?_, ?_⟩
  · intro done block later hentries alarm before
    -- the entries in front of the block make an opening
    have hdone : done <+: entryBlocks target.blocks := ⟨block :: later, hentries.symm⟩
    exact renderEntries_inspected table target alarm [block] (hopening _ (.entries hdone))
  · exact (stepsBy_renderTarget table target).keeps (fun hstep => hstep.keeps_hygiene) hstart

end BlockScribe
