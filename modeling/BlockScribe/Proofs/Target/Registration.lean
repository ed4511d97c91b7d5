import BlockScribe.Proofs.Target.Hygiene

/-! # Registered procedures

All definitions of a target are registered before anything is written. A proccode belongs to the
first definition that has it, and keeps its registration from then on (`registeredFrom_first`);
each registration gets a name that no other procedure has (`hygienic_predeclareAll`), whatever
names the target started with.

* `Procedure.RegisteredFrom`: a procedure holds what the prototype of a definition says.
* `IsFirstDefinition`: a definition is the first of its proccode.
-/

namespace BlockScribe

/-! ## One definition -/

/-- A run over definitions reads the first of them and goes on with the others. -/
theorem predeclareAll_cons_eq_ok {blocks : Dict String Block} {definition : Block}
    {rest : List Block} {session after : Session}
    (h : predeclareAll blocks (definition :: rest) session = .ok () after) :
    ∃ prototype, Prototype.ofDefinition blocks definition = .ok prototype ∧
      predeclareAll blocks rest (predeclared definition prototype session) = .ok () after := by
  unfold predeclareAll at h
  rcases exists_of_bind_eq_ok h with ⟨_, between, hone, hrest⟩
  cases hread : Prototype.ofDefinition blocks definition with
  | error error =>
    rw [predeclareOne_of_error hread] at hone
    cases hone
  | ok prototype =>
    rw [predeclareOne_of_ok hread] at hone
    cases hone
    exact ⟨prototype, rfl, hrest⟩

section Predeclared

variable {definition : Block} {prototype : Prototype} {session : Session}

theorem bindings_predeclared :
    (predeclared definition prototype session).scope.bindings = session.scope.bindings := by
  unfold predeclared
  split
  · rfl
  · rfl

/-- A registered proccode keeps its procedure. -/
theorem procedure?_predeclared_of_some {proccode : String} {procedure : Procedure}
    (h : session.scope.procedure? proccode = some procedure) :
    (predeclared definition prototype session).scope.procedure? proccode = some procedure := by
  unfold predeclared
  cases hknown : session.scope.procedure? prototype.proccode with
  | some other => exact h
  | none =>
    -- the new proccode was not registered, so it is another one
    have hne : proccode ≠ prototype.proccode := by
      intro heq
      rw [heq, hknown] at h
      cases h
    rw [Scope.procedure?_register, if_neg hne]
    exact h

/-- A definition concerns no proccode but its own. -/
theorem procedure?_predeclared_of_ne {proccode : String} (hne : proccode ≠ prototype.proccode) :
    (predeclared definition prototype session).scope.procedure? proccode =
      session.scope.procedure? proccode := by
  unfold predeclared
  split
  · rfl
  · rw [Scope.procedure?_register, if_neg hne]

/-- A new proccode is registered with what its prototype says, under a fresh name. -/
theorem procedure?_predeclared_of_new
    (h : session.scope.procedure? prototype.proccode = none) :
    (predeclared definition prototype session).scope.procedure? prototype.proccode =
      some ⟨definition.id,
        session.scope.freshName (Identifier.ofRaw (proccodeName prototype.proccode)),
        prototype.argumentIds, prototype.argumentNames, prototype.warp⟩ := by
  unfold predeclared
  rw [h]
  dsimp only
  rw [Scope.procedure?_register, if_pos rfl]

/-- The procedures of a scope, without its bindings. -/
def Scope.proceduresOnly (scope : Scope) : Scope := ⟨scope.procedures, .empty, scope.isStage⟩

theorem Scope.mem_names_of_mem_proceduresOnly {scope : Scope} {name : String}
    (h : name ∈ scope.proceduresOnly.names) : name ∈ scope.names := by
  rcases List.mem_append.1 h with hnone | hprocedure
  · exact absurd hnone List.not_mem_nil
  · exact List.mem_append_right _ hprocedure

theorem Scope.proceduresOnly_register (scope : Scope) (proccode : String)
    (procedure : Procedure) :
    (scope.register proccode procedure).proceduresOnly =
      scope.proceduresOnly.register proccode procedure := rfl

/-- The names of procedures stay proper and different, whatever the bindings are. -/
theorem hygienic_predeclared (h : session.scope.proceduresOnly.Hygienic) :
    (predeclared definition prototype session).scope.proceduresOnly.Hygienic := by
  unfold predeclared
  split
  · exact h
  · have hfresh := Scope.freshName_not_mem_names session.scope
      (Identifier.ofRaw (proccodeName prototype.proccode))
    have hproper := Scope.isProper_freshName session.scope (proccodeName prototype.proccode)
    generalize session.scope.freshName (Identifier.ofRaw (proccodeName prototype.proccode)) = name
      at hfresh hproper ⊢
    rw [Scope.proceduresOnly_register]
    exact h.register hproper fun hmem => hfresh (Scope.mem_names_of_mem_proceduresOnly hmem)

end Predeclared

/-! ## All definitions -/

section Run

variable {blocks : Dict String Block} {list : List Block} {session after : Session}

/-- What every definition keeps is kept by a run over all of them. -/
theorem predeclareAll_keeps {p : Session → Prop}
    (hstep : ∀ definition prototype {s : Session}, p s → p (predeclared definition prototype s))
    (h : predeclareAll blocks list session = .ok () after) (hsession : p session) : p after := by
  induction list generalizing session with
  | nil =>
    cases h
    exact hsession
  | cons definition rest ih =>
    rcases predeclareAll_cons_eq_ok h with ⟨prototype, _, hrest⟩
    exact ih hrest (hstep definition prototype hsession)

/-- Registering procedures changes no binding. -/
theorem bindings_predeclareAll (h : predeclareAll blocks list session = .ok () after) :
    after.scope.bindings = session.scope.bindings := by
  have hstep : ∀ definition prototype {s : Session},
      s.scope.bindings = session.scope.bindings →
        (predeclared definition prototype s).scope.bindings = session.scope.bindings := by
    intro definition prototype s hs
    rw [bindings_predeclared, hs]
  exact predeclareAll_keeps hstep h rfl

/-- After a run over definitions the names of procedures are proper and different. -/
theorem hygienic_predeclareAll (h : predeclareAll blocks list session = .ok () after)
    (hsession : session.scope.proceduresOnly.Hygienic) :
    after.scope.proceduresOnly.Hygienic := by
  have hstep : ∀ definition prototype {s : Session}, s.scope.proceduresOnly.Hygienic →
      (predeclared definition prototype s).scope.proceduresOnly.Hygienic := by
    intro definition prototype s hs
    exact hygienic_predeclared hs
  exact predeclareAll_keeps hstep h hsession

theorem procedure?_predeclareAll_of_some (h : predeclareAll blocks list session = .ok () after)
    {proccode : String} {procedure : Procedure}
    (hknown : session.scope.procedure? proccode = some procedure) :
    after.scope.procedure? proccode = some procedure := by
  have hstep : ∀ definition prototype {s : Session},
      s.scope.procedure? proccode = some procedure →
        (predeclared definition prototype s).scope.procedure? proccode = some procedure := by
    intro definition prototype s hs
    exact procedure?_predeclared_of_some hs
  exact predeclareAll_keeps hstep h hknown

end Run

/-- A definition is the first of a list that has the proccode. -/
def IsFirstDefinition (blocks : Dict String Block) (list : List Block) (proccode : String)
    (definition : Block) (prototype : Prototype) : Prop :=
  ∃ earlier later, list = earlier ++ definition :: later ∧
    Prototype.ofDefinition blocks definition = .ok prototype ∧ prototype.proccode = proccode ∧
    ∀ other ∈ earlier, ∀ p, Prototype.ofDefinition blocks other = .ok p → p.proccode ≠ proccode

/-- A procedure holds what a definition and its prototype say. -/
structure Procedure.RegisteredFrom (procedure : Procedure) (definition : Block)
    (prototype : Prototype) : Prop where
  definition_eq : procedure.definition = definition.id
  arguments_eq : procedure.arguments = prototype.argumentIds
  argumentNames_eq : procedure.argumentNames = prototype.argumentNames
  warp_eq : procedure.warp = prototype.warp

/-- A proccode that was not registered before is registered if and only if some definition has
it, and then from the first of them. -/
theorem registeredFrom_first {blocks : Dict String Block} {list : List Block}
    {session after : Session} (h : predeclareAll blocks list session = .ok () after)
    {proccode : String} (hnew : session.scope.procedure? proccode = none) :
    (after.scope.procedure? proccode = none ∧
      ∀ definition ∈ list, ∀ prototype,
        Prototype.ofDefinition blocks definition = .ok prototype →
          prototype.proccode ≠ proccode) ∨
    ∃ procedure definition prototype, after.scope.procedure? proccode = some procedure ∧
      IsFirstDefinition blocks list proccode definition prototype ∧
      procedure.RegisteredFrom definition prototype := by
  -- along the list, until the first definition with the proccode
  induction list generalizing session with
  | nil =>
    cases h
    exact .inl ⟨hnew, fun _ hnil => absurd hnil List.not_mem_nil⟩
  | cons first rest ih =>
    rcases predeclareAll_cons_eq_ok h with ⟨prototype, hread, hrest⟩
    by_cases heq : proccode = prototype.proccode
    · -- the first definition wins, and the others leave its registration alone
      right
      rw [heq] at hnew
      have hwon := procedure?_predeclareAll_of_some hrest
        (procedure?_predeclared_of_new hnew)
      rw [← heq] at hwon
      refine ⟨_, first, prototype, hwon, ?_, ⟨rfl, rfl, rfl, rfl⟩⟩
      exact ⟨[], rest, rfl, hread, heq.symm, fun _ hnil => absurd hnil List.not_mem_nil⟩
    · have hkept : (predeclared first prototype session).scope.procedure? proccode = none := by
        rw [procedure?_predeclared_of_ne heq]
        exact hnew
      have hfirst : ∀ p, Prototype.ofDefinition blocks first = .ok p → p.proccode ≠ proccode := by
        intro p hp hsame
        rw [hread] at hp
        cases hp
        exact heq hsame.symm
      rcases ih hrest hkept with ⟨hnone, hothers⟩ |
        ⟨procedure, definition, found, hsome, hwins, hfrom⟩
      · refine .inl ⟨hnone, ?_⟩
        intro definition hmem
        rcases List.mem_cons.1 hmem with rfl | htail
        · exact hfirst
        · exact hothers definition htail
      · rcases hwins with ⟨earlier, later, rfl, hfound, hproccode, hearlier⟩
        refine .inr ⟨procedure, definition, found, hsome, ?_, hfrom⟩
        refine ⟨first :: earlier, later, rfl, hfound, hproccode, ?_⟩
        intro other hother
        rcases List.mem_cons.1 hother with rfl | htail
        · exact hfirst
        · exact hearlier other htail

end BlockScribe
