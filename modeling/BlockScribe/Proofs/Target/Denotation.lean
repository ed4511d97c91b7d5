import BlockScribe.Proofs.Target.Calls
import BlockScribe.Proofs.Target.Capture
import BlockScribe.Proofs.Target.Literals
import BlockScribe.Proofs.Target.WellFormed

/-! # What names in the scripts of hats denote

The hats of a target share one scope, in which all names are proper words and each belongs to one
variable, list or procedure. A variable or list with an id that this scope binds is written with a
name that is its own. The ids in the tables of the target are bound by their declarations, those
that a sprite sees of the stage come with their names, and assignments bind the others as they are
met. What nothing has bound yet is written by its raw name, and that may be a reserved word or the
name of something else. A variable or list that is selected in a menu is not referred to by a name:
its raw name is written in quotes.

* `Draft.Unambiguous`: a name stands for an id and for nothing else.
* `Statement.RefersBy`: the names of variables and lists in a statement follow rules.
* `references_denote_their_ids`: the rules that hold of everything in the scripts of hats.
-/

namespace BlockScribe

open Script

/-! ## Names that belong to one id -/

/-- Where a scope is visible, a name may stand for an id and for nothing else: it is no reserved
word, no procedure has it, be it written or known to the scope, and no other id is bound to it. -/
structure Draft.Unambiguous (draft : Draft) (scope : Scope) (id name : String) : Prop where
  not_reserved : name ∉ Identifier.reserved
  not_written : ∀ p ∈ draft.procedures, p.procedure.name ≠ name
  not_known : ∀ {proccode procedure}, scope.procedure? proccode = some procedure →
    procedure.name ≠ name
  not_other : ∀ {other}, scope.name? other = some name → other = id

/-- The tables that give an id a name before the first script is written: those of the target, and
for a sprite those of the first stage. -/
inductive Project.Declares (project : Project) (target : Target) (id : String) : Prop
  | own (hid : id ∈ target.rawNames.map Prod.fst) : Declares project target id
  | inherited {stage : Target} (hsprite : target.isStage = false)
    (hstage : project.targets.find? Target.isStage = some stage)
    (hid : id ∈ stage.rawNames.map Prod.fst) : Declares project target id

/-- The tables of a target and of the stage bind their ids. -/
theorem exists_name?_of_declares {project : Project} {target : Target} {id : String}
    (h : project.Declares target id) :
    ∃ name, ((startScope target.isStage (project.visible target)).bindAll target.rawNames).name? id
      = some name := by
  cases h with
  | own hid => exact Scope.isSome_name?_bindAll _ hid
  | @inherited stage hsprite hstage hid =>
    obtain ⟨name, hname⟩ := Scope.isSome_name?_bindAll (Scope.new true) hid
    have hvisible : project.visible target = stage.globals := by
      unfold Project.visible Project.globals
      rw [hsprite, hstage]
      rfl
    have hstart : (startScope target.isStage (project.visible target)).name? id = some name := by
      rw [hvisible, startScope_eq, Target.globals_eq]
      exact hname
    exact ⟨name, (Scope.growsTo_bindAll _ _).name? hstart⟩

/-! ## Rules for the names in a statement -/

/-- The names of variables and lists that a statement writes follow two rules. A slot that refers to
a variable or list holds a name that `reads` allows, for the scope at that place and the id and the
raw name; and an assignment is written with a name that `assigns` allows for the id, in the scope
that the assignment leaves. -/
structure Statement.RefersBy (reads : Scope → Option String → String → String → Prop)
    (assigns : Scope → String → String → Prop) (statement : Statement) : Prop where
  slots_refer : List.Forall₂
    (fun slot argument => ∀ id raw, statement.block.Reads slot id raw →
      ∃ scope name, argument.scope? = some scope ∧ argument.text? = some name ∧
        reads scope id raw name)
    statement.form.slots statement.arguments
  assignment_refers : ∀ {field}, statement.form = .assignment field →
    ∃ name, statement.text = statement.assignmentWord field.variableId ++ name ++ " = " ++
        soleText (textsOf statement.arguments) ∧
      assigns (statement.after.bind field.variableId field.value).2 field.variableId name

/-- The rule for slots is about the name that stands in the slot, and the scope there. -/
theorem Statement.RefersBy.reads_of_text
    {reads : Scope → Option String → String → String → Prop}
    {assigns : Scope → String → String → Prop} {statement : Statement}
    (h : statement.RefersBy reads assigns) {pair : String × Argument}
    (hpair : pair ∈ statement.form.slots.zip statement.arguments) {id : Option String}
    {raw name : String} (hslot : statement.block.Reads pair.1 id raw)
    (htext : pair.2.text? = some name) :
    ∃ scope, pair.2.scope? = some scope ∧ reads scope id raw name := by
  obtain ⟨scope, written, hscope, hwritten, hrule⟩ :=
    List.forall₂_zip h.slots_refer hpair id raw hslot
  rw [htext] at hwritten
  cases hwritten
  exact ⟨scope, hscope, hrule⟩

/-- The rules hold of a drafted statement if they hold of what its scopes make of ids. -/
theorem Statement.Placed.refersBy {sources : Sources} {start : Scope} {statement : Statement}
    (hplaced : statement.Placed sources start) {p : Scope → Prop} (hsees : statement.Sees p)
    {reads : Scope → Option String → String → String → Prop}
    {assigns : Scope → String → String → Prop}
    (hreads : ∀ scope id raw, p scope → reads scope id raw (boundName scope id raw))
    (hassigns : ∀ scope id raw, p scope →
      assigns (scope.bind id raw).2 id (scope.bind id raw).1) :
    statement.RefersBy reads assigns := by
  obtain ⟨room, entered, hdrafted⟩ := hplaced
  have hfills := hdrafted.arguments_fill
  constructor
  · refine List.forall₂_iff_zip.2 ⟨hfills.length_eq, ?_⟩
    intro slot argument hpair id raw hslot
    obtain ⟨scope, hscope, htext⟩ := (List.forall₂_zip hfills hpair).boundName_of_reads hslot
    -- an argument saw the scope in which its reference was written
    have hseen := hsees.arguments argument (List.of_mem_zip hpair).2
    exact ⟨scope, _, hscope, htext, hreads scope id raw (hseen.scope? hscope)⟩
  · intro field hform
    exact ⟨_, Statement.text_of_form_assignment hform, hassigns _ _ _ hsees.after⟩

/-- The statements of a hat, its head included, are placed. -/
theorem EntryDraft.DraftedBy.allPlaced {sources : Sources} {room : Nat} {entered : List String}
    {start : Scope} {draft : EntryDraft}
    (h : draft.DraftedBy sources (draftAt sources room entered) start) :
    draft.AllWithin (Statement.Placed sources start) := by
  cases draft with
  | placeholder block => trivial
  | hat head body =>
    obtain ⟨-, hhead, hbody⟩ := h
    refine ⟨fun statement hwithin => ?_, fun statement hwithin => (hbody.placed hwithin).1⟩
    rcases Statement.within_cons hwithin with rfl | ⟨argument, hmem, hinner⟩ |
      ⟨nested, hmem, hinner⟩ | hnil
    · exact ⟨room, entered, hhead⟩
    · obtain ⟨slot, hfills⟩ := exists_fills_of_mem hhead.arguments_fill hmem
      exact ((hfills.gives.mono hhead.before_grown).placed hinner).1
    · exact (((hhead.bodies_given nested hmem).mono hhead.before_grown).placed hinner).1
    · exact absurd hnil Statement.not_within_nil

theorem EntryDraft.AllWithin.imp {q r t : Statement → Prop} {draft : EntryDraft}
    (hq : draft.AllWithin q) (hr : draft.AllWithin r) (h : ∀ s, q s → r s → t s) :
    draft.AllWithin t := by
  cases draft with
  | placeholder block => trivial
  | hat head body =>
    exact ⟨fun s hs => h s (hq.1 s hs) (hr.1 s hs), fun s hs => h s (hq.2 s hs) (hr.2 s hs)⟩

/-! ## Hats -/

/-- How a variable or list is read in the scripts of hats. If its id is bound where it stands, which
the ids from the tables are everywhere, its name is the one that is bound, and this name is
unambiguous. If its id is not bound, or it has none, it is written by its raw name. -/
structure Draft.ReadsProperly (draft : Draft) (project : Project) (target : Target) (scope : Scope)
    (id : Option String) (raw name : String) : Prop where
  declared_bound : ∀ {i}, project.Declares target i → scope.isDeclared i = true
  of_bound : ∀ i ∈ id, scope.isDeclared i = true →
    scope.name? i = some name ∧ draft.Unambiguous scope i name
  of_unbound : (∀ i ∈ id, scope.isDeclared i = false) → name = Identifier.ofRaw raw

/-- What the scope at a place of the scripts has: it grew from the one in which all procedures were
registered, and is hygienic. -/
structure Scope.HygienicFrom (start scope : Scope) : Prop where
  grown : start.GrowsTo scope
  hygienic : scope.Hygienic

theorem Session.Step.keeps_hygienicFrom {blocks : Dict String Block} {start : Scope} {a b : Session}
    (h : Session.Step blocks a b) (ha : start.HygienicFrom a.scope) :
    start.HygienicFrom b.scope := by
  refine ⟨ha.grown.trans (growsTo_of_step h), ?_⟩
  cases h with
  | note _ => exact ha.hygienic
  | bind _ _ _ _ => exact ha.hygienic.bind _ _

section Hats

variable {table : SignatureTable} {target : Target} {start : Scope} {declared registered : Session}
  {draft : Draft} (h : draft.Phases table target start declared registered)
include h

/-- In a hygienic scope a bound name belongs to its id. -/
theorem Draft.Phases.unambiguous {scope : Scope} (hscope : registered.scope.HygienicFrom scope)
    {id name : String} (hname : scope.name? id = some name) : draft.Unambiguous scope id name where
  not_reserved := (hscope.hygienic.binding_proper hname).not_reserved
  not_written := by
    intro p hp
    obtain ⟨-, proccode, hprocedure⟩ := h.registered_of_header hp
    rw [← hscope.grown.procedure? proccode] at hprocedure
    exact (hscope.hygienic.disjoint hname hprocedure).symm
  not_known := by
    intro proccode procedure hprocedure
    exact (hscope.hygienic.disjoint hname hprocedure).symm
  not_other := by
    intro other hother
    exact hscope.hygienic.binding_injective hother hname

theorem Draft.Phases.readsProperly {project : Project}
    (hstart : start = startScope target.isStage (project.visible target)) {scope : Scope}
    (hscope : registered.scope.HygienicFrom scope) (id : Option String) (raw : String) :
    draft.ReadsProperly project target scope id raw (boundName scope id raw) where
  declared_bound := by
    intro i hi
    obtain ⟨name, hname⟩ := exists_name?_of_declares hi
    rw [← hstart, ← h.declared_scope] at hname
    -- the registration of procedures leaves the bindings alone, and then the scope only grows
    have hregistered : registered.scope.name? i = some name := by
      unfold Scope.name?
      rw [bindings_predeclareAll h.registers]
      exact hname
    rw [Scope.isDeclared_eq_isSome, hscope.grown.name? hregistered]
    rfl
  of_bound := by
    rintro i ⟨⟩ hbound
    rw [Scope.isDeclared_eq_isSome] at hbound
    obtain ⟨name, hname⟩ := Option.isSome_iff_exists.1 hbound
    rw [boundName_of_name? hname]
    exact ⟨hname, h.unambiguous hscope hname⟩
  of_unbound := by
    intro hunbound
    cases id with
    | none => rfl
    | some i =>
      have hnone := hunbound i rfl
      rw [Scope.isDeclared_eq_isSome, Option.isSome_eq_false_iff, Option.isNone_iff_eq_none]
        at hnone
      simp [boundName, hnone]

end Hats

/-- In the scripts of the hats of a target, every variable or list is read by a name that denotes it
and nothing else, if its id is bound at that place, and by its raw name if it is not; the tables of
the target and of the stage bind their ids everywhere. Every assignment is to a name that denotes
its variable and nothing else. Menus are written as literals, whatever their fields go with. -/
theorem references_denote_their_ids {table : SignatureTable} {project : Project} {target : Target}
    {script : Script}
    (h : Script.ofTarget table target (project.visible target) = .ok script) :
    ∃ draft finish,
      draftTarget table target ⟨startScope target.isStage (project.visible target), []⟩ =
        .ok draft finish ∧
      script.source = draft.source ∧
      ∀ e ∈ draft.entries,
        e.AllWithin (Statement.RefersBy (draft.ReadsProperly project target)
          fun scope id name => scope.name? id = some name ∧ draft.Unambiguous scope id name) ∧
        ∀ lines ∈ e.scripts, AllWithin Statement.MenuQuoted lines := by
  obtain ⟨draft, finish, hdraft, hsource⟩ := ofTarget_eq_ok h
  obtain ⟨declared, registered, hcourse⟩ := course_of_draftTarget hdraft
  have hphases := hcourse.phases
  -- scripts start in the hygienic scope of the registration and only add fresh names
  have hregistered : registered.scope.HygienicFrom registered.scope :=
    ⟨Scope.GrowsTo.refl _, (hphases.hygienic (hygienic_startScope project target)).2⟩
  have hsees := hcourse.allWithin_entries Session.Step.keeps_hygienicFrom
    (draftsAs_sees Session.Step.keeps_hygienicFrom) hregistered
  refine ⟨draft, finish, hdraft, hsource, ?_⟩
  intro e he
  have hdrafted := hphases.entries_drafted e he
  refine ⟨hdrafted.allPlaced.imp (hsees e he) fun statement hstatement hseen =>
    hstatement.refersBy hseen ?_ ?_, ?_⟩
  · intro scope id raw hscope
    exact hphases.readsProperly rfl hscope id raw
  · intro scope id raw hscope
    have hname := Scope.name?_bind_self scope id raw
    -- the binding may be new, and then it is fresh as well
    have hbound : registered.scope.HygienicFrom (scope.bind id raw).2 :=
      ⟨hscope.grown.trans (Scope.growsTo_bind scope id raw), hscope.hygienic.bind id raw⟩
    exact ⟨hname, hphases.unambiguous hbound hname⟩
  · intro lines hlines statement hwithin
    rcases hdrafted.placed hlines hwithin with ⟨-, headOnly, hformed⟩
    exact hformed.menuQuoted

/-- A block that says the value of a variable, with a link to the next one. -/
def sayVariable (key raw id : String) (next : Option String) : String × Block :=
  (key, ⟨key, "looks_say", next, Dict.ofList [("MESSAGE", .literal ⟨.variableName, raw, some id⟩)],
    .empty, false, false, none⟩)

/-- A target with a variable `score` and a procedure `jump`. Its hat says variables that nothing
binds, with the raw names `if`, `jump` and `score`, and then the variable that is declared. -/
def stray : Target where
  name := "Stray"
  isStage := false
  blocks := Dict.ofList [
    ("def", ⟨"def", "procedures_definition", none, Dict.ofList [("custom_block", .block "type")],
      .empty, false, true, none⟩),
    ("type", ⟨"type", "procedures_prototype", none, .empty, .empty, true, false,
      some ⟨some "jump", some "[]", some "[]", false⟩⟩),
    ("flag", ⟨"flag", "event_whenflagclicked", some "word", .empty, .empty, false, true, none⟩),
    sayVariable "word" "if" "u" (some "call"),
    sayVariable "call" "jump" "w" (some "twin"),
    sayVariable "twin" "score" "x" (some "own"),
    sayVariable "own" "score" "v" none]
  vars := Dict.ofList [("v", ⟨"score", .number (.whole 0)⟩)]
  lists := .empty
  costumes := []
  sounds := []

/-- A project with this target alone. -/
def strayProject : Project := ⟨[stray], [], .empty⟩

def strayScript : Script :=
  ⟨"Stray", false, Layout.stack [header,
    "var score = 0",
    "fn jump() \x7b", "", "\x7d",
    "event_whenflagclicked() \x7b",
    "\tlooks_say(if)", "\tlooks_say(jump)", "\tlooks_say(score)", "\tlooks_say(score)",
    "\x7d"], []⟩

/-- The references of the hat to variables that nothing binds: ids, and the names that they are
written with. -/
def strayReferences : List (String × String) := [("u", "if"), ("w", "jump"), ("x", "score")]

/-- The three variables that nothing binds are read by a reserved word, by the name of the procedure
and by the name of the declared variable. -/
theorem stray_references_denote_others :
    Script.ofTarget sayTable stray (strayProject.visible stray) = .ok strayScript ∧
    ∃ draft finish,
      draftTarget sayTable stray ⟨startScope stray.isStage (strayProject.visible stray), []⟩ =
        .ok draft finish ∧
      strayScript.source = draft.source ∧
      ∀ r ∈ strayReferences, ∃ e ∈ draft.entries, ∃ lines ∈ e.scripts, ∃ s ∈ lines,
        s.block.Reads "MESSAGE" (some r.1) r.2 ∧ s.text = callText "looks_say" [some r.2] ∧
        ¬ s.RefersBy (fun scope id _ name => ∀ i ∈ id, draft.Unambiguous scope i name)
          (fun _ _ _ => True) := by
  have hscript : Script.ofTarget sayTable stray (strayProject.visible stray) = .ok strayScript := by
    decide +kernel
  have hfacts : (match draftTarget sayTable stray
        ⟨startScope stray.isStage (strayProject.visible stray), []⟩ with
      | .ok draft _ => decide (
        (∃ p ∈ draft.procedures, p.procedure.name = "jump") ∧
        ∀ r ∈ strayReferences, ∃ e ∈ draft.entries, ∃ lines ∈ e.scripts, ∃ s ∈ lines,
          s.block.inputs.get? "MESSAGE" = some (.literal ⟨.variableName, r.2, some r.1⟩) ∧
          s.text = callText "looks_say" [some r.2] ∧
          ∃ pair ∈ s.form.slots.zip s.arguments, pair.1 = "MESSAGE" ∧ pair.2.text? = some r.2 ∧
            (pair.2.scope?.bind fun scope => scope.name? "v") = some "score")
      | .error _ _ => false) = true := by
    decide +kernel
  obtain ⟨draft, finish, hdraft, hsource⟩ := ofTarget_eq_ok hscript
  rw [hdraft] at hfacts
  obtain ⟨⟨jump, hjump, hjumps⟩, hreferences⟩ := of_decide_eq_true hfacts
  refine ⟨hscript, draft, finish, hdraft, hsource, ?_⟩
  intro r hr
  obtain ⟨e, he, lines, hlines, s, hs, hinput, htext, pair, hpair, hslot, hname, hscore⟩ :=
    hreferences r hr
  have hreads : s.block.Reads "MESSAGE" (some r.1) r.2 := .literal hinput (.inl rfl)
  refine ⟨e, he, lines, hlines, s, hs, hreads, htext, fun hrefers => ?_⟩
  obtain ⟨scope, hscope, hrule⟩ := hrefers.reads_of_text hpair (hslot ▸ hreads) hname
  -- if each of them were unambiguous, its name would be free of all three uses
  have hunambiguous : draft.Unambiguous scope r.1 r.2 := hrule r.1 rfl
  have hdeclared : scope.name? "v" = some "score" := by
    rw [hscope] at hscore
    exact hscore
  simp only [strayReferences, List.mem_cons, List.not_mem_nil, or_false] at hr
  -- a reserved word, the name of a procedure, and the name of the declared variable
  rcases hr with rfl | rfl | rfl
  · exact hunambiguous.not_reserved (by decide)
  · exact hunambiguous.not_written jump hjump hjumps
  · exact absurd (hunambiguous.not_other hdeclared) (by decide)

/-- The last statement of the hat reads the declared variable, by the name that is its own. -/
theorem stray_reference_denotes_its_id :
    Script.ofTarget sayTable stray (strayProject.visible stray) = .ok strayScript ∧
    strayProject.Declares stray "v" ∧
    ∃ draft finish,
      draftTarget sayTable stray ⟨startScope stray.isStage (strayProject.visible stray), []⟩ =
        .ok draft finish ∧
      strayScript.source = draft.source ∧
      ∀ e ∈ draft.entries,
        e.AllWithin (Statement.RefersBy (draft.ReadsProperly strayProject stray)
          fun scope id name => scope.name? id = some name ∧ draft.Unambiguous scope id name) ∧
        ∀ lines ∈ e.scripts, AllWithin Statement.MenuQuoted lines := by
  have hscript : Script.ofTarget sayTable stray (strayProject.visible stray) = .ok strayScript := by
    decide +kernel
  have hdeclares : strayProject.Declares stray "v" := .own (by decide)
  exact ⟨hscript, hdeclares, references_denote_their_ids hscript⟩

end BlockScribe
