import BlockScribe.Proofs.Target.Globals
import BlockScribe.Proofs.Target.Scopes

/-! # Parameters and variables in the body of a procedure

The body of a procedure starts with the names of the target and, on top of them, those of the
parameters, which come from their raw names alone. What a body binds itself gets a name that no
other name of the body equals. So a variable or list that is no argument of the procedure is
written like a parameter in two cases only: the target bound it to that very name before the
parameters came in, or it is read where nothing binds it, and its raw name gives that of the
parameter. A variable or list that is selected in a menu is written in quotes, and so like no
parameter.

* `Scope.GrowsFreshTo`: a scope grew, and names that joined it are new.
* `Statement.Obeys`: the names of variables and lists in a statement follow rules.
* `parameters_are_spared`: how names in a body may be those of parameters.
-/

namespace BlockScribe

open Script

/-! ## Fresh names -/

/-- A scope that another one grew into, with names that the other one did not have. -/
structure Scope.GrowsFreshTo (start scope : Scope) : Prop extends start.GrowsTo scope where
  fresh : ∀ {id name : String}, scope.name? id = some name →
    start.name? id = some name ∨ name ∉ start.names

theorem Scope.GrowsFreshTo.refl (scope : Scope) : scope.GrowsFreshTo scope :=
  ⟨Scope.GrowsTo.refl scope, fun hname => .inl hname⟩

theorem Scope.GrowsFreshTo.bind {start scope : Scope} (h : start.GrowsFreshTo scope)
    (id raw : String) : start.GrowsFreshTo (scope.bind id raw).2 := by
  refine ⟨h.toGrowsTo.trans (Scope.growsTo_bind scope id raw), ?_⟩
  intro other name hname
  cases hid : scope.name? id with
  | some bound =>
    rw [Scope.bind_of_name? hid] at hname
    exact h.fresh hname
  | none =>
    rw [Scope.bind_of_unbound hid, Scope.name?_inherit] at hname
    split at hname
    · -- the name is fresh against all that the scope has, so against what it started with
      cases hname
      exact .inr fun hmem =>
        Scope.freshName_not_mem_names scope _ (h.toGrowsTo.mem_names hmem)
    · exact h.fresh hname

theorem growsFreshTo_of_step {blocks : Dict String Block} {start : Scope} {a b : Session}
    (h : Session.Step blocks a b) (ha : start.GrowsFreshTo a.scope) :
    start.GrowsFreshTo b.scope := by
  cases h with
  | note _ => exact ha
  | bind _ _ _ _ => exact ha.bind _ _

/-! ## Names in a statement -/

/-- A slot of a block refers to a variable or list, with or without an id, under a raw name. -/
inductive Block.Reads (block : Block) (slot : String) : Option String → String → Prop
  | literal {literal : Literal} (hinput : block.inputs.get? slot = some (.literal literal))
    (hkind : literal.kind = .variableName ∨ literal.kind = .listName) :
    Reads block slot literal.id literal.value
  | field {field : Field} (hinput : block.inputs.get? slot = none)
    (hfield : block.fields.get? slot = some field)
    (hslot : slot = variableSlot ∨ slot = "LIST") : Reads block slot field.id field.value

/-- The scope that an argument was written in. -/
def Argument.scope? : Argument → Option Scope
  | .literal scope _ => some scope
  | .field scope _ _ => some scope
  | _ => none

theorem Argument.Sees.scope? {p : Scope → Prop} {argument : Argument} (h : argument.Sees p)
    {scope : Scope} (hscope : argument.scope? = some scope) : p scope := by
  cases argument with
  | literal _ _ =>
    cases hscope
    exact h
  | field _ _ _ =>
    cases hscope
    exact h
  | script _ => cases hscope
  | absent => cases hscope

/-- The word in front of an assignment to an id: the first one declares the id. -/
def Statement.assignmentWord (statement : Statement) (id : String) : String :=
  if statement.before.isDeclared id then "" else declarationWord statement.after.isStage

/-- The names of variables and lists that a statement writes follow two rules. A slot that refers
to a variable or list holds a name that `reads` allows, for the scope at that place and the id and
the raw name; and if the statement assigns to a variable, it does so by a name that `assigns`
allows for the id. -/
structure Statement.Obeys (reads : Scope → Option String → String → String → Prop)
    (assigns : String → String → Prop) (statement : Statement) : Prop where
  slots_obey : List.Forall₂
    (fun slot argument => ∀ id raw, statement.block.Reads slot id raw →
      ∃ scope name, argument.scope? = some scope ∧ argument.text? = some name ∧
        reads scope id raw name)
    statement.form.slots statement.arguments
  assignment_obeys : statement.block.opcode = "data_setvariableto" →
    ∀ field, statement.block.fields.get? variableSlot = some field →
      ∃ name, statement.text = statement.assignmentWord field.variableId ++ name ++ " = " ++
          soleText (textsOf statement.arguments) ∧
        assigns field.variableId name

section Obeys

variable {reads : Scope → Option String → String → String → Prop}
  {assigns : String → String → Prop} {statement : Statement}
  (h : statement.Obeys reads assigns)
include h

/-- The rule for slots is about the name that stands in the slot. -/
theorem Statement.Obeys.reads_of_text {pair : String × Argument}
    (hpair : pair ∈ statement.form.slots.zip statement.arguments) {id : Option String}
    {raw name : String} (hreads : statement.block.Reads pair.1 id raw)
    (htext : pair.2.text? = some name) : ∃ scope, reads scope id raw name := by
  rcases List.forall₂_zip h.slots_obey hpair id raw hreads with ⟨scope, written, -, hwritten, hrule⟩
  rw [htext] at hwritten
  cases hwritten
  exact ⟨scope, hrule⟩

/-- The rule for assignments is about the name in front of the sign. -/
theorem Statement.Obeys.assigns_of_text (hopcode : statement.block.opcode = "data_setvariableto")
    {field : Field} (hfield : statement.block.fields.get? variableSlot = some field)
    {name : String}
    (htext : statement.text = statement.assignmentWord field.variableId ++ name ++ " = " ++
      soleText (textsOf statement.arguments)) : assigns field.variableId name := by
  rcases h.assignment_obeys hopcode field hfield with ⟨written, hwritten, hrule⟩
  rw [htext, String.append_left_inj, String.append_left_inj, String.append_right_inj] at hwritten
  rw [hwritten]
  exact hrule

end Obeys

/-- A slot that refers to a variable or list holds what the scope at its place makes of it. -/
theorem Argument.Fills.boundName_of_reads {drafting : Drafting} {block : Block} {start : Scope}
    {slot : String} {argument : Argument} (h : argument.Fills drafting block start slot)
    {id : Option String} {raw : String} (hreads : block.Reads slot id raw) :
    ∃ scope, argument.scope? = some scope ∧ argument.text? = some (boundName scope id raw) := by
  rcases h with ⟨session, after, -, hrun⟩
  -- both kinds of references are written in the scope that the argument saw
  cases hreads with
  | literal hinput hkind =>
    rw [draftSlot_of_literal hinput] at hrun
    cases hrun
    refine ⟨session.scope, rfl, ?_⟩
    unfold Argument.text? literalText?
    rcases hkind with hvariable | hlist
    · rw [hvariable]
    · rw [hlist]
  | field hinput hfield hslot =>
    rw [draftSlot_of_field hinput hfield] at hrun
    cases hrun
    refine ⟨session.scope, rfl, ?_⟩
    unfold Argument.text? fieldText
    rw [if_pos hslot]

/-- An assignment is written with the name that the scope behind its arguments gives the id. -/
theorem Statement.text_of_form_assignment {statement : Statement} {field : Field}
    (hform : statement.form = .assignment field) :
    statement.text = statement.assignmentWord field.variableId ++
      (statement.after.bind field.variableId field.value).1 ++ " = " ++
      soleText (textsOf statement.arguments) := by
  cases statement with
  | mk block form before arguments after bodies =>
    cases hform
    unfold Statement.text Statement.assignmentWord
    rfl

/-- The rules hold of a drafted statement if they hold of what its scopes make of ids. -/
theorem Statement.Placed.obeys {sources : Sources} {start : Scope} {statement : Statement}
    (hplaced : statement.Placed sources start) {headOnly : Bool}
    (hformed : statement.IsFormed sources.table headOnly) {p : Scope → Prop}
    (hsees : statement.Sees p)
    {reads : Scope → Option String → String → String → Prop} {assigns : String → String → Prop}
    (hreads : ∀ scope id raw, p scope → reads scope id raw (boundName scope id raw))
    (hassigns : ∀ scope id raw, p scope → assigns id (scope.bind id raw).1) :
    statement.Obeys reads assigns := by
  rcases hplaced with ⟨room, entered, hdrafted⟩
  constructor
  · have hfills := hdrafted.arguments_fill
    refine List.forall₂_iff_zip.2 ⟨hfills.length_eq, ?_⟩
    intro slot argument hpair id raw hslot
    rcases (List.forall₂_zip hfills hpair).boundName_of_reads hslot with ⟨scope, hscope, htext⟩
    -- each argument saw a scope with the property, and was written in it
    have hseen := hsees.arguments argument (List.of_mem_zip hpair).2
    exact ⟨scope, _, hscope, htext, hreads scope id raw (hseen.scope? hscope)⟩
  · intro hopcode field hfield
    -- the assignment takes its name in the scope behind the value
    have hform := Eq.trans hformed
      (Block.form_of_assignment hopcode hfield sources.table statement.before headOnly)
    exact ⟨_, Statement.text_of_form_assignment hform, hassigns _ _ _ hsees.after⟩

/-! ## Parameters -/

/-- A name that a body sees as that of a parameter: where several parameters share an id, the last
of them gives the id its name. -/
def Procedure.HasParameter (procedure : Procedure) (name : String) : Prop :=
  ∃ id, (Dict.ofList (parameters procedure)).get? id = some name

/-- Names that are taken over are found, the last one for each id. -/
theorem name?_inherited_of_get? {names : List (String × String)} {id name : String}
    (h : (Dict.ofList names).get? id = some name) (scope : Scope) :
    (inherited names scope).name? id = some name := by
  -- the table and the scope take over the names side by side
  have hfold : ∀ (names : List (String × String)) (d : Dict String String) (scope : Scope),
      (∀ {id name}, d.get? id = some name → scope.name? id = some name) →
      ∀ {id name}, (names.foldl (fun d e => d.insert e.1 e.2) d).get? id = some name →
        (inherited names scope).name? id = some name := by
    intro names
    induction names with
    | nil => exact fun d scope hd => hd
    | cons e rest ih =>
      intro d scope hd
      refine ih (d.insert e.1 e.2) (scope.inherit e.1 e.2) ?_
      intro id name hname
      rw [Dict.get?_insert] at hname
      rw [Scope.name?_inherit]
      split
      · rwa [if_pos ‹_›] at hname
      · rw [if_neg ‹_›] at hname
        exact hd hname
  exact hfold names .empty scope (fun hnone => by cases hnone) h

section Body

variable {procedure : Procedure} {outside scope : Scope}
  (hscope : (inherited (parameters procedure) outside).GrowsFreshTo scope)
include hscope

/-- In a body, an id that is no argument has the name of a parameter only if it had that name
outside. -/
theorem name?_outside_of_hasParameter {id name : String} (hid : id ∉ procedure.arguments)
    (hname : scope.name? id = some name) (hparameter : procedure.HasParameter name) :
    outside.name? id = some name := by
  rcases hparameter with ⟨other, hother⟩
  have hmem := Scope.mem_names_of_name? (name?_inherited_of_get? hother outside)
  rcases hscope.fresh hname with hstart | hnew
  · rwa [name?_inherited_of_not_mem fun h => hid (mem_arguments_of_mem_parameters h)] at hstart
  · exact absurd hmem hnew

/-- Such an id is read under the name of a parameter only if it had that name outside, or if
nothing binds it and its raw name is the same. -/
theorem boundName_of_hasParameter {id : Option String} {raw : String}
    (hid : ∀ i ∈ id, i ∉ procedure.arguments)
    (hparameter : procedure.HasParameter (boundName scope id raw)) :
    (∃ i ∈ id, outside.name? i = some (boundName scope id raw)) ∨
      (∀ i ∈ id, scope.name? i = none) ∧ boundName scope id raw = Identifier.ofRaw raw := by
  cases id with
  | none => exact .inr ⟨fun i hi => absurd hi (Option.not_mem_none i), rfl⟩
  | some i =>
    -- a bound id is written as its name, so the parameter has the name of a binding
    cases hname : scope.name? i with
    | none =>
      refine .inr ⟨?_, ?_⟩
      · rintro _ ⟨⟩
        exact hname
      · simp [boundName, hname]
    | some name =>
      rw [boundName_of_name? hname] at hparameter ⊢
      exact .inl ⟨i, rfl, name?_outside_of_hasParameter hscope (hid i rfl) hname hparameter⟩

/-- Such an id is assigned to under the name of a parameter only if it had that name outside. -/
theorem bind_of_hasParameter {id raw : String} (hid : id ∉ procedure.arguments)
    (hparameter : procedure.HasParameter (scope.bind id raw).1) :
    outside.name? id = some (scope.bind id raw).1 :=
  name?_outside_of_hasParameter (hscope.bind id raw) hid (Scope.name?_bind_self scope id raw)
    hparameter

end Body

/-- No variable or list in the statement, if it is no argument of the procedure, is written like
one of its parameters. -/
def Statement.AvoidsParameters (procedure : Procedure) : Statement → Prop :=
  Statement.Obeys
    (fun _ id _ name => (∀ i ∈ id, i ∉ procedure.arguments) →
      name ∉ (parameters procedure).map Prod.snd)
    (fun id name => id ∉ procedure.arguments → name ∉ (parameters procedure).map Prod.snd)

/-- A variable or list in the statement, if it is no argument of the procedure, is written like a
parameter that the body sees in two cases only: the scope outside of the procedure gives its id
that very name, or it is read where its id is not bound, and its raw name gives that of the
parameter. -/
def Statement.SparesParameters (procedure : Procedure) (outside : Scope) : Statement → Prop :=
  Statement.Obeys
    (fun scope id raw name => (∀ i ∈ id, i ∉ procedure.arguments) →
      procedure.HasParameter name →
      (∃ i ∈ id, outside.name? i = some name) ∨
        (∀ i ∈ id, scope.name? i = none) ∧ name = Identifier.ofRaw raw)
    (fun id name => id ∉ procedure.arguments → procedure.HasParameter name →
      outside.name? id = some name)

/-- If the statement is a menu, it is written in quotes and not like a parameter, also where its
field goes with a variable or list. -/
def Statement.MenuSparesParameters (procedure : Procedure) (statement : Statement) : Prop :=
  statement.block.IsMenu →
    statement.text = Quoted.quote ((statement.block.firstField?.map Field.value).getD "") ∧
      statement.text ∉ (parameters procedure).map Prod.snd

/-- A quoted text is no name. -/
theorem not_isBare_quote (text : String) : ¬ Identifier.IsBare (Quoted.quote text) := by
  intro hbare
  have hquote : '"' ∈ (Quoted.quote text).toList := by
    simp [Quoted.quote, Quoted.encode]
  exact absurd (hbare.isPart _ hquote) (by decide +kernel)

theorem Statement.MenuQuoted.sparesParameters {statement : Statement}
    (h : statement.MenuQuoted) (procedure : Procedure) :
    statement.MenuSparesParameters procedure := by
  intro hmenu
  refine ⟨h hmenu, ?_⟩
  rw [h hmenu]
  intro hmem
  rcases List.mem_map.1 hmem with ⟨parameter, hparameter, hname⟩
  exact not_isBare_quote _ (hname ▸ isBare_of_mem_parameters hparameter)

/-- In the body of a procedure of a target, a variable or list that is no argument of the procedure
is written like a parameter only if the names of the stage and the declarations of the target give
it that very name, or if it is read where it is not bound. What is selected in a menu is not written
like a parameter at all. -/
theorem parameters_are_spared {table : SignatureTable} {target : Target}
    {globals : Dict String String} {script : Script}
    (h : Script.ofTarget table target globals = .ok script) :
    ∃ draft finish,
      draftTarget table target ⟨startScope target.isStage globals, []⟩ = .ok draft finish ∧
      script.source = draft.source ∧
      ∀ p ∈ draft.procedures, AllWithin
        (fun s => s.SparesParameters p.procedure
            ((startScope target.isStage globals).bindAll target.rawNames) ∧
          s.MenuSparesParameters p.procedure)
        p.body := by
  rcases ofTarget_eq_ok h with ⟨draft, finish, hdraft, hsource⟩
  rcases course_of_draftTarget hdraft with ⟨declared, registered, hcourse⟩
  have hphases := hcourse.phases
  -- the registration of procedures leaves the declared names as they are
  have houtside : ∀ id, registered.scope.name? id =
      ((startScope target.isStage globals).bindAll target.rawNames).name? id := by
    intro id
    unfold Scope.name?
    rw [bindings_predeclareAll hphases.registers, hphases.declared_scope]
  refine ⟨draft, finish, hdraft, hsource, ?_⟩
  intro p hp statement hwithin
  let start := inherited (parameters p.procedure) registered.scope
  have hsees : statement.Sees start.GrowsFreshTo :=
    hcourse.allWithin_body growsFreshTo_of_step (draftsAs_sees growsFreshTo_of_step) hp
      (Scope.GrowsFreshTo.refl start) statement hwithin
  rcases (hphases.bodies_given p hp).placed hwithin with ⟨hplaced, headOnly, -, hformed⟩
  refine ⟨hplaced.obeys hformed hsees ?_ ?_, hformed.menuQuoted.sparesParameters p.procedure⟩
  · intro scope id raw hscope hid hparameter
    simp only [← houtside]
    exact boundName_of_hasParameter hscope hid hparameter
  · intro scope id raw hscope hid hparameter
    rw [← houtside]
    exact bind_of_hasParameter hscope hid hparameter

/-- The definition of a procedure, with its prototype and an assignment for a body. -/
def assigningProcedure (key proccode arguments names : String) (field : Field) (value : Input) :
    List (String × Block) := [
  (key, ⟨key, "procedures_definition", some (key ++ " body"),
    Dict.ofList [("custom_block", .block (key ++ " type"))], .empty, false, true, none⟩),
  (key ++ " type", ⟨key ++ " type", "procedures_prototype", none, .empty, .empty, true, false,
    some ⟨some proccode, some arguments, some names, false⟩⟩),
  (key ++ " body", ⟨key ++ " body", "data_setvariableto", none, Dict.ofList [("VALUE", value)],
    Dict.ofList [("VARIABLE", field)], false, false, none⟩)]

/-- A target with a variable `x`. Its procedures assign to that variable where a parameter has the
same name, read a variable that nothing binds where a parameter has its name, bind a variable where
the first of two parameters with one id has its name, and bind one where the only parameter has. -/
def mimic : Target where
  name := "Mimic"
  isStage := false
  blocks := Dict.ofList
    (assigningProcedure "echo" "echo %s" "[\"a\"]" "[\"x\"]" ⟨"x", some "v"⟩
        (.literal ⟨.number, "1", none⟩) ++
      assigningProcedure "guess" "guess %s" "[\"b\"]" "[\"y\"]" ⟨"x", some "v"⟩
        (.literal ⟨.variableName, "y", some "w"⟩) ++
      assigningProcedure "twice" "twice %s %s" "[\"c\",\"c\"]" "[\"z\",\"t\"]" ⟨"z", some "u"⟩
        (.literal ⟨.number, "1", none⟩) ++
      assigningProcedure "keep" "keep %s" "[\"d\"]" "[\"k\"]" ⟨"k", some "n"⟩
        (.literal ⟨.number, "1", none⟩))
  vars := Dict.ofList [("v", ⟨"x", .number (.whole 0)⟩)]
  lists := .empty
  costumes := []
  sounds := []

def mimicScript : Script :=
  ⟨"Mimic", false, Layout.stack [header,
    "var x = 0",
    "fn echo(x) \x7b", "\tx = 1", "\x7d",
    "fn guess(y) \x7b", "\tx = y", "\x7d",
    "fn twice(z, t) \x7b", "\tvar z = 1", "\x7d",
    "fn keep(k) \x7b", "\tvar k_ = 1", "\x7d"], []⟩

/-- In three of the procedures a variable that is no argument is written like a parameter. -/
theorem mimic_variables_are_captured :
    Script.ofTarget .empty mimic .empty = .ok mimicScript ∧
    ∃ draft finish,
      draftTarget .empty mimic ⟨startScope mimic.isStage .empty, []⟩ = .ok draft finish ∧
      mimicScript.source = draft.source ∧
      ∀ name ∈ ["echo", "guess", "twice"], ∃ p ∈ draft.procedures, p.procedure.name = name ∧
        ¬ AllWithin (Statement.AvoidsParameters p.procedure) p.body := by
  have hscript : Script.ofTarget .empty mimic .empty = .ok mimicScript := by
    decide +kernel
  -- the draft is computed once; what it shows of the three procedures is decided on it
  have hfacts : (match draftTarget .empty mimic ⟨startScope mimic.isStage .empty, []⟩ with
      | .ok draft _ => decide (
        (∃ p ∈ draft.procedures, p.procedure = ⟨"echo", "echo", ["a"], ["x"], false⟩ ∧
          ∃ s ∈ p.body, s.block.opcode = "data_setvariableto" ∧
            s.block.fields.get? variableSlot = some ⟨"x", some "v"⟩ ∧
            s.text = s.assignmentWord "v" ++ "x" ++ " = " ++ soleText (textsOf s.arguments)) ∧
        (∃ p ∈ draft.procedures, p.procedure = ⟨"guess", "guess", ["b"], ["y"], false⟩ ∧
          ∃ s ∈ p.body, s.block.inputs.get? "VALUE" =
              some (.literal ⟨.variableName, "y", some "w"⟩) ∧
            ∃ pair ∈ s.form.slots.zip s.arguments, pair.1 = "VALUE" ∧ pair.2.text? = some "y") ∧
        ∃ p ∈ draft.procedures, p.procedure = ⟨"twice", "twice", ["c", "c"], ["z", "t"], false⟩ ∧
          ∃ s ∈ p.body, s.block.opcode = "data_setvariableto" ∧
            s.block.fields.get? variableSlot = some ⟨"z", some "u"⟩ ∧
            s.text = s.assignmentWord "u" ++ "z" ++ " = " ++ soleText (textsOf s.arguments))
      | .error _ _ => false) = true := by
    decide +kernel
  rcases ofTarget_eq_ok hscript with ⟨draft, finish, hdraft, hsource⟩
  rw [hdraft] at hfacts
  rcases of_decide_eq_true hfacts with
    ⟨⟨echo, hecho, hechois, set, hset, hsets, hsetsto, hsettext⟩,
      ⟨guess, hguess, hguessis, read, hread, hreads, pair, hpair, hslot, hpairtext⟩,
      twice, htwice, htwiceis, first, hfirst, hfirsts, hfirststo, hfirsttext⟩
  refine ⟨hscript, draft, finish, hdraft, hsource, ?_⟩
  simp only [List.forall_mem_cons]
  refine ⟨⟨echo, hecho, by rw [hechois], ?_⟩, ⟨guess, hguess, by rw [hguessis], ?_⟩,
    ⟨twice, htwice, by rw [htwiceis], ?_⟩, List.forall_mem_nil _⟩
  · intro hall
    have hrule := (hall set (.line hset)).assigns_of_text hsets hsetsto hsettext
    rw [hechois] at hrule
    exact hrule (by decide) (by decide)
  · intro hall
    -- in the second one the value is read, not assigned
    have hnamed : read.block.Reads pair.1 (some "w") "y" := by
      rw [hslot]
      exact .literal hreads (.inl rfl)
    rcases (hall read (.line hread)).reads_of_text hpair hnamed hpairtext with ⟨scope, hrule⟩
    rw [hguessis] at hrule
    exact hrule (by decide) (by decide)
  · intro hall
    have hrule := (hall first (.line hfirst)).assigns_of_text hfirsts hfirststo hfirsttext
    rw [htwiceis] at hrule
    exact hrule (by decide) (by decide)

/-- In the fourth procedure the variable gets a name of its own. -/
theorem mimic_parameter_is_spared :
    Script.ofTarget .empty mimic .empty = .ok mimicScript ∧
    ∃ draft finish,
      draftTarget .empty mimic ⟨startScope mimic.isStage .empty, []⟩ = .ok draft finish ∧
      mimicScript.source = draft.source ∧
      ∃ p ∈ draft.procedures, p.procedure = ⟨"keep", "keep", ["d"], ["k"], false⟩ ∧
        p.body.map Statement.text = ["var k_ = 1"] ∧
        AllWithin
          (fun s => s.SparesParameters p.procedure
              ((startScope mimic.isStage .empty).bindAll mimic.rawNames) ∧
            s.MenuSparesParameters p.procedure)
          p.body := by
  have hscript : Script.ofTarget .empty mimic .empty = .ok mimicScript := by
    decide +kernel
  have hkeep : (match draftTarget .empty mimic ⟨startScope mimic.isStage .empty, []⟩ with
      | .ok draft _ => decide (∃ p ∈ draft.procedures,
          p.procedure = ⟨"keep", "keep", ["d"], ["k"], false⟩ ∧
          p.body.map Statement.text = ["var k_ = 1"])
      | .error _ _ => false) = true := by
    decide +kernel
  rcases parameters_are_spared hscript with ⟨draft, finish, hdraft, hsource, hspared⟩
  rw [hdraft] at hkeep
  rcases of_decide_eq_true hkeep with ⟨p, hp, hprocedure, htexts⟩
  exact ⟨hscript, draft, finish, hdraft, hsource, p, hp, hprocedure, htexts, hspared p hp⟩

end BlockScribe
