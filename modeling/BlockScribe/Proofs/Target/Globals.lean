import BlockScribe.Proofs.Attempts
import BlockScribe.Proofs.Emission.References
import BlockScribe.Proofs.Target.Draft
import BlockScribe.Proofs.Target.Registration

/-! # Stage and sprites agree on the names of the stage

The names of a stage's variables and lists are computed twice: once for the sprites, by binding
the ids alone, and once on the stage itself, where the declarations bind them while they are
written. Both are the same sequence of bindings, so the stage's own scope starts its scripts with
the names that the sprites take over. From there on scopes only grow, and a bound id keeps its
name: every reference to it, in every script of the stage and of every sprite, is written with
that name. The one exception are bodies of procedures with a parameter of the same id, which
hides the variable. A menu is no reference, even if its field goes with the id: what is selected in
it is written in quotes.

* `Draft.Names`: all references to an id in a target are written with a name.
* `Draft.Phases.names`: they are so for every id that has the name when the scripts start.
-/

namespace BlockScribe

open Script

/-! ## Names all over a target -/

/-- All references to the id in the script of a hat and in its head are written with the name, and
the menus of the script as literals. -/
def EntryDraft.Names (id name : String) : EntryDraft → Prop
  | .hat head body => head.SlotsNamed id name ∧
      ∀ lines ∈ (EntryDraft.hat head body).scripts, NamedThroughout lines id name
  | .placeholder _ => True

/-- All references to the id in a target are written with the name, and menus as literals, except in
the bodies of procedures that have the id for a parameter. -/
structure Draft.Names (draft : Draft) (id name : String) : Prop where
  procedures_named : ∀ p ∈ draft.procedures, id ∉ p.procedure.arguments →
    NamedThroughout p.body id name
  entries_named : ∀ e ∈ draft.entries, e.Names id name

/-! ## Names that a target starts its scripts with -/

theorem name?_inherited_of_not_mem {names : List (String × String)} {id : String}
    (h : id ∉ names.map Prod.fst) (scope : Scope) :
    (inherited names scope).name? id = scope.name? id := by
  induction names generalizing scope with
  | nil => rfl
  | cons e rest ih =>
    rw [List.map_cons, List.mem_cons, not_or] at h
    have hrest := ih h.2 (scope.inherit e.1 e.2)
    rw [Scope.name?_inherit, if_neg h.1] at hrest
    exact hrest

/-- The ids of the parameters are among those of the arguments. -/
theorem mem_arguments_of_mem_parameters {procedure : Procedure} {id : String}
    (h : id ∈ (parameters procedure).map Prod.fst) : id ∈ procedure.arguments := by
  unfold parameters at h
  rw [List.map_map] at h
  rcases List.mem_map.1 h with ⟨⟨argument, raw⟩, hzip, rfl⟩
  exact (List.of_mem_zip hzip).1

/-- Where an id has a name when all declarations are made, it is written with that name all over
the target. -/
theorem Draft.Phases.names {table : SignatureTable} {target : Target} {start : Scope}
    {declared registered : Session} {draft : Draft}
    (h : draft.Phases table target start declared registered) {id name : String}
    (hname : declared.scope.name? id = some name) : draft.Names id name := by
  have hregistered : registered.scope.name? id = some name := by
    unfold Scope.name?
    rw [bindings_predeclareAll h.registers]
    exact hname
  constructor
  · intro p hp hfree statement hwithin
    -- the parameters leave the id alone, so the body starts with its name
    have hstart : (inherited (parameters p.procedure) registered.scope).name? id = some name := by
      rw [name?_inherited_of_not_mem fun hmem => hfree (mem_arguments_of_mem_parameters hmem)]
      exact hregistered
    rcases (h.bodies_given p hp).placed hwithin with ⟨hplaced, headOnly, -, hformed⟩
    exact hplaced.named hformed hstart
  · intro e he
    have hdrafted := h.entries_drafted e he
    cases e with
    | placeholder block => trivial
    | hat head body =>
      refine ⟨hdrafted.2.1.slotsNamed hregistered, ?_⟩
      intro lines hlines statement hwithin
      rcases hdrafted.placed hlines hwithin with ⟨hplaced, headOnly, hformed⟩
      exact hplaced.named hformed hregistered

/-! ## The stage and the sprites -/

/-- The stage's own declarations, one for each variable and list, and those of the id carry the
name. -/
structure Draft.DeclaresGlobal (draft : Draft) (stage : Target) (id name : String) : Prop where
  vars_in_order : draft.vars.map Declaration.id = stage.vars.keys
  lists_in_order : draft.lists.map Declaration.id = stage.lists.keys
  vars_named : ∀ d ∈ draft.vars, d.id = id →
    d.text = "global var " ++ name ++ " = " ++ d.value
  lists_named : ∀ d ∈ draft.lists, d.id = id →
    d.text = "global list " ++ name ++ " = " ++ d.value

theorem Declaration.text_of_declares {α : Type} {scope : Scope} {word : Bool → String}
    {entries : List (String × α)} {declarations : List Declaration}
    (h : List.Forall₂ (fun e d => Declaration.Declares d scope word e.1) entries declarations) :
    declarations.map Declaration.id = entries.map Prod.fst ∧
      ∀ d ∈ declarations, ∀ name, scope.name? d.id = some name →
        d.text = word scope.isStage ++ name ++ " = " ++ d.value := by
  induction h with
  | nil => exact ⟨rfl, fun _ hnil => absurd hnil List.not_mem_nil⟩
  | cons hfirst _ ih =>
    rcases ih with ⟨hids, htexts⟩
    refine ⟨by rw [List.map_cons, List.map_cons, hids, hfirst.id_eq], ?_⟩
    intro d hd name hname
    -- the first declaration has the name that the scope gives its id
    rcases List.mem_cons.1 hd with rfl | hrest
    · rw [hfirst.id_eq, hfirst.name_eq] at hname
      cases hname
      unfold Declaration.text
      rw [hfirst.word_eq]
    · exact htexts d hrest name hname

theorem Draft.Phases.declaresGlobal {table : SignatureTable} {stage : Target} {start : Scope}
    {declared registered : Session} {draft : Draft}
    (h : draft.Phases table stage start declared registered) (hstart : start.isStage = true)
    {id name : String} (hname : declared.scope.name? id = some name) :
    draft.DeclaresGlobal stage id name := by
  have hstage : declared.scope.isStage = true := by
    rw [h.declared_scope, (Scope.growsTo_bindAll _ _).isStage_eq, hstart]
  rcases Declaration.text_of_declares h.vars_declared with ⟨hvars, hvartexts⟩
  rcases Declaration.text_of_declares h.lists_declared with ⟨hlists, hlisttexts⟩
  rw [hstage] at hvartexts hlisttexts
  refine ⟨hvars, hlists, ?_, ?_⟩
  · intro d hd hid
    exact hvartexts d hd name (hid ▸ hname)
  · intro d hd hid
    exact hlisttexts d hd name (hid ▸ hname)

/-- Every variable and list of a stage has a name that the sprites take over. -/
theorem exists_global {stage : Target} {id : String}
    (hid : id ∈ stage.vars.keys ∨ id ∈ stage.lists.keys) :
    ∃ name, stage.globals.get? id = some name := by
  have hmem : id ∈ stage.rawNames.map Prod.fst := by
    unfold Target.rawNames
    rw [List.map_append, List.mem_append, List.map_map, List.map_map]
    exact hid
  exact Scope.isSome_name?_bindAll (Scope.new true) hmem

/-- When its declarations are made, the first stage gives its ids the names that the sprites see,
and so does every sprite. -/
theorem name?_of_global {project : Project} {stage : Target}
    (hstage : project.targets.find? Target.isStage = some stage) {target : Target}
    (htarget : target = stage ∨ target.isStage = false) {id name : String}
    (hname : stage.globals.get? id = some name) :
    ((startScope target.isStage (project.visible target)).bindAll target.rawNames).name? id =
      some name := by
  rw [startScope_eq]
  rcases htarget with rfl | hsprite
  · -- the stage starts with nothing, as the computation of its names does
    have hflag : target.isStage = true := List.find?_some hstage
    unfold Project.visible
    rw [hflag, if_pos rfl]
    rw [Target.globals_eq] at hname
    exact hname
  · -- a sprite starts with the names, and its own declarations keep them
    have hglobals : project.globals = stage.globals := by
      unfold Project.globals
      rw [hstage]
      rfl
    unfold Project.visible
    rw [hsprite, if_neg Bool.false_ne_true, hglobals]
    exact (Scope.growsTo_bindAll _ _).name? hname

/-- A project that is written was written target by target. -/
theorem forall₂_of_scripts_eq_ok {table : SignatureTable} {project : Project}
    {scripts : List Script} (h : project.scripts table = .ok scripts) :
    List.Forall₂
      (fun target script => Script.ofTarget table target (project.visible target) = .ok script)
      project.targets scripts := by
  refine (mapM_eq_ok_iff.1 h).imp fun target script hscript => ?_
  exact inContext_eq_ok hscript

/-- In a project that is written, each variable and list of the first stage has one name: the
stage declares it under the name that the sprites take over, and all references to it on the
stage and on the sprites are written with that name, except in the bodies of procedures that have
the id for a parameter. Menus refer to nothing: they are written as the values of their first
fields, in quotes, whatever the fields go with. -/
theorem global_names_agree_across_targets {table : SignatureTable} {project : Project}
    {scripts : List Script} (hscripts : project.scripts table = .ok scripts) {stage : Target}
    (hstage : project.targets.find? Target.isStage = some stage) {id : String}
    (hid : id ∈ stage.vars.keys ∨ id ∈ stage.lists.keys) :
    ∃ name, stage.globals.get? id = some name ∧
      List.Forall₂
        (fun target script => ∃ draft finish,
          draftTarget table target ⟨startScope target.isStage (project.visible target), []⟩ =
            .ok draft finish ∧
          script.source = draft.source ∧
          (target = stage → draft.DeclaresGlobal stage id name) ∧
          (target = stage ∨ target.isStage = false → draft.Names id name))
        project.targets scripts := by
  rcases exists_global hid with ⟨name, hname⟩
  refine ⟨name, hname, ?_⟩
  refine (forall₂_of_scripts_eq_ok hscripts).imp fun target script hscript => ?_
  rcases ofTarget_eq_ok hscript with ⟨draft, finish, hdraft, hsource⟩
  rcases phases_of_draftTarget hdraft with ⟨declared, registered, hphases⟩
  -- the stage binds its ids as the globals do, and a sprite inherits them
  have hdeclared : target = stage ∨ target.isStage = false →
      declared.scope.name? id = some name := by
    intro htarget
    rw [hphases.declared_scope]
    exact name?_of_global hstage htarget hname
  refine ⟨draft, finish, hdraft, hsource, ?_, ?_⟩
  · rintro rfl
    -- the declaration line is global because the first stage is a stage
    have hflag : target.isStage = true := List.find?_some hstage
    refine hphases.declaresGlobal ?_ (hdeclared (.inl rfl))
    rw [startScope_eq]
    exact hflag
  · intro htarget
    exact hphases.names (hdeclared htarget)

/-- A table with a hat and blocks that add to a list and say something. -/
def listTable : SignatureTable :=
  Dict.ofList [("event_whenflagclicked", ⟨[], .hat⟩),
    ("data_addtolist", ⟨["ITEM", "LIST"], .plain⟩), ("looks_say", ⟨["MESSAGE"], .plain⟩)]

/-- A stage with a variable and a list of the same raw name. Its script adds the one to the other
and says what is selected in a menu, which is that list. -/
def scoreStage : Target where
  name := "Stage"
  isStage := true
  blocks := Dict.ofList [
    ("flag", ⟨"flag", "event_whenflagclicked", some "add", .empty, .empty, false, true, none⟩),
    ("add", ⟨"add", "data_addtolist", some "say",
      Dict.ofList [("ITEM", .literal ⟨.variableName, "score", some "v"⟩)],
      Dict.ofList [("LIST", ⟨"score", some "l"⟩)], false, false, none⟩),
    ("say", ⟨"say", "looks_say", none, Dict.ofList [("MESSAGE", .block "menu")], .empty, false,
      false, none⟩),
    ("menu", ⟨"menu", "extra_menu_LIST", none, .empty, Dict.ofList [("LIST", ⟨"score", some "l"⟩)],
      true, false, none⟩)]
  vars := Dict.ofList [("v", ⟨"score", .number (.whole 0)⟩)]
  lists := Dict.ofList [("l", ⟨"score", []⟩)]
  costumes := []
  sounds := []

/-- A sprite with a variable and a procedure of that raw name, too. Both its scripts set the
variable of the stage to its list, but in the procedure a parameter hides the variable. -/
def scoreSprite : Target where
  name := "Cat"
  isStage := false
  blocks := Dict.ofList [
    ("flag", ⟨"flag", "event_whenflagclicked", some "set", .empty, .empty, false, true, none⟩),
    ("set", ⟨"set", "data_setvariableto", none,
      Dict.ofList [("VALUE", .literal ⟨.listName, "score", some "l"⟩)],
      Dict.ofList [("VARIABLE", ⟨"score", some "v"⟩)], false, false, none⟩),
    ("score", ⟨"score", "procedures_definition", some "set",
      Dict.ofList [("custom_block", .block "type")], .empty, false, true, none⟩),
    ("type", ⟨"type", "procedures_prototype", none, .empty, .empty, true, false,
      some ⟨some "score %s", some "[\"v\"]", some "[\"value\"]", false⟩⟩)]
  vars := Dict.ofList [("w", ⟨"score", .number (.whole 0)⟩)]
  lists := .empty
  costumes := []
  sounds := []

def scoreProject : Project := ⟨[scoreStage, scoreSprite], [], .empty⟩

/-- The sources of the two targets. -/
def scoreScripts : List Script := [
  ⟨"Stage", true, Layout.stack [header,
    "global var score = 0",
    "global list score_ = \x7b\x7d",
    "event_whenflagclicked() \x7b", "\tdata_addtolist(score, score_)", "\tlooks_say(\"score\")",
    "\x7d"], []⟩,
  ⟨"Cat", false, Layout.stack [header,
    "var score__ = 0",
    "fn score___(value) \x7b", "\tvalue = score_", "\x7d",
    "event_whenflagclicked() \x7b", "\tscore = score_", "\x7d"], []⟩]

/-- The list of the stage is called `score_`, but a menu of the stage in which it is selected is
written as its raw name in quotes. -/
theorem score_menu_is_quoted :
    scoreProject.scripts listTable = .ok scoreScripts ∧
    scoreProject.targets.find? Target.isStage = some scoreStage ∧
    "l" ∈ scoreStage.lists.keys ∧
    scoreStage.globals.get? "l" = some "score_" ∧
    ∃ draft finish,
      draftTarget listTable scoreStage ⟨startScope true (scoreProject.visible scoreStage), []⟩ =
        .ok draft finish ∧
      scoreScripts.head?.map Script.source = some draft.source ∧
      ∃ lines ∈ draft.scripts, ∃ statement : Statement, statement.Within lines ∧
        statement.block.fields.get? "LIST" = some ⟨"score", some "l"⟩ ∧
        statement.text = "\"score\"" ∧ statement.text ≠ "score_" := by
  have hfacts : (match draftTarget listTable scoreStage
        ⟨startScope true (scoreProject.visible scoreStage), []⟩ with
      | .ok draft _ => decide (
        scoreScripts.head?.map Script.source = some draft.source ∧
        ∃ lines ∈ draft.scripts, ∃ outer ∈ lines, ∃ argument ∈ outer.arguments,
          ∃ s ∈ argument.lines, s.block.fields.get? "LIST" = some ⟨"score", some "l"⟩ ∧
            s.text = "\"score\"")
      | .error _ _ => false) = true := by
    decide +kernel
  refine ⟨by decide +kernel, rfl, by decide, by decide +kernel, ?_⟩
  cases hdraft : draftTarget listTable scoreStage
      ⟨startScope true (scoreProject.visible scoreStage), []⟩ with
  | error failure finish =>
    rw [hdraft] at hfacts
    cases hfacts
  | ok draft finish =>
    rw [hdraft] at hfacts
    rcases of_decide_eq_true hfacts with
      ⟨hsource, lines, hlines, outer, houter, argument, hargument, menu, hmenu, hfield, htext⟩
    refine ⟨draft, finish, rfl, hsource, lines, hlines, menu, ?_, hfield, htext, ?_⟩
    · -- the menu stands in the message of the block that says it
      exact .argument houter hargument (.line hmenu)
    · rw [htext]
      decide

/-- The list of the stage is called `score_` wherever it is referred to. -/
theorem score_list_has_one_name :
    scoreProject.scripts listTable = .ok scoreScripts ∧
    scoreProject.targets.find? Target.isStage = some scoreStage ∧
    "l" ∈ scoreStage.lists.keys ∧
    scoreStage.globals.get? "l" = some "score_" ∧
      List.Forall₂
        (fun target script => ∃ draft finish,
          draftTarget listTable target
              ⟨startScope target.isStage (scoreProject.visible target), []⟩ = .ok draft finish ∧
          script.source = draft.source ∧
          (target = scoreStage → draft.DeclaresGlobal scoreStage "l" "score_") ∧
          (target = scoreStage ∨ target.isStage = false → draft.Names "l" "score_"))
        scoreProject.targets scoreScripts := by
  have hscripts : scoreProject.scripts listTable = .ok scoreScripts := by
    decide +kernel
  have hid : "l" ∈ scoreStage.lists.keys := by
    decide
  have hglobal : scoreStage.globals.get? "l" = some "score_" := by
    decide +kernel
  rcases global_names_agree_across_targets hscripts rfl (.inr hid) with ⟨name, hname, htargets⟩
  rw [hglobal] at hname
  cases hname
  exact ⟨hscripts, rfl, hid, hglobal, htargets⟩

end BlockScribe
