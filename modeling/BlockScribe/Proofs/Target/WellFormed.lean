import BlockScribe.Proofs.Emission.ClosedText
import BlockScribe.Proofs.Target.Diagnostics
import BlockScribe.Proofs.Target.Scopes
import BlockScribe.Signature.Palette

/-! # Sources are lexically well-formed

Read from left to right, the source of a target ends outside of literals and comments, and its
brackets are properly nested. Each part of the source is closed on its own: the names in it are
bare words, since the scope of a target is hygienic and parameters are proper words; free text
stands in literals only, apart from the placeholders, which show opcodes and proccodes in comments.

* `Draft.Shows`: a text that a placeholder of a draft shows.
* `AreGlobals`: what a target may see of a stage at its start.
* `Draft.Course.readable`: all statements of a drafted target are readable.
-/

namespace BlockScribe

open Script Lexical

/-! ## The scopes of a target -/

/-- Names that a target may see at its start: none, or those of a stage. -/
def AreGlobals (globals : Dict String String) : Prop :=
  globals = .empty ∨ ∃ stage : Target, globals = stage.globals

theorem hygienic_of_areGlobals {globals : Dict String String} (h : AreGlobals globals)
    (isStage : Bool) : (startScope isStage globals).Hygienic := by
  rw [startScope_eq]
  rcases h with rfl | ⟨stage, rfl⟩
  · exact Scope.hygienic_new isStage
  · exact ((Scope.hygienic_new true).bindAll stage.rawNames).withoutProcedures isStage

/-- The scope behind the declarations is hygienic, and so is the one behind the registration. -/
theorem Draft.Phases.hygienic {table : SignatureTable} {target : Target} {start : Scope}
    {declared registered : Session} {draft : Draft}
    (h : draft.Phases table target start declared registered) (hstart : start.Hygienic) :
    declared.scope.Hygienic ∧ registered.scope.Hygienic := by
  have hdeclared : declared.scope.Hygienic := by
    rw [h.declared_scope]
    exact hstart.bindAll _
  have hstep : ∀ definition prototype {s : Session}, s.scope.Hygienic →
      (predeclared definition prototype s).scope.Hygienic := by
    intro definition prototype s hs
    unfold predeclared
    split
    · exact hs
    · exact hs.register_fresh _ _ _ _ _ _
  exact ⟨hdeclared, predeclareAll_keeps hstep h.registers hdeclared⟩

/-- Bare names for some ids keep a scope bare. -/
theorem Scope.IsBare.inherited {scope : Scope} (h : scope.IsBare) {names : List (String × String)}
    (hnames : ∀ e ∈ names, Identifier.IsBare e.2) : (inherited names scope).IsBare := by
  induction names generalizing scope with
  | nil => exact h
  | cons e rest ih =>
    rw [List.forall_mem_cons] at hnames
    exact ih (h.inherit e.1 hnames.1) hnames.2

/-! ## Placeholders -/

/-- A text is shown by a placeholder of a draft: one in a script, or one at the top level. -/
inductive Draft.Shows (draft : Draft) : String → Prop
  | statement {lines : List Statement} {statement : Statement} {text : String}
    (hlines : lines ∈ draft.scripts) (hwithin : statement.Within lines)
    (hshown : statement.shown? = some text) : Shows draft text
  | entry {block : Block} (hentry : .placeholder block ∈ draft.entries) :
    Shows draft block.opcode

/-- What stands in a script of an entry stands in its head or in its body. -/
theorem EntryDraft.within_of_scripts {head : Statement} {body lines : List Statement}
    (hlines : lines ∈ (EntryDraft.hat head body).scripts) {statement : Statement}
    (hwithin : statement.Within lines) :
    statement.Within [head] ∨ statement.Within body := by
  rcases List.mem_cons.1 hlines with rfl | hargument
  · exact .inr hwithin
  · rcases List.mem_map.1 hargument with ⟨argument, hmem, rfl⟩
    exact .inl (.argument List.mem_cons_self hmem hwithin)

section Course

variable {table : SignatureTable} {target : Target}
  {start declared registered finish : Session} {draft : Draft}
  (h : draft.Course table target start declared registered finish)
include h

theorem Draft.Course.comesFrom : ∀ e ∈ draft.entries,
    e.ComesFrom table (draftAt ⟨table, target.blocks⟩ maxNesting [])
      (entryBlocks target.blocks) := by
  rcases h.scripts_drafted with ⟨forked, -, hentries⟩
  exact comesFrom_of_draftEntries hentries

/-- Where a placeholder shows a text there is a diagnostic that names it. -/
theorem Draft.Course.noted_of_shows (hstart : start.scope.procedures = .empty) {text : String}
    (hshows : draft.Shows text) : ∃ d ∈ finish.diagnostics, d.notice.shown? = some text := by
  rw [h.diagnostics hstart]
  simp only [List.mem_append]
  -- what is shown was noted with the statement, or with the undefined entry
  cases hshows with
  | @statement lines statement _ hlines hwithin hshown =>
    rcases Option.bind_eq_some_iff.1 hshown with ⟨notice, hnotice, htext⟩
    refine ⟨⟨some statement.block.id, notice⟩, ?_, htext⟩
    rcases List.mem_append.1 hlines with hprocedure | hentry
    · rcases List.mem_map.1 hprocedure with ⟨procedure, hmem, rfl⟩
      have hnoted := mem_noticesOf hwithin hnotice
      exact .inr (.inl (.inr (List.mem_flatMap.2 ⟨procedure, hmem, hnoted⟩)))
    · rcases List.mem_flatMap.1 hentry with ⟨e, hmem, hscript⟩
      refine .inr (.inr (List.mem_flatMap.2 ⟨e, hmem, ?_⟩))
      cases e with
      | placeholder block => exact absurd hscript List.not_mem_nil
      | hat head body =>
        -- notes of a hat are those of its head and of its body
        rcases EntryDraft.within_of_scripts hscript hwithin with hhead | hbody
        · have hnoted := mem_noticesOf hhead hnotice
          rw [noticesOf, noticesOf, List.append_nil] at hnoted
          exact List.mem_append_left _ hnoted
        · exact List.mem_append_right _ (mem_noticesOf hbody hnotice)
  | @entry block hentry =>
    refine ⟨⟨some block.id, .undefinedOpcode block.opcode⟩, .inr (.inl (.inl (.inr ?_))), rfl⟩
    cases h.comesFrom _ hentry with
    | placeholder hblock hundefined =>
      refine List.mem_map.2 ⟨block, List.mem_filter.2 ⟨hblock, ?_⟩, rfl⟩
      rw [hundefined]
      rfl
    | hat _ _ hrun =>
      rcases draftHat_eq_ok hrun with ⟨_, _, _, _, _, heq⟩
      cases heq

/-! ## Statements -/

section Readable

variable (htable : table.IsBare) (hregistered : registered.scope.IsBare)
  (hshown : ∀ text, draft.Shows text → endsComment text.toList = false)
include htable hregistered hshown

/-- All statements in the scripts of a drafted target are readable. -/
theorem Draft.Course.readable {lines : List Statement} (hlines : lines ∈ draft.scripts)
    {statement : Statement} (hwithin : statement.Within lines) : statement.Readable := by
  have hsteps : ∀ {a b : Session}, Session.Step target.blocks a b → a.scope.IsBare →
      b.scope.IsBare := fun hstep hbare => hstep.keeps_isBare hbare
  obtain ⟨_, -, -, headOnly, hformed⟩ := h.phases.placed_in_scripts hlines hwithin
  refine readable_of_isFormed htable hformed ?_ fun htext =>
    hshown _ (.statement hlines hwithin htext)
  -- a body starts with the parameters on top of the registered names, and these are bare too
  rcases List.mem_append.1 hlines with hprocedure | hentry
  · rcases List.mem_map.1 hprocedure with ⟨procedure, hmem, rfl⟩
    refine h.allWithin_body hsteps (draftsAs_sees hsteps) hmem ?_ statement hwithin
    exact hregistered.inherited fun e he => isBare_of_mem_parameters he
  · rcases List.mem_flatMap.1 hentry with ⟨e, hmem, hscript⟩
    have hsees := h.allWithin_entries hsteps (draftsAs_sees hsteps) hregistered e hmem
    cases e with
    | placeholder block => exact absurd hscript List.not_mem_nil
    | hat head body =>
      rcases EntryDraft.within_of_scripts hscript hwithin with hhead | hbody
      · exact hsees.1 statement hhead
      · exact hsees.2 statement hbody

/-- The head of a hat is readable, with all that stands in it: it is a call of an opcode that the
table knows. -/
theorem Draft.Course.readable_head {head : Statement} {body : List Statement}
    (hmem : .hat head body ∈ draft.entries) {statement : Statement}
    (hwithin : statement.Within [head]) : statement.Readable := by
  have hsteps : ∀ {a b : Session}, Session.Step target.blocks a b → a.scope.IsBare →
      b.scope.IsBare := fun hstep hbare => hstep.keeps_isBare hbare
  have hsees : head.Sees Scope.IsBare :=
    (h.allWithin_entries hsteps (draftsAs_sees hsteps) hregistered _ hmem).1 head
      (.line List.mem_cons_self)
  cases h.comesFrom _ hmem with
  | hat hblock hentry hrun =>
    rcases entry_eq_hat hentry with ⟨signature, hsignature, -⟩
    rcases draftHat_eq_ok hrun with ⟨_, _, _, hhead, _, heq⟩
    cases heq
    rcases draftForm_eq_ok hhead with ⟨arguments, _, bodies, _, _, hbodies, _, rfl⟩
    -- a call has no bodies
    cases hbodies
    rcases Statement.within_cons hwithin with rfl | ⟨argument, hargument, hinner⟩ |
      ⟨_, hnil, _⟩ | hnil
    · refine ⟨hsees, ?_, ?_, ?_⟩
      · intro name slots hcall
        cases hcall
        exact closed_opcode htable hsignature
      · intro slots sockets hbranch
        cases hbranch
      · intro text htext
        cases htext
    · refine h.readable htable hregistered hshown ?_ hinner
      refine List.mem_append_right _ (List.mem_flatMap.2 ⟨_, hmem, ?_⟩)
      exact List.mem_cons_of_mem _ (List.mem_map_of_mem hargument)
    · exact absurd hnil List.not_mem_nil
    · exact absurd hnil Statement.not_within_nil

end Readable

end Course

/-! ## The parts of a source -/

theorem closed_valueText (value : Json) : Closed (valueText value) := by
  unfold valueText
  split
  · exact closed_render _
  · exact closed_quote _
  · exact closed_quote _
  · exact closed_quote _
  · exact closed_quote _

theorem closed_itemText (item : Json) : Closed (itemText item) := by
  unfold itemText
  split
  · exact closed_number _
  · exact closed_quote _
  · exact closed_quote _

theorem closed_itemsText (items : List Json) : Closed (itemsText items) := by
  unfold itemsText
  split
  · intro due
    simp [read_cons, step, readCode]
  · have hcomma : Closed ",\n" := closed_of_all (by decide)
    refine ((hcomma.intercalate fun text htext => ?_).indent 1).braced
    rcases List.mem_map.1 htext with ⟨item, -, rfl⟩
    exact closed_itemText item

theorem closed_listWord (isStage : Bool) : Closed (listWord isStage) := by
  cases isStage with
  | true => exact closed_of_all (by decide)
  | false => exact closed_of_all (by decide)

/-- Declarations in a hygienic scope are closed if their words and values are. -/
theorem Declaration.closed_text {α : Type} {scope : Scope} (hscope : scope.Hygienic)
    {word : Bool → String} (hword : ∀ isStage, Closed (word isStage))
    {entries : List (String × α)} {declarations : List Declaration}
    (hdeclares : List.Forall₂ (fun e d => Declaration.Declares d scope word e.1) entries
      declarations)
    (hvalues : ∀ d ∈ declarations, Closed d.value) : ∀ d ∈ declarations, Closed d.text := by
  induction hdeclares with
  | nil => exact fun _ hnil => absurd hnil List.not_mem_nil
  | cons hfirst _ ih =>
    rw [List.forall_mem_cons] at hvalues ⊢
    refine ⟨?_, ih hvalues.2⟩
    have hname := (hscope.binding_proper hfirst.name_eq).toIsBare
    unfold Declaration.text
    rw [hfirst.word_eq]
    exact closed_assignment (hword _) (closed_of_isBare hname) hvalues.1

theorem closed_procedureHead {procedure : Procedure}
    (hname : Identifier.IsBare procedure.name) : Closed (procedureHead procedure) := by
  have hcomma : Closed ", " := closed_of_all (by decide)
  have hfn : Closed "fn " := closed_of_all (by decide)
  have hwarp : Closed (if procedure.warp then "warp " else "") := by
    split
    · exact closed_of_all (by decide)
    · exact closed_empty
  -- parameters are bare words between commas
  have hparameters : Closed (", ".intercalate ((parameters procedure).map Prod.snd)) := by
    refine hcomma.intercalate fun text htext => ?_
    rcases List.mem_map.1 htext with ⟨e, he, rfl⟩
    exact closed_of_isBare (isBare_of_mem_parameters he)
  have htext : procedureHead procedure =
      (if procedure.warp then "warp " else "") ++ "fn " ++ procedure.name ++
        ("(" ++ ", ".intercalate ((parameters procedure).map Prod.snd) ++ ")") := by
    simp only [procedureHead, String.append_assoc]
  rw [htext]
  exact ((hwarp.append hfn).append (closed_of_isBare hname)).append hparameters.parenthesized

theorem closed_header : Closed header := fun _ => rfl

section Course

variable {table : SignatureTable} {target : Target}
  {start declared registered finish : Session} {draft : Draft}
  (h : draft.Course table target start declared registered finish)
include h

theorem Draft.Course.closed_declarations (hstart : start.scope.Hygienic) :
    (∀ d ∈ draft.vars, Closed d.text) ∧ ∀ d ∈ draft.lists, Closed d.text := by
  have hdeclared := (h.phases.hygienic hstart).1
  obtain ⟨hvarvalues, hlistvalues⟩ := h.values
  constructor
  · refine Declaration.closed_text hdeclared closed_declarationWord h.phases.vars_declared ?_
    rw [← List.forall_mem_map (P := Closed), hvarvalues, List.forall_mem_map]
    exact fun e _ => closed_valueText e.2.value
  · refine Declaration.closed_text hdeclared closed_listWord h.phases.lists_declared ?_
    rw [← List.forall_mem_map (P := Closed), hlistvalues, List.forall_mem_map]
    exact fun e _ => closed_itemsText e.2.items

/-- A drafted target has a closed source if no placeholder in it shows the end of a comment. -/
theorem Draft.Course.closed_source (htable : table.IsBare) (hstart : start.scope.Hygienic)
    (hshown : ∀ text, draft.Shows text → endsComment text.toList = false) :
    Closed draft.source := by
  have hblank : Closed " " := closed_of_all (by decide)
  have hregistered := (h.phases.hygienic hstart).2.isBare
  -- each part is closed, and so are the breaks between them
  have hbody : ∀ body ∈ draft.scripts, Closed (Layout.braced (scriptText 1 body)) :=
    fun body hmem =>
      closed_body (fun _ hwithin => h.readable htable hregistered hshown hmem hwithin) 1
  obtain ⟨hvars, hlists⟩ := h.closed_declarations hstart
  unfold Draft.source Draft.parts
  refine closed_stack (List.forall_mem_cons.2 ⟨closed_header, ?_⟩)
  simp only [List.forall_mem_append, List.forall_mem_map]
  refine ⟨⟨⟨hvars, hlists⟩, ?_⟩, ?_⟩
  · intro procedure hprocedure
    have hname : Identifier.IsBare procedure.procedure.name := by
      rcases h.phases.registered_of_header hprocedure with ⟨-, proccode, hregistration⟩
      exact hregistered.procedure_bare hregistration
    refine ((closed_procedureHead hname).append hblank).append (hbody _ ?_)
    exact List.mem_append_left _ (List.mem_map_of_mem hprocedure)
  · intro e he
    cases e with
    | placeholder block => exact closed_undefinedText (hshown _ (.entry he))
    | hat head body =>
      have hhead : Closed head.text := head.closed_text fun _ hwithin =>
        h.readable_head htable hregistered hshown he hwithin
      refine (hhead.append hblank).append (hbody body ?_)
      exact List.mem_append_right _ (List.mem_flatMap.2 ⟨_, he, List.mem_cons_self⟩)

end Course

/-! ## Sources -/

/-- A word that is given by its characters is checked one by one. -/
theorem isPart_of_all {cs : List Char} (h : cs.all Identifier.isPart = true) :
    ∀ c ∈ (String.ofList cs).toList, Identifier.isPart c = true := by
  rw [String.toList_ofList]
  exact List.all_eq_true.1 h

/-- The opcodes of the palette are bare words. -/
theorem isBare_palette : SignatureTable.palette.IsBare := by
  have hentries : ∀ e ∈ Palette.entries, ∀ c ∈ e.1.toList, Identifier.isPart c = true := by
    simp only [Palette.entries, List.forall_mem_append]
    refine ⟨⟨⟨⟨⟨⟨⟨⟨⟨?_, ?_⟩, ?_⟩, ?_⟩, ?_⟩, ?_⟩, ?_⟩, ?_⟩, ?_⟩, ?_⟩
    all_goals
      repeat refine List.forall_mem_cons.2 ⟨isPart_of_all (by decide +kernel), ?_⟩
      exact List.forall_mem_nil _
  intro opcode hopcode
  rcases List.mem_map.1 (Dict.mem_of_mem_keys_ofList hopcode) with ⟨e, he, rfl⟩
  exact hentries e he

/-- The source of a target is well-formed, whatever texts the target holds, if the opcodes of the
table are bare words and no opcode or proccode in a placeholder ends a comment. Without diagnostics
there are no placeholders. -/
theorem source_is_wellFormed {table : SignatureTable} (htable : table.IsBare) {target : Target}
    {globals : Dict String String} (hglobals : AreGlobals globals) {script : Script}
    (h : Script.ofTarget table target globals = .ok script) :
    ∃ draft finish,
      draftTarget table target ⟨startScope target.isStage globals, []⟩ = .ok draft finish ∧
      script.source = draft.source ∧
      ((∀ text, draft.Shows text → endsComment text.toList = false) →
        WellFormed script.source) ∧
      (script.diagnostics = [] → WellFormed script.source) := by
  rcases ofTarget_eq_ok h with ⟨draft, finish, hdraft, hsource⟩
  rcases course_of_draftTarget hdraft with ⟨declared, registered, hcourse⟩
  have hstart := hygienic_of_areGlobals hglobals target.isStage
  refine ⟨draft, finish, hdraft, hsource, ?_, ?_⟩
  · intro hshown
    rw [hsource]
    exact (hcourse.closed_source htable hstart hshown).wellFormed
  · intro hquiet
    -- all that is shown is noted, so without notes nothing is shown
    have hnone : ∀ text, draft.Shows text → endsComment text.toList = false := by
      intro text hshows
      rcases hcourse.noted_of_shows (by rw [startScope_eq]) hshows with ⟨d, hd, -⟩
      rw [← diagnostics_of_ofTarget h hdraft, hquiet] at hd
      exact absurd hd List.not_mem_nil
    rw [hsource]
    exact (hcourse.closed_source htable hstart hnone).wellFormed

/-- Without the condition on placeholders a source may be broken. -/
example : ¬ WellFormed (unknownCallText "*/ (") := by
  decide

/-- A target whose texts are full of quotes, brackets and signs of comments. -/
def tangle : Target where
  name := "Tangle"
  isStage := false
  blocks := Dict.ofList [
    ("flag", ⟨"flag", "event_whenflagclicked", some "loop", .empty, .empty, false, true, none⟩),
    ("loop", ⟨"loop", "control_forever", none,
      Dict.ofList [("SUBSTACK", .block "say")], .empty, false, false, none⟩),
    ("say", ⟨"say", "looks_say", some "set",
      Dict.ofList [("MESSAGE", .literal ⟨.text, "\\\") /*\n\x7b", none⟩)], .empty, false, false,
      none⟩),
    ("set", ⟨"set", "data_setvariableto", none,
      Dict.ofList [("VALUE", .literal ⟨.variableName, "*/(", none⟩)],
      Dict.ofList [("VARIABLE", ⟨"\"x\x7d", some "x"⟩)], false, false, none⟩)]
  vars := Dict.ofList [("v", ⟨"(v", .text "\x7d\""⟩)]
  lists := Dict.ofList [("l", ⟨"/* l", [.number (.whole (-3)), .text "*/"]⟩)]
  costumes := []
  sounds := []

def tangleScript : Script :=
  ⟨"Tangle", false, Layout.stack [header,
    "var _v = \"\x7d\\\"\"",
    "list ___l = \x7b", "\t-3,", "\t\"*/\"", "\x7d",
    "event_whenflagclicked() \x7b",
    "\tcontrol_forever() \x7b",
    "\t\tlooks_say(\"\\\\\\\") /*",
    "\t\t\x7b\")",
    "\t\tvar _x_ = ___",
    "\t\x7d",
    "\x7d"], []⟩

theorem tangle_is_wellFormed :
    clutterTable.IsBare ∧ AreGlobals .empty ∧
    Script.ofTarget clutterTable tangle .empty = .ok tangleScript ∧
    WellFormed tangleScript.source := by
  have htable : clutterTable.IsBare := SignatureTable.isBare_of_all (by decide +kernel)
  have hglobals : AreGlobals .empty := .inl rfl
  have hscript : Script.ofTarget clutterTable tangle .empty = .ok tangleScript := by
    decide +kernel
  rcases source_is_wellFormed htable hglobals hscript with ⟨_, _, _, _, _, hquiet⟩
  exact ⟨htable, hglobals, hscript, hquiet rfl⟩

end BlockScribe
