import BlockScribe.Proofs.Emission.Notices
import BlockScribe.Proofs.Emission.Scopes
import BlockScribe.Proofs.Text.Lexical

/-! # The texts of statements are closed

What is written of a block ends outside of literals and comments and closes the brackets that it
opens, as long as the names in it are bare words and the texts in its placeholders do not end a
comment. By induction over the draft the same holds of a statement with all that stands in it
(`Statement.closed_text`), however deep, since indentation keeps it.

* `Scope.IsBare`: all names in a scope are bare words; every step of a rendering keeps it.
* `Statement.Readable`: what is needed of one statement alone.
* `readable_of_isFormed`: statements in the forms of their blocks are readable if the table knows
  bare opcodes only.
-/

namespace BlockScribe

open Lexical

/-! ## Scopes with bare names -/

/-- All names in a scope are bare words. -/
structure Scope.IsBare (scope : Scope) : Prop where
  binding_bare : ∀ {id name}, scope.name? id = some name → Identifier.IsBare name
  procedure_bare : ∀ {proccode procedure},
    scope.procedure? proccode = some procedure → Identifier.IsBare procedure.name

theorem Scope.Hygienic.isBare {scope : Scope} (h : scope.Hygienic) : scope.IsBare where
  binding_bare hname := (h.binding_proper hname).toIsBare
  procedure_bare hprocedure := (h.procedure_proper hprocedure).toIsBare

theorem Scope.IsBare.inherit {scope : Scope} (h : scope.IsBare) (id : String) {name : String}
    (hname : Identifier.IsBare name) : (scope.inherit id name).IsBare where
  binding_bare := by
    intro other bound hbound
    rw [Scope.name?_inherit] at hbound
    split at hbound
    · rw [← Option.some.inj hbound]
      exact hname
    · exact h.binding_bare hbound
  procedure_bare := h.procedure_bare

theorem Scope.IsBare.bind {scope : Scope} (h : scope.IsBare) (id raw : String) :
    Identifier.IsBare (scope.bind id raw).1 ∧ (scope.bind id raw).2.IsBare := by
  cases hname : scope.name? id with
  | some name =>
    rw [Scope.bind_of_name? hname]
    exact ⟨h.binding_bare hname, h⟩
  | none =>
    have hfresh := (Scope.isProper_freshName scope raw).toIsBare
    rw [Scope.bind_of_unbound hname]
    exact ⟨hfresh, h.inherit id hfresh⟩

theorem Session.Step.keeps_isBare {blocks : Dict String Block} {before after : Session}
    (h : Session.Step blocks before after) (hbefore : before.scope.IsBare) :
    after.scope.IsBare := by
  cases h with
  | note _ => exact hbefore
  | bind _ _ _ _ => exact (hbefore.bind _ _).2

/-! ## Values -/

theorem closed_boundName {scope : Scope} (h : scope.IsBare) (id : Option String) (raw : String) :
    Closed (boundName scope id raw) := by
  unfold boundName
  cases hname : id.bind scope.name? with
  | none => exact closed_of_isBare (Identifier.isBare_ofRaw raw)
  | some name =>
    rcases Option.bind_eq_some_iff.1 hname with ⟨bound, -, hbound⟩
    exact closed_of_isBare (h.binding_bare hbound)

theorem closed_fieldText {scope : Scope} (h : scope.IsBare) (slot : String) (field : Field) :
    Closed (fieldText scope slot field) := by
  unfold fieldText
  split
  · exact closed_boundName h _ _
  · exact closed_quote _

theorem closed_literalText? {scope : Scope} (h : scope.IsBare) {literal : Literal} {text : String}
    (htext : literalText? scope literal = some text) : Closed text := by
  unfold literalText? at htext
  -- texts are quoted, references are bare names and numbers are rendered numerals
  split at htext
  · cases htext
    exact closed_quote _
  · cases htext
    exact closed_quote _
  · cases htext
    exact closed_quote _
  · cases htext
    exact closed_boundName h _ _
  · cases htext
    exact closed_boundName h _ _
  · cases htext
  · cases htext
    exact closed_render _

theorem closed_emptyText : Closed emptyText := closed_quote ""

theorem closed_callText {name : String} (hname : Closed name) {arguments : List (Option String)}
    (harguments : ∀ text, some text ∈ arguments → Closed text) :
    Closed (callText name arguments) := by
  have hcomma : Closed ", " := closed_of_all (by decide)
  have hlist : Closed (", ".intercalate (arguments.filterMap id)) := by
    refine hcomma.intercalate fun text htext => ?_
    rcases List.mem_filterMap.1 htext with ⟨argument, hmem, heq⟩
    have hsome : argument = some text := heq
    rw [hsome] at hmem
    exact harguments text hmem
  have htext : callText name arguments =
      name ++ ("(" ++ ", ".intercalate (arguments.filterMap id) ++ ")") := by
    simp only [callText, String.append_assoc]
  rw [htext]
  exact hname.append hlist.parenthesized

theorem closed_getD {argument : Option String}
    (h : ∀ text, argument = some text → Closed text) : Closed (argument.getD emptyText) := by
  cases argument with
  | none => exact closed_emptyText
  | some text => exact h text rfl

theorem closed_soleText {arguments : List (Option String)}
    (h : ∀ text, some text ∈ arguments → Closed text) : Closed (soleText arguments) := by
  refine closed_getD fun text htext => ?_
  rcases Option.bind_eq_some_iff.1 htext with ⟨argument, hhead, heq⟩
  have hsome : argument = some text := heq
  rw [hsome] at hhead
  exact h text (List.mem_of_head? hhead)

theorem closed_declarationWord (isStage : Bool) : Closed (declarationWord isStage) := by
  cases isStage with
  | true => exact closed_of_all (by decide)
  | false => exact closed_of_all (by decide)

/-- An assignment is closed if its parts are. -/
theorem closed_assignment {word name value : String} (hword : Closed word) (hname : Closed name)
    (hvalue : Closed value) : Closed (word ++ name ++ " = " ++ value) := by
  have hsign : Closed " = " := closed_of_all (by decide)
  exact ((hword.append hname).append hsign).append hvalue

/-! ## Placeholders -/

theorem closed_undefinedText {opcode : String} (h : endsComment opcode.toList = false) :
    Closed (undefinedText opcode) :=
  closed_comment (by decide) (by decide) h

theorem closed_unknownCallText {proccode : String} (h : endsComment proccode.toList = false) :
    Closed (unknownCallText proccode) :=
  closed_comment (by decide) (by decide) h

theorem closed_namelessAssignmentText : Closed namelessAssignmentText := fun _ => rfl

/-! ## Statements -/

/-- The text that the placeholder for a problem shows: an opcode or a proccode. -/
def Notice.shown? : Notice → Option String
  | .undefinedOpcode opcode => some opcode
  | .unknownProcedure proccode => some proccode
  | _ => none

/-- The text that a statement shows if it is a placeholder. -/
def Statement.shown? (statement : Statement) : Option String :=
  (statement.form.notice? statement.block).bind Notice.shown?

/-- What is needed of a statement, apart from what stands in it, for its text to be closed. -/
structure Statement.Readable (statement : Statement) : Prop where
  sees_bare : statement.Sees Scope.IsBare
  call_closed : ∀ {name slots}, statement.form = .call name slots → Closed name
  branch_closed : ∀ {slots sockets}, statement.form = .branch slots sockets →
    Closed statement.block.opcode
  comment_open : ∀ {text}, statement.shown? = some text → endsComment text.toList = false

/-- The text of a statement is closed if those of its arguments and bodies are. -/
theorem closed_text_of_parts {block : Block} {form : Form} {before : Scope}
    {arguments : List Argument} {after : Scope} {bodies : List (List Statement)}
    (hown : (Statement.mk block form before arguments after bodies).Readable)
    (harguments : ∀ text, some text ∈ textsOf arguments → Closed text)
    (hbodies : ∀ text ∈ bodiesOf bodies, Closed text) :
    Closed (Statement.mk block form before arguments after bodies).text := by
  -- every text is put together from words of its own, names and parts
  cases form with
  | comparison =>
    rw [Statement.text]
    have hsign : Closed " != " := closed_of_all (by decide)
    refine hsign.intercalate fun text htext => ?_
    rcases List.mem_map.1 htext with ⟨argument, hmem, rfl⟩
    exact closed_getD fun text heq => harguments text (heq ▸ hmem)
  | answer slot =>
    rw [Statement.text]
    have hword : Closed "return " := closed_of_all (by decide)
    exact hword.append (closed_soleText harguments)
  | logging =>
    rw [Statement.text]
    exact closed_empty
  | unknownCall proccode =>
    rw [Statement.text]
    exact closed_unknownCallText (hown.comment_open rfl)
  | assignment field =>
    rw [Statement.text]
    -- the name is the one that the scope has behind the value
    have hname := (hown.sees_bare.after.bind field.variableId field.value).1
    refine closed_assignment ?_ (closed_of_isBare hname) (closed_soleText harguments)
    split
    · exact closed_empty
    · exact closed_declarationWord _
  | namelessAssignment =>
    rw [Statement.text]
    exact closed_namelessAssignmentText
  | parameter raw =>
    rw [Statement.text]
    exact closed_of_isBare (Identifier.isProper_parameter raw).toIsBare
  | choice value =>
    rw [Statement.text]
    exact closed_quote value
  | call name slots =>
    rw [Statement.text]
    exact closed_callText (hown.call_closed rfl) harguments
  | branch slots sockets =>
    rw [Statement.text]
    have hblank : Closed " " := closed_of_all (by decide)
    -- a construct is a call in front of its bodies, with blanks between
    have hhead := closed_callText (hown.branch_closed rfl) harguments
    exact (hhead.append hblank).append (hblank.intercalate hbodies)
  | unknown =>
    rw [Statement.text]
    exact closed_undefinedText (hown.comment_open rfl)

theorem closed_stack {texts : List String} (h : ∀ text ∈ texts, Closed text) :
    Closed (Layout.stack texts) := by
  have hbreak : Closed "\n" := closed_of_all (by decide)
  exact hbreak.intercalate h

theorem closed_stack_linesOf {lines : List Statement} (h : ∀ s ∈ lines, Closed s.text) :
    Closed (Layout.stack (linesOf lines)) := by
  refine closed_stack fun text htext => ?_
  rcases exists_of_mem_linesOf htext with ⟨s, hs, rfl⟩
  exact h s hs

/-- Statements are closed, with all that stands in them, if each alone is readable. -/
theorem Statement.closed_text (statement : Statement)
    (h : ∀ inner : Statement, inner.Within [statement] → inner.Readable) :
    Closed statement.text := by
  -- the lines of a script are readable if the script is, so each is closed by induction
  have hstack : ∀ lines : List Statement,
      (∀ s ∈ lines, (∀ inner : Statement, inner.Within [s] → inner.Readable) → Closed s.text) →
      (∀ inner : Statement, inner.Within lines → inner.Readable) →
      Closed (Layout.stack (linesOf lines)) := by
    intro lines hclosed hlines
    refine closed_stack_linesOf fun s hs => ?_
    exact hclosed s hs fun inner hinner => hlines inner (hinner.of_singleton hs)
  revert h
  refine Statement.induction
    (p := fun argument => argument.Sees Scope.IsBare →
      (∀ inner : Statement, inner.Within argument.lines → inner.Readable) →
      ∀ text, argument.text? = some text → Closed text)
    (q := fun s => (∀ inner : Statement, inner.Within [s] → inner.Readable) → Closed s.text)
    ?_ ?_ ?_ ?_ ?_ statement
  · intro lines hclosed _ hlines text htext
    cases htext
    exact hstack lines hclosed hlines
  · intro scope content hsees _ text htext
    exact closed_literalText? hsees htext
  · intro scope slot content hsees _ text htext
    cases htext
    exact closed_fieldText hsees slot content
  · intro _ _ text htext
    cases htext
    exact closed_emptyText
  · intro block form before arguments after bodies harguments hbodies h
    have hown := h _ (.line List.mem_cons_self)
    have htexts : ∀ text, some text ∈ textsOf arguments → Closed text := by
      intro text htext
      rw [textsOf_eq_map] at htext
      rcases List.mem_map.1 htext with ⟨argument, hmem, heq⟩
      have hinner : ∀ inner : Statement, inner.Within argument.lines → inner.Readable :=
        fun inner hinner => h inner (.argument List.mem_cons_self hmem hinner)
      exact harguments argument hmem (hown.sees_bare.arguments argument hmem) hinner text heq
    have hblocks : ∀ text ∈ bodiesOf bodies, Closed text := by
      intro text htext
      rw [bodiesOf_eq_map] at htext
      rcases List.mem_map.1 htext with ⟨body, hmem, rfl⟩
      have hinner : ∀ inner : Statement, inner.Within body → inner.Readable :=
        fun inner hinner => h inner (.body List.mem_cons_self hmem hinner)
      exact ((hstack body (hbodies body hmem) hinner).indent 1).braced
    exact closed_text_of_parts hown htexts hblocks

/-- A body between its braces is closed if the statements in it are readable. -/
theorem closed_body {lines : List Statement}
    (h : ∀ inner : Statement, inner.Within lines → inner.Readable) (level : Nat) :
    Closed (Layout.braced (scriptText level lines)) := by
  have hlines : Closed (Layout.stack (linesOf lines)) :=
    closed_stack_linesOf fun s hs =>
      s.closed_text fun inner hinner => h inner (hinner.of_singleton hs)
  exact (hlines.indent level).braced

/-! ## Forms -/

/-- The opcodes of a table have only characters that a bare word may have. -/
def SignatureTable.IsBare (table : SignatureTable) : Prop :=
  ∀ opcode ∈ table.keys, ∀ c ∈ opcode.toList, Identifier.isPart c = true

theorem SignatureTable.isBare_of_all {table : SignatureTable}
    (h : (table.keys.all fun opcode => opcode.toList.all Identifier.isPart) = true) :
    table.IsBare := by
  intro opcode hopcode
  exact List.all_eq_true.1 (List.all_eq_true.1 h opcode hopcode)

theorem closed_opcode {table : SignatureTable} (htable : table.IsBare) {opcode : String}
    {signature : Signature} (h : table.get? opcode = some signature) : Closed opcode := by
  have hkey : opcode ∈ table.keys :=
    List.mem_map.2 ⟨(opcode, signature), Dict.mem_entries_of_get? h, rfl⟩
  exact closed_of_isPart (htable opcode hkey)

/-- Where the name in front of a form's arguments comes from: a call is one of a procedure that the
scope knows or of an opcode that the table knows, and a construct has such an opcode. -/
def Form.IsNamed (table : SignatureTable) (scope : Scope) (block : Block) : Form → Prop
  | .call name _ =>
    (∃ proccode procedure, scope.procedure? proccode = some procedure ∧ procedure.name = name) ∨
      name = block.opcode ∧ ∃ signature, table.get? block.opcode = some signature
  | .branch _ _ => ∃ signature, table.get? block.opcode = some signature
  | _ => True

theorem Block.isNamed_form (table : SignatureTable) (scope : Scope) (headOnly : Bool)
    (block : Block) : (block.form table scope headOnly).IsNamed table scope block := by
  -- only calls and signatures bring a name along, and each comes from a table
  have hcall : (block.callForm scope).IsNamed table scope block := by
    unfold Block.callForm
    dsimp only
    split
    · trivial
    · split
      · rename_i procedure hprocedure
        exact .inl ⟨_, procedure, hprocedure, rfl⟩
      · trivial
  have hsignature : (block.signatureForm table headOnly).IsNamed table scope block := by
    unfold Block.signatureForm
    split
    · trivial
    · rename_i signature hsome
      split
      · exact ⟨signature, hsome⟩
      · exact .inr ⟨rfl, signature, hsome⟩
  unfold Block.form
  split_ifs
  · trivial
  · trivial
  · trivial
  · exact hcall
  · split
    · trivial
    · trivial
  · trivial
  · trivial
  · exact hsignature

/-- A statement in the form of its block is readable if the names and opcodes around it are bare and
its placeholder, if it is one, does not end a comment. -/
theorem readable_of_isFormed {table : SignatureTable} (htable : table.IsBare)
    {statement : Statement} {headOnly : Bool} (hformed : statement.IsFormed table headOnly)
    (hsees : statement.Sees Scope.IsBare)
    (hshown : ∀ {text}, statement.shown? = some text → endsComment text.toList = false) :
    statement.Readable := by
  have hnamed := statement.block.isNamed_form table statement.before headOnly
  rw [← hformed] at hnamed
  refine ⟨hsees, ?_, ?_, hshown⟩
  · intro name slots hcall
    rw [hcall] at hnamed
    -- a call is named by a registered procedure or by its opcode in the table
    rcases hnamed with ⟨proccode, procedure, hprocedure, rfl⟩ | ⟨rfl, signature, hsignature⟩
    · exact closed_of_isBare (hsees.before.procedure_bare hprocedure)
    · exact closed_opcode htable hsignature
  · intro slots sockets hbranch
    rw [hbranch] at hnamed
    rcases hnamed with ⟨signature, hsignature⟩
    exact closed_opcode htable hsignature

end BlockScribe
