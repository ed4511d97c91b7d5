import BlockScribe.Proofs.Emission.Scopes
import BlockScribe.Proofs.Text.Lines

/-! # Statements of one line

Apart from its bodies, a statement is written on one line, as long as the texts of the blocks and
the names in the scope have one line each. What it shows comes from its block, from the scope, and
from its arguments; an argument that is a script is one statement, and a construct that stands there
is written without its bodies.

* `Statement.head`: what is written in front of the bodies.
* `Statement.Plain`: what is needed of one statement alone.
* `Block.IsOneLine`, `Scope.IsOneLine`: the texts of a block and the names in a scope have one line.
* `allWithin_oneLine_head`: the heads of all statements in a drafted script have one line.
-/

namespace BlockScribe

/-! ## Heads -/

/-- What is written of a statement in front of its bodies. -/
def Statement.head (statement : Statement) : String :=
  match statement.form with
  | .branch _ _ => callText statement.block.opcode (textsOf statement.arguments)
  | _ => statement.text

theorem Statement.head_of_not_branch {statement : Statement}
    (h : ∀ slots sockets, statement.form ≠ .branch slots sockets) :
    statement.head = statement.text := by
  unfold Statement.head
  split
  · rename_i slots sockets hform
    exact absurd hform (h slots sockets)
  · rfl

/-- The word in the head of a statement that its block or the scope behind its arguments gives. -/
def Form.word (block : Block) (after : Scope) : Form → String
  | .unknownCall proccode => proccode
  | .assignment field => (after.bind field.variableId field.value).1
  | .choice value => value
  | .call name _ => name
  | .branch _ _ => block.opcode
  | .unknown => block.opcode
  | _ => ""

/-- What stands in an argument position has one line; a script there is one statement without
bodies. -/
def Argument.Plain : Argument → Prop
  | .script lines =>
    ∃ value, lines = [value] ∧ ∀ slots sockets, value.form ≠ .branch slots sockets
  | .literal scope content => ∀ text, literalText? scope content = some text → OneLine text
  | .field scope slot content => OneLine (fieldText scope slot content)
  | .absent => True

/-- What is needed of a statement, apart from the statements in it, for its head to have one
line. -/
structure Statement.Plain (statement : Statement) : Prop where
  word_oneLine : OneLine (statement.form.word statement.block statement.after)
  arguments_plain : ∀ argument ∈ statement.arguments, argument.Plain

theorem oneLine_emptyText : OneLine emptyText := by decide

theorem oneLine_getD {argument : Option String}
    (h : ∀ text, argument = some text → OneLine text) : OneLine (argument.getD emptyText) := by
  cases argument with
  | none => exact oneLine_emptyText
  | some text => exact h text rfl

section Texts

variable {arguments : List (Option String)} (h : ∀ text, some text ∈ arguments → OneLine text)
include h

theorem oneLine_callText {name : String} (hname : OneLine name) :
    OneLine (callText name arguments) := by
  have hcomma : OneLine ", " := by decide
  have hlist : OneLine (", ".intercalate (arguments.filterMap id)) := by
    refine hcomma.intercalate fun text htext => ?_
    obtain ⟨argument, hmem, hsome⟩ := List.mem_filterMap.1 htext
    have heq : argument = some text := hsome
    rw [heq] at hmem
    exact h text hmem
  have hopening : OneLine "(" := by decide
  have hclosing : OneLine ")" := by decide
  exact ((hname.append hopening).append hlist).append hclosing

theorem oneLine_soleText : OneLine (soleText arguments) := by
  refine oneLine_getD fun text htext => ?_
  obtain ⟨argument, hhead, hsome⟩ := Option.bind_eq_some_iff.1 htext
  have heq : argument = some text := hsome
  rw [heq] at hhead
  exact h text (List.mem_of_head? hhead)

end Texts

/-- The head of a statement has one line if its own word and its arguments have. -/
theorem oneLine_head_of_parts {block : Block} {form : Form} {before : Scope}
    {arguments : List Argument} {after : Scope} {bodies : List (List Statement)}
    (hword : OneLine (form.word block after))
    (harguments : ∀ text, some text ∈ textsOf arguments → OneLine text) :
    OneLine (Statement.mk block form before arguments after bodies).head := by
  -- a head is one word of the block and the arguments, with fixed texts between them
  cases form with
  | comparison =>
    show OneLine (Statement.text _)
    rw [Statement.text]
    have hsign : OneLine " != " := by decide
    refine hsign.intercalate fun text htext => ?_
    obtain ⟨argument, hmem, rfl⟩ := List.mem_map.1 htext
    exact oneLine_getD fun text heq => harguments text (heq ▸ hmem)
  | answer slot =>
    show OneLine (Statement.text _)
    rw [Statement.text]
    have hreturn : OneLine "return " := by decide
    exact hreturn.append (oneLine_soleText harguments)
  | logging => exact oneLine_empty
  | unknownCall proccode =>
    have hfront : OneLine "/* unknown custom block " := by decide
    have hback : OneLine " */" := by decide
    exact (hfront.append hword).append hback
  | assignment field =>
    show OneLine (Statement.text _)
    rw [Statement.text]
    have hdeclaration : ∀ isStage, OneLine (declarationWord isStage) := by decide
    have hsign : OneLine " = " := by decide
    refine ((OneLine.append ?_ hword).append hsign).append (oneLine_soleText harguments)
    split
    · exact oneLine_empty
    · exact hdeclaration _
  | namelessAssignment =>
    show OneLine namelessAssignmentText
    decide
  | parameter raw => exact oneLine_of_isBare (Identifier.isProper_parameter raw).toIsBare
  | choice value => exact oneLine_quote hword
  | call name slots => exact oneLine_callText harguments hword
  | branch slots sockets => exact oneLine_callText harguments hword
  | unknown =>
    have hfront : OneLine "/* undefined definition for " := by decide
    have hback : OneLine " */" := by decide
    exact (hfront.append hword).append hback

/-- The text of a script of one statement without bodies is the head of the statement, or nothing at
all. -/
theorem oneLine_stack_singleton {value : Statement} (hhead : OneLine value.head)
    (hvalue : ∀ slots sockets, value.form ≠ .branch slots sockets) :
    OneLine (Layout.stack (linesOf [value])) := by
  rw [Statement.head_of_not_branch hvalue] at hhead
  unfold linesOf
  split
  · exact oneLine_empty
  · have hstack : Layout.stack (value.text :: linesOf []) = value.text :=
      String.intercalate_singleton
    rw [hstack]
    exact hhead

/-- Heads have one line if each statement in them is plain. -/
theorem Statement.oneLine_head (statement : Statement)
    (h : AllWithin Statement.Plain [statement]) : OneLine statement.head := by
  revert h
  -- an argument is on one line if it is plain; a head is, if all arguments are
  refine Statement.induction
    (p := fun argument => argument.Plain → AllWithin Statement.Plain argument.lines →
      ∀ text, argument.text? = some text → OneLine text)
    (q := fun s => AllWithin Statement.Plain [s] → OneLine s.head) ?_ ?_ ?_ ?_ ?_ statement
  · rintro lines hlines ⟨value, rfl, hvalue⟩ hwithin text htext
    -- a nested value is one line, so stacking it adds no break
    cases htext
    exact oneLine_stack_singleton (hlines value List.mem_cons_self hwithin) hvalue
  · intro scope content hplain _ text htext
    exact hplain text htext
  · intro scope slot content hplain _ text htext
    cases htext
    exact hplain
  · intro _ _ text htext
    cases htext
    exact oneLine_emptyText
  · intro block form before arguments after bodies harguments _ h
    have hown := h _ (.line List.mem_cons_self)
    refine oneLine_head_of_parts hown.word_oneLine fun text htext => ?_
    rw [textsOf_eq_map] at htext
    obtain ⟨argument, hmem, heq⟩ := List.mem_map.1 htext
    exact harguments argument hmem (hown.arguments_plain argument hmem)
      (fun inner hinner => h inner (.argument List.mem_cons_self hmem hinner)) text heq

/-! ## Words of blocks and names of scopes -/

/-- The value of a literal that stands in an input. -/
def Input.words : Input → List String
  | .literal content => [content.value]
  | .block _ => []

/-- The texts of a block that a script may show: its opcode, its proccode, and the values of its
literals and fields. -/
def Block.words (block : Block) : List String :=
  block.opcode :: ((block.mutation.bind Mutation.proccode).toList ++
    (block.inputs.values.flatMap Input.words ++ block.fields.values.map Field.value))

/-- All texts of a block have one line. -/
def Block.IsOneLine (block : Block) : Prop := ∀ word ∈ block.words, OneLine word

instance (block : Block) : Decidable block.IsOneLine :=
  inferInstanceAs (Decidable (∀ word ∈ block.words, OneLine word))

/-- All names in a scope have one line. -/
def Scope.IsOneLine (scope : Scope) : Prop := ∀ name ∈ scope.names, OneLine name

instance (scope : Scope) : Decidable scope.IsOneLine :=
  inferInstanceAs (Decidable (∀ name ∈ scope.names, OneLine name))

section Words

variable {block : Block} (h : block.IsOneLine)
include h

theorem Block.IsOneLine.opcode : OneLine block.opcode := h _ List.mem_cons_self

theorem Block.IsOneLine.proccode : OneLine ((block.mutation.bind Mutation.proccode).getD "") := by
  cases hproccode : block.mutation.bind Mutation.proccode with
  | none => exact oneLine_empty
  | some proccode =>
    refine h _ (List.mem_cons_of_mem _ (List.mem_append_left _ ?_))
    rw [hproccode]
    exact List.mem_cons_self

theorem Block.IsOneLine.literal {slot : String} {literal : Literal}
    (hinput : block.inputs.get? slot = some (.literal literal)) : OneLine literal.value := by
  have hword : literal.value ∈ block.inputs.values.flatMap Input.words :=
    List.mem_flatMap.2 ⟨_, Dict.mem_values_of_get? hinput, List.mem_cons_self⟩
  exact h _ (List.mem_cons_of_mem _ (List.mem_append_right _ (List.mem_append_left _ hword)))

theorem Block.IsOneLine.field {field : Field} (hfield : field ∈ block.fields.values) :
    OneLine field.value := by
  have hword : field.value ∈ block.fields.values.map Field.value := List.mem_map_of_mem hfield
  exact h _ (List.mem_cons_of_mem _ (List.mem_append_right _ (List.mem_append_right _ hword)))

end Words

/-- The name that binding answers is in use behind it, and was before or is new. -/
theorem Scope.IsOneLine.bind {scope : Scope} (h : scope.IsOneLine) (id raw : String) :
    OneLine (scope.bind id raw).1 ∧ (scope.bind id raw).2.IsOneLine := by
  cases hname : scope.name? id with
  | some name =>
    rw [Scope.bind_of_name? hname]
    exact ⟨h name (Scope.mem_names_of_name? hname), h⟩
  | none =>
    -- a fresh name is a bare word, and the other names were there before
    have hfresh := oneLine_of_isBare (Scope.isProper_freshName scope raw).toIsBare
    rw [Scope.bind_of_unbound hname]
    refine ⟨hfresh, fun name hmem => ?_⟩
    unfold Scope.names Scope.inherit Dict.values at hmem
    rw [Dict.entries_insert_of_get?_eq_none hname, List.map_append] at hmem
    rcases List.mem_append.1 hmem with hbinding | hprocedure
    · rcases List.mem_append.1 hbinding with hold | hnew
      · exact h name (List.mem_append_left _ hold)
      · rw [List.mem_singleton.1 hnew]
        exact hfresh
    · exact h name (List.mem_append_right _ hprocedure)

theorem Session.Step.keeps_isOneLine {blocks : Dict String Block} {before after : Session}
    (h : Session.Step blocks before after) (hbefore : before.scope.IsOneLine) :
    after.scope.IsOneLine := by
  cases h with
  | note _ => exact hbefore
  | bind _ _ _ _ => exact (hbefore.bind _ _).2

theorem oneLine_boundName {scope : Scope} (h : scope.IsOneLine) (id : Option String)
    (raw : String) : OneLine (boundName scope id raw) := by
  unfold boundName
  cases hname : id.bind scope.name? with
  | none => exact oneLine_of_isBare (Identifier.isBare_ofRaw raw)
  | some name =>
    obtain ⟨bound, -, hbound⟩ := Option.bind_eq_some_iff.1 hname
    exact h name (Scope.mem_names_of_name? hbound)

theorem oneLine_fieldText {scope : Scope} (h : scope.IsOneLine) (slot : String) {field : Field}
    (hvalue : OneLine field.value) : OneLine (fieldText scope slot field) := by
  unfold fieldText
  split
  · exact oneLine_boundName h _ _
  · exact oneLine_quote hvalue

theorem oneLine_literalText? {scope : Scope} (h : scope.IsOneLine) {literal : Literal}
    (hvalue : OneLine literal.value) {text : String}
    (htext : literalText? scope literal = some text) : OneLine text := by
  unfold literalText? at htext
  split at htext
  · cases htext
    exact oneLine_quote hvalue
  · cases htext
    exact oneLine_quote hvalue
  · cases htext
    exact oneLine_quote hvalue
  · cases htext
    exact oneLine_boundName h _ _
  · cases htext
    exact oneLine_boundName h _ _
  · cases htext
  · cases htext
    exact oneLine_render hvalue

/-- The word of a form is a text of the block or a name in one of the scopes. -/
theorem Block.oneLine_word {block : Block} (h : block.IsOneLine) {scope after : Scope}
    (hscope : scope.IsOneLine) (hafter : after.IsOneLine) (table : SignatureTable)
    (headOnly : Bool) : OneLine ((block.form table scope headOnly).word block after) := by
  -- the word comes from the scope, the block or the table, each on one line
  have hcall : OneLine ((block.callForm scope).word block after) := by
    unfold Block.callForm
    dsimp only
    split
    · exact oneLine_empty
    · split
      · rename_i procedure hprocedure
        exact hscope _ (Scope.mem_names_of_procedure? hprocedure)
      · exact h.proccode
  have hsignature : OneLine ((block.signatureForm table headOnly).word block after) := by
    unfold Block.signatureForm
    split
    · exact h.opcode
    · split
      · exact h.opcode
      · exact h.opcode
  have hchoice : OneLine ((block.firstField?.map Field.value).getD "") := by
    unfold Block.firstField?
    cases hfirst : block.fields.values.head? with
    | none => exact oneLine_empty
    | some field => exact h.field (List.mem_of_head? hfirst)
  unfold Block.form
  split_ifs
  · exact oneLine_empty
  · exact oneLine_empty
  · exact oneLine_empty
  · exact hcall
  · split
    · exact (hafter.bind _ _).1
    · exact oneLine_empty
  · exact oneLine_empty
  · exact hchoice
  · exact hsignature

/-! ## Values -/

/-- A value is one statement, and not a construct with bodies. -/
theorem value_of_draftAt {sources : Sources} {room : Nat} {entered : List String} {id : String}
    {session after : Session} {lines : List Statement}
    (h : draftAt sources room entered id .value session = .ok lines after) :
    ∃ value, lines = [value] ∧ ∀ slots sockets, value.form ≠ .branch slots sockets := by
  cases room with
  | zero => cases h
  | succ room =>
    unfold draftAt at h
    cases hget : sources.blocks.get? id with
    | none =>
      rw [draftChain_of_missing hget] at h
      cases h
    | some block =>
      by_cases hmem : id ∈ entered
      · rw [draftChain_of_entered hget hmem] at h
        cases h
      · rw [draftChain_of_new hget hmem] at h
        obtain ⟨value, between, hvalue, h⟩ := exists_of_bind_eq_ok h
        cases h
        refine ⟨value, rfl, fun slots sockets hbranch => ?_⟩
        -- the head alone is written, so its form has no bodies
        have hform : draftForm (draftAt sources room (id :: entered)) block
            (block.form sources.table session.scope true) session = .ok value after := hvalue
        obtain ⟨arguments, middle, bodies, last, -, -, -, rfl⟩ := draftForm_eq_ok hform
        exact absurd (Block.form_eq_branch_iff.1 hbranch).1 (by decide)

theorem Argument.Fills.plain {sources : Sources} {room : Nat} {entered : List String}
    {block : Block} {scope : Scope} {slot : String} {argument : Argument}
    (h : argument.Fills (draftAt sources room entered) block scope slot)
    (hblock : block.IsOneLine) (hsees : argument.Sees Scope.IsOneLine) : argument.Plain := by
  cases h.filledFrom with
  | script hinput _ =>
    -- a block in an input is written alone, so it is a single line
    obtain ⟨start, after, -, hrun⟩ := h
    rw [draftSlot_of_block hinput] at hrun
    obtain ⟨lines, hlines, heq⟩ := exists_of_map_eq_ok hrun
    cases heq
    exact value_of_draftAt hlines
  | literal hinput _ =>
    exact fun text htext => oneLine_literalText? hsees (hblock.literal hinput) htext
  | field _ hfield _ =>
    exact oneLine_fieldText hsees slot (hblock.field (Dict.mem_values_of_get? hfield))
  | absent _ _ => trivial

/-- Statements within a script are plain if the texts of the blocks and the names in the scope at
its start have one line each. -/
theorem allWithin_plain {sources : Sources}
    (hblocks : ∀ block ∈ sources.blocks.values, block.IsOneLine) {room : Nat}
    {entered : List String} {id : String} {mode : Mode} {session after : Session}
    (hscope : session.scope.IsOneLine) {lines : List Statement}
    (h : draftAt sources room entered id mode session = .ok lines after) :
    AllWithin Statement.Plain lines := by
  intro statement hwithin
  have hsees := allWithin_draftAt Session.Step.keeps_isOneLine
    (draftsAs_sees Session.Step.keeps_isOneLine) h hscope statement hwithin
  -- every statement is written from a block of the map
  obtain ⟨⟨_, _, hdrafted⟩, headOnly, -, hform⟩ := placed_of_within h hwithin
  obtain ⟨key, hget⟩ := hdrafted.known
  have hblock := hblocks _ (Dict.mem_values_of_get? hget)
  refine ⟨?_, fun argument hargument => ?_⟩
  · rw [hform]
    exact Block.oneLine_word hblock hsees.before hsees.after sources.table headOnly
  · obtain ⟨slot, hfills⟩ := exists_fills_of_mem hdrafted.arguments_fill hargument
    exact hfills.plain hblock (hsees.arguments argument hargument)

/-- So the heads of all statements within have one line. -/
theorem allWithin_oneLine_head {sources : Sources}
    (hblocks : ∀ block ∈ sources.blocks.values, block.IsOneLine) {room : Nat}
    {entered : List String} {id : String} {mode : Mode} {session after : Session}
    (hscope : session.scope.IsOneLine) {lines : List Statement}
    (h : draftAt sources room entered id mode session = .ok lines after) :
    AllWithin (fun s => OneLine s.head) lines :=
  fun statement hwithin =>
    statement.oneLine_head ((allWithin_plain hblocks hscope h).of_within hwithin)

end BlockScribe
