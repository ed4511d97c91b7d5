import BlockScribe.Proofs.Emission.Frame

/-! # Drafts of scripts

A draft is a script before it is text: which block stands where, in which form, with which
arguments and bodies, and the scope in which each name was looked up. Drafting makes the same
changes to the session as writing, fails where writing fails, and what is written is the text of
the draft (`emitAt_eq_draftAt`). So what stands at a place of a script can be said about the draft
and holds of the text.

* `Statement` and `Argument`: a block as it is written, and what stands in one of its slots.
* `Statement.text`: the text of a statement, from the texts of its parts.
* `draftAt`: the draft of the script that starts at a block.
-/

namespace BlockScribe

mutual

/-- What stands in an argument position of a statement. -/
inductive Argument where
  /-- The script behind a link. -/
  | script (lines : List Statement)
  /-- A literal, and the scope that it was written in. -/
  | literal (scope : Scope) (content : Literal)
  /-- A field of the slot, and the scope that it was written in. -/
  | field (scope : Scope) (slot : String) (content : Field)
  /-- An empty slot. -/
  | absent

/-- A block as it is written: its form, its arguments and its bodies, with the scopes before and
behind the arguments. A socket without a block has a body without lines. -/
inductive Statement where
  | mk (block : Block) (form : Form) (before : Scope) (arguments : List Argument)
    (after : Scope) (bodies : List (List Statement))

end

namespace Statement

def block : Statement → Block
  | .mk block _ _ _ _ _ => block

def form : Statement → Form
  | .mk _ form _ _ _ _ => form

def before : Statement → Scope
  | .mk _ _ before _ _ _ => before

def arguments : Statement → List Argument
  | .mk _ _ _ arguments _ _ => arguments

def after : Statement → Scope
  | .mk _ _ _ _ after _ => after

def bodies : Statement → List (List Statement)
  | .mk _ _ _ _ _ bodies => bodies

/-- Induction over drafts: what holds of an argument if it holds of the lines in it, and of a
statement if it holds of its arguments and of the lines of its bodies, holds of all statements. -/
theorem induction {p : Argument → Prop} {q : Statement → Prop}
    (hscript : ∀ lines, (∀ s ∈ lines, q s) → p (.script lines))
    (hliteral : ∀ scope content, p (.literal scope content))
    (hfield : ∀ scope slot content, p (.field scope slot content))
    (habsent : p .absent)
    (hstatement : ∀ block form before arguments after bodies, (∀ a ∈ arguments, p a) →
      (∀ body ∈ bodies, ∀ s ∈ body, q s) →
      q (.mk block form before arguments after bodies))
    (statement : Statement) : q statement := by
  -- the other three motives are for lists: of statements, of arguments and of bodies
  refine @Statement.rec p q (fun lines => ∀ s ∈ lines, q s)
    (fun arguments => ∀ a ∈ arguments, p a)
    (fun bodies => ∀ body ∈ bodies, ∀ s ∈ body, q s)
    hscript hliteral hfield habsent hstatement ?_ ?_ ?_ ?_ ?_ ?_ statement
  · exact List.forall_mem_nil _
  · intro first rest hfirst hrest
    exact List.forall_mem_cons.2 ⟨hfirst, hrest⟩
  · exact List.forall_mem_nil _
  · intro first rest hfirst hrest
    exact List.forall_mem_cons.2 ⟨hfirst, hrest⟩
  · exact List.forall_mem_nil _
  · intro first rest hfirst hrest
    exact List.forall_mem_cons.2 ⟨hfirst, hrest⟩

end Statement

/-! ## The text of a draft -/

mutual

/-- The text of an argument, unless it is left out. -/
def Argument.text? : Argument → Option String
  | .script lines => some (Layout.stack (linesOf lines))
  | .literal scope content => literalText? scope content
  | .field scope slot content => some (fieldText scope slot content)
  | .absent => some emptyText

def textsOf : List Argument → List (Option String)
  | [] => []
  | argument :: rest => argument.text? :: textsOf rest

/-- The text of a statement. -/
def Statement.text : Statement → String
  | .mk block form before arguments after bodies =>
    match form with
    | .comparison => " != ".intercalate ((textsOf arguments).map fun text => text.getD emptyText)
    | .answer _ => "return " ++ soleText (textsOf arguments)
    | .logging => ""
    | .unknownCall proccode => unknownCallText proccode
    | .assignment field =>
      (if before.isDeclared field.variableId then "" else declarationWord after.isStage) ++
        (after.bind field.variableId field.value).1 ++ " = " ++ soleText (textsOf arguments)
    | .namelessAssignment => namelessAssignmentText
    | .parameter raw => Identifier.parameter raw
    | .choice value => Quoted.quote value
    | .call name _ => callText name (textsOf arguments)
    | .branch _ _ =>
      callText block.opcode (textsOf arguments) ++ " " ++ " ".intercalate (bodiesOf bodies)
    | .unknown => undefinedText block.opcode

/-- The lines of a script; a statement without text leaves none. -/
def linesOf : List Statement → List String
  | [] => []
  | statement :: rest =>
    if statement.text.isEmpty then linesOf rest else statement.text :: linesOf rest

def bodiesOf : List (List Statement) → List String
  | [] => []
  | lines :: rest =>
    Layout.braced (Layout.indent 1 (Layout.stack (linesOf lines))) :: bodiesOf rest

end

theorem textsOf_eq_map (arguments : List Argument) :
    textsOf arguments = arguments.map Argument.text? := by
  induction arguments with
  | nil => rfl
  | cons argument rest ih => simp [textsOf, ih]

/-- The lines of a script are texts of its statements. -/
theorem exists_of_mem_linesOf {lines : List Statement} {text : String} (h : text ∈ linesOf lines) :
    ∃ statement ∈ lines, statement.text = text := by
  induction lines with
  | nil => exact absurd h List.not_mem_nil
  | cons first rest ih =>
    unfold linesOf at h
    have htail : text ∈ linesOf rest → ∃ statement ∈ first :: rest, statement.text = text := by
      intro hrest
      rcases ih hrest with ⟨statement, hmem, htext⟩
      exact ⟨statement, List.mem_cons_of_mem _ hmem, htext⟩
    -- an empty text leaves no line
    split at h
    · exact htail h
    · rcases List.mem_cons.1 h with rfl | hrest
      · exact ⟨first, List.mem_cons_self, rfl⟩
      · exact htail hrest

/-- The text of a script, indented by `level` tabs. -/
def scriptText (level : Nat) (lines : List Statement) : String :=
  Layout.indent level (Layout.stack (linesOf lines))

theorem bodiesOf_eq_map (bodies : List (List Statement)) :
    bodiesOf bodies = bodies.map fun lines => Layout.braced (scriptText 1 lines) := by
  induction bodies with
  | nil => rfl
  | cons lines rest ih =>
    rw [bodiesOf, ih]
    rfl

/-! ## Drafting -/

/-- A way to draft the script that starts at a block. -/
abbrev Drafting := (id : String) → (mode : Mode) → Render (List Statement)

/-- Drafts what stands in a slot. -/
def draftSlot (nested : Drafting) (block : Block) (slot : String) : Render Argument :=
  match block.inputs.get? slot with
  | some (.block id) => Argument.script <$> nested id .value
  | some (.literal literal) => do
    let session ← get
    let _ ← renderLiteral block literal
    return .literal session.scope literal
  | none =>
    match block.fields.get? slot with
    | some field => do
      let session ← get
      return .field session.scope slot field
    | none => pure .absent

/-- Drafts slots one after the other. -/
def draftSlots (nested : Drafting) (block : Block) : List String → Render (List Argument)
  | [] => pure []
  | slot :: rest => do
    let argument ← draftSlot nested block slot
    let arguments ← draftSlots nested block rest
    return argument :: arguments

/-- Drafts the script behind a link; where there is none, the script has no lines. -/
def draftLink (nested : Drafting) : Option String → Render (List Statement)
  | some id => nested id .chain
  | none => pure []

/-- Drafts the bodies in the sockets of a construct. -/
def draftBodies (nested : Drafting) (block : Block) :
    List String → Render (List (List Statement))
  | [] => pure []
  | socket :: rest => do
    let body ← draftLink nested (block.inputBlock? socket)
    let bodies ← draftBodies nested block rest
    return body :: bodies

/-- What a block changes in the session when its parts are written: an assignment binds its
variable, and a block that cannot be written properly is noted. -/
def settle (block : Block) : Form → Render Unit
  | .assignment field => do
    let _ ← Render.bindName field.variableId field.value
    return ()
  | .unknownCall proccode => Render.note block (.unknownProcedure proccode)
  | .namelessAssignment => Render.note block .assignmentWithoutVariable
  | .unknown => Render.note block (.undefinedOpcode block.opcode)
  | _ => pure ()

/-- Drafts a block in its form. -/
def draftForm (nested : Drafting) (block : Block) (form : Form) : Render Statement := do
  let before ← get
  let arguments ← draftSlots nested block form.slots
  let after ← get
  let bodies ← draftBodies nested block form.sockets
  settle block form
  return .mk block form before.scope arguments after.scope bodies

/-- Drafts a block. -/
def draftBlock (table : SignatureTable) (nested : Drafting) (headOnly : Bool) (block : Block) :
    Render Statement := do
  let session ← get
  draftForm nested block (block.form table session.scope headOnly)

/-- Drafts the blocks of a script. -/
def draftChain (blocks : Dict String Block) (single : List String → Block → Render Statement)
    (followNext : Bool) (entered : List String) (id : String) : Render (List Statement) :=
  match _hget : blocks.get? id with
  | none => Render.stop (.missing id) entered
  | some block =>
    if _hnew : id ∈ entered then Render.stop (.cyclic id) entered
    else do
      let statement ← single (id :: entered) block
      let rest ← match block.successor? followNext with
        | some next => draftChain blocks single followNext (id :: entered) next
        | none => pure []
      return statement :: rest
termination_by unentered blocks entered
decreasing_by exact unentered_lt _hget _hnew

/-- Drafts the script that starts at a block, with `room` levels left for it, while the blocks of
`entered` are being written. -/
def draftAt (sources : Sources) : (room : Nat) → (entered : List String) → Drafting
  | 0, entered, id, _ => Render.stop (.tooDeep id) entered
  | room + 1, entered, id, mode =>
    draftChain sources.blocks
      (fun entered block =>
        draftBlock sources.table (draftAt sources room entered) mode.headOnly block)
      mode.followNext entered id

section Chain

variable {blocks : Dict String Block} {single : List String → Block → Render Statement}
  {followNext : Bool} {entered : List String} {id : String}

theorem draftChain_of_missing (hget : blocks.get? id = none) :
    draftChain blocks single followNext entered id = Render.stop (.missing id) entered := by
  rw [draftChain]
  split
  · rfl
  · rename_i block hsome
    rw [hget] at hsome
    cases hsome

theorem draftChain_of_entered {block : Block} (hget : blocks.get? id = some block)
    (hmem : id ∈ entered) :
    draftChain blocks single followNext entered id = Render.stop (.cyclic id) entered := by
  rw [draftChain]
  split
  · rename_i hnone
    rw [hget] at hnone
    cases hnone
  · rw [dif_pos hmem]

theorem draftChain_of_new {block : Block} (hget : blocks.get? id = some block)
    (hnew : id ∉ entered) :
    draftChain blocks single followNext entered id = (do
      let statement ← single (id :: entered) block
      let rest ← match block.successor? followNext with
        | some next => draftChain blocks single followNext (id :: entered) next
        | none => pure []
      return statement :: rest) := by
  rw [draftChain]
  split
  · rename_i hnone
    rw [hget] at hnone
    cases hnone
  · rename_i found hsome
    rw [hget] at hsome
    cases hsome
    rw [dif_neg hnew]

/-- What holds of a script with one line, and of a script with a line in front of others for which
it holds, holds of every drafted script. -/
theorem draftChain_induction {motive : Session → List Statement → Session → Prop}
    (hlast : ∀ {entered key block session first after}, blocks.get? key = some block →
      single entered block session = .ok first after → motive session [first] after)
    (hmore : ∀ {entered key block session first between rest after},
      blocks.get? key = some block → single entered block session = .ok first between →
      motive between rest after → motive session (first :: rest) after)
    {session after : Session} {lines : List Statement}
    (h : draftChain blocks single followNext entered id session = .ok lines after) :
    motive session lines after := by
  induction entered, id using renderChain.induct blocks generalizing session lines after with
  | case1 entered id hget =>
    rw [draftChain_of_missing hget] at h
    cases h
  | case2 entered id block hget hmem =>
    rw [draftChain_of_entered hget hmem] at h
    cases h
  | case3 entered id block hget hnew ih =>
    rw [draftChain_of_new hget hnew] at h
    rcases exists_of_bind_eq_ok h with ⟨first, between, hfirst, h⟩
    cases hnext : block.successor? followNext with
    | none =>
      rw [hnext] at h
      cases h
      -- the script ends here
      exact hlast hget hfirst
    | some next =>
      rw [hnext] at h
      rcases exists_of_bind_eq_ok h with ⟨rest, finish, hchain, h⟩
      cases h
      -- the rest of the script is shorter by one block that can be entered
      exact hmore hget hfirst (ih next hchain)

end Chain

/-- A drafted statement: its arguments are drafted first, then its bodies, and then it is
settled. -/
theorem draftForm_eq_ok {nested : Drafting} {block : Block} {form : Form}
    {session after : Session} {statement : Statement}
    (h : draftForm nested block form session = .ok statement after) :
    ∃ arguments between bodies last,
      draftSlots nested block form.slots session = .ok arguments between ∧
      draftBodies nested block form.sockets between = .ok bodies last ∧
      settle block form last = .ok () after ∧
      statement = .mk block form session.scope arguments between.scope bodies := by
  unfold draftForm at h
  rcases exists_of_bind_eq_ok h with ⟨before, _, hbefore, h⟩
  -- looking at the session changes nothing
  cases hbefore
  rcases exists_of_bind_eq_ok h with ⟨arguments, between, harguments, h⟩
  rcases exists_of_bind_eq_ok h with ⟨_, _, hget, h⟩
  cases hget
  rcases exists_of_bind_eq_ok h with ⟨bodies, last, hbodies, h⟩
  rcases exists_of_bind_eq_ok h with ⟨_, finish, hsettle, h⟩
  cases h
  exact ⟨arguments, between, bodies, last, harguments, hbodies, hsettle, rfl⟩

/-! ## Writing is drafting -/

theorem renderLiteral_run (owner : Block) (literal : Literal) (session : Session) :
    renderLiteral owner literal session =
      .ok (literalText? session.scope literal)
        (match literalText? session.scope literal with
          | some _ => session
          | none =>
            { session with
              diagnostics := session.diagnostics ++
                [⟨some owner.id, .unknownLiteral literal.kind.code⟩] }) := by
  show (match literalText? session.scope literal with
    | some text => pure (some text)
    | none => do
      Render.note owner (.unknownLiteral literal.kind.code)
      return none : Render (Option String)) session = _
  cases literalText? session.scope literal with
  | some text => rfl
  | none => rfl

theorem draftSlot_of_block {nested : Drafting} {block : Block} {slot id : String}
    (hinput : block.inputs.get? slot = some (.block id)) :
    draftSlot nested block slot = Argument.script <$> nested id .value := by
  unfold draftSlot
  rw [hinput]

theorem draftSlot_of_literal {nested : Drafting} {block : Block} {slot : String}
    {literal : Literal} (hinput : block.inputs.get? slot = some (.literal literal))
    (session : Session) :
    draftSlot nested block slot session =
      .ok (.literal session.scope literal) (endOf (renderLiteral block literal) session) := by
  have hrun := renderLiteral_run block literal session
  unfold draftSlot
  rw [hinput, endOf_of_ok hrun]
  show (renderLiteral block literal >>= fun _ =>
    (pure (.literal session.scope literal) : Render Argument)) session = _
  rw [bind_of_ok hrun]
  rfl

theorem draftSlot_of_field {nested : Drafting} {block : Block} {slot : String} {field : Field}
    (hinput : block.inputs.get? slot = none) (hfield : block.fields.get? slot = some field)
    (session : Session) :
    draftSlot nested block slot session = .ok (.field session.scope slot field) session := by
  unfold draftSlot
  rw [hinput, hfield]
  rfl

theorem draftSlot_of_absent {nested : Drafting} {block : Block} {slot : String}
    (hinput : block.inputs.get? slot = none) (hfield : block.fields.get? slot = none) :
    draftSlot nested block slot = pure .absent := by
  unfold draftSlot
  rw [hinput, hfield]

section Writing

variable {nested : Nested} {drafting : Drafting}
  (hnested : ∀ id level mode, nested id level mode = scriptText level <$> drafting id mode)
include hnested

theorem renderSlot_eq_draftSlot (block : Block) (slot : String) :
    renderSlot nested block slot = Argument.text? <$> draftSlot drafting block slot := by
  cases hinput : block.inputs.get? slot with
  | some input =>
    cases input with
    | block id =>
      rw [draftSlot_of_block hinput, Functor.map_map]
      unfold renderSlot
      rw [hinput]
      show some <$> nested id 0 .value = _
      rw [hnested, Functor.map_map]
      rfl
    | literal literal =>
      -- a literal may note a problem, so the two are compared run by run
      funext session
      have hrun := renderLiteral_run block literal session
      rw [map_of_ok (draftSlot_of_literal hinput session), endOf_of_ok hrun]
      unfold renderSlot
      rw [hinput]
      exact hrun
  | none =>
    unfold renderSlot
    rw [hinput]
    cases hfield : block.fields.get? slot with
    | some field =>
      -- a field is read in the scope of the moment
      funext session
      rw [map_of_ok (draftSlot_of_field hinput hfield session)]
      rfl
    | none =>
      rw [draftSlot_of_absent hinput hfield]
      rfl

theorem renderSlots_eq_draftSlots (block : Block) (slots : List String) :
    renderSlots nested block slots = textsOf <$> draftSlots drafting block slots := by
  induction slots with
  | nil => rfl
  | cons slot rest ih =>
    unfold renderSlots draftSlots
    rw [renderSlot_eq_draftSlot hnested, ih]
    simp only [map_bind, bind_map_left, map_pure, textsOf]

theorem renderBodies_eq_draftBodies (block : Block) (sockets : List String) :
    renderBodies nested block sockets = bodiesOf <$> draftBodies drafting block sockets := by
  induction sockets with
  | nil => rfl
  | cons socket rest ih =>
    unfold renderBodies draftBodies
    rw [ih]
    cases block.inputBlock? socket with
    | some id =>
      simp only [hnested, draftLink, map_bind, bind_map_left, map_pure, bodiesOf, scriptText]
    | none =>
      simp only [draftLink, pure_bind, map_bind, bind_map_left, map_pure, bodiesOf, linesOf]
      rfl

/-- Writing a block in a form is drafting it and taking the text. -/
theorem renderForm_eq_draftForm (block : Block) (form : Form) :
    renderForm nested block form = Statement.text <$> draftForm drafting block form := by
  unfold renderForm draftForm
  rw [renderSlots_eq_draftSlots hnested]
  simp only [map_bind, bind_map_left]
  refine bind_congr fun before => bind_congr fun arguments => ?_
  cases form with
  | branch slots sockets =>
    show (renderBodies nested block sockets >>= fun bodies =>
      pure (callText block.opcode (textsOf arguments) ++ " " ++ " ".intercalate bodies)) = _
    rw [renderBodies_eq_draftBodies hnested, bind_map_left]
    rfl
  | assignment field =>
    -- the variable is bound in the scope behind the arguments, and the stage flag stays
    funext session
    have hstage := Scope.isStage_bind session.scope field.variableId field.value
    have hrun := assign_run field (!before.scope.isDeclared field.variableId)
      (soleText (textsOf arguments)) session
    rw [hstage] at hrun
    refine hrun.trans ?_
    have htext : ∀ value : String,
        (if (!before.scope.isDeclared field.variableId) = true then
          declarationWord session.scope.isStage else "") ++ value =
        (if before.scope.isDeclared field.variableId = true then ""
          else declarationWord session.scope.isStage) ++ value := by
      intro value
      cases before.scope.isDeclared field.variableId with
      | false => rfl
      | true => rfl
    rw [htext]
    rfl
  | unknownCall proccode => rfl
  | namelessAssignment => rfl
  | unknown => rfl
  | comparison => rfl
  | answer slot => rfl
  | logging => rfl
  | parameter raw => rfl
  | choice value => rfl
  | call name slots => rfl

theorem renderBlock_eq_draftBlock (table : SignatureTable) (headOnly : Bool) (block : Block) :
    renderBlock table nested headOnly block =
      Statement.text <$> draftBlock table drafting headOnly block := by
  unfold renderBlock draftBlock
  rw [map_bind]
  exact bind_congr fun session => renderForm_eq_draftForm hnested block _

end Writing

theorem renderChain_eq_draftChain {blocks : Dict String Block}
    {single : List String → Block → Render String}
    {draft : List String → Block → Render Statement}
    (hsingle : ∀ entered block, single entered block = Statement.text <$> draft entered block)
    (followNext : Bool) (entered : List String) (id : String) :
    renderChain blocks single followNext entered id =
      linesOf <$> draftChain blocks draft followNext entered id := by
  induction entered, id using renderChain.induct blocks with
  | case1 entered id hget =>
    rw [renderChain_of_missing hget, draftChain_of_missing hget]
    rfl
  | case2 entered id block hget hmem =>
    rw [renderChain_of_entered hget hmem, draftChain_of_entered hget hmem]
    rfl
  | case3 entered id block hget hnew ih =>
    -- an empty text leaves no line on either side
    rw [renderChain_of_new hget hnew, draftChain_of_new hget hnew, hsingle]
    simp only [map_bind, bind_map_left]
    refine bind_congr fun statement => ?_
    cases block.successor? followNext with
    | none => rfl
    | some next =>
      dsimp only
      rw [ih next]
      simp only [map_bind, bind_map_left, map_pure, linesOf]

/-- What is written is the text of the draft, and both leave the same session. -/
theorem emitAt_eq_draftAt (sources : Sources) (room : Nat) (entered : List String) (id : String)
    (level : Nat) (mode : Mode) :
    emitAt sources room entered id level mode =
      scriptText level <$> draftAt sources room entered id mode := by
  induction room generalizing entered id level mode with
  | zero => rfl
  | succ room ih =>
    unfold emitAt draftAt
    -- both count the same levels, so what is nested is equal by induction
    rw [renderChain_eq_draftChain fun inner block =>
      renderBlock_eq_draftBlock (ih inner) sources.table mode.headOnly block]
    rw [bind_map_left, map_eq_pure_bind]
    rfl

end BlockScribe
