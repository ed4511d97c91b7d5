import BlockScribe.Proofs.Emission.Statements

/-! # References to variables and lists

A reference to a variable or list that has a name is written with that name, whether it is read
in a slot or assigned to. Scopes only grow while blocks are written, and a bound id keeps its name,
so what the scope says at the start of a script is what all references in the script are written
with. A menu is none: it stands for the value that is selected in it, and is written in quotes even
where its field goes with the id of a variable.

* `Statement.SlotsNamed`, `Statement.AssignmentNamed`: references to an id are written with a
  name.
* `Statement.MenuQuoted`: a menu is written as a literal.
* `Statement.Placed.named`: they are so in all statements that were drafted from a scope in which
  the id has the name.
-/

namespace BlockScribe

/-- A slot of a block refers to a variable or list by its id: the literal in it names the id, or
there is no input, and the field in it, a slot for variables or lists, goes with the id. -/
def Block.RefersTo (block : Block) (slot id : String) : Prop :=
  match block.inputs.get? slot with
  | some (.literal literal) =>
    (literal.kind = .variableName ∨ literal.kind = .listName) ∧ literal.id = some id
  | some (.block _) => False
  | none => ∃ field, block.fields.get? slot = some field ∧
      (slot = variableSlot ∨ slot = "LIST") ∧ field.id = some id

/-- In every slot of the statement that refers to the id, the name is written. -/
def Statement.SlotsNamed (statement : Statement) (id name : String) : Prop :=
  List.Forall₂ (fun slot text => statement.block.RefersTo slot id → text = some name)
    statement.form.slots (textsOf statement.arguments)

/-- If the statement assigns to the id, it is written as an assignment to the name. -/
def Statement.AssignmentNamed (statement : Statement) (id name : String) : Prop :=
  statement.block.opcode = "data_setvariableto" →
    ∀ field, statement.block.fields.get? variableSlot = some field → field.variableId = id →
      statement.text = name ++ " = " ++ soleText (textsOf statement.arguments)

/-- If the statement is a menu, the value of its first field is written in quotes, whatever the
field goes with. -/
def Statement.MenuQuoted (statement : Statement) : Prop :=
  statement.block.IsMenu →
    statement.text = Quoted.quote ((statement.block.firstField?.map Field.value).getD "")

/-- All references to the id in a script are written with the name, and menus as literals. -/
def NamedThroughout (lines : List Statement) (id name : String) : Prop :=
  ∀ statement : Statement, statement.Within lines →
    statement.SlotsNamed id name ∧ statement.AssignmentNamed id name ∧ statement.MenuQuoted

/-- A bound id is written with its name. -/
theorem boundName_of_name? {scope : Scope} {id name : String} (h : scope.name? id = some name)
    (raw : String) : boundName scope (some id) raw = name := by
  simp [boundName, h]

theorem literalText?_of_name? {scope : Scope} {id name : String}
    (h : scope.name? id = some name) {literal : Literal}
    (hkind : literal.kind = .variableName ∨ literal.kind = .listName)
    (hid : literal.id = some id) : literalText? scope literal = some name := by
  unfold literalText?
  rw [hid, boundName_of_name? h]
  rcases hkind with hvariable | hlist
  · rw [hvariable]
  · rw [hlist]

theorem fieldText_of_name? {scope : Scope} {id name : String}
    (h : scope.name? id = some name) {slot : String} {field : Field}
    (hslot : slot = variableSlot ∨ slot = "LIST") (hid : field.id = some id) :
    fieldText scope slot field = name := by
  unfold fieldText
  rw [if_pos hslot, hid, boundName_of_name? h]

/-- What fills a slot that refers to a bound id is the name of the id. -/
theorem Argument.Fills.text?_of_refersTo {drafting : Drafting} {block : Block} {scope : Scope}
    {slot : String} {argument : Argument} (h : argument.Fills drafting block scope slot)
    {id name : String} (hname : scope.name? id = some name) (hrefers : block.RefersTo slot id) :
    argument.text? = some name := by
  unfold Block.RefersTo at hrefers
  -- an input goes before a field, as in the rendering
  cases h.filledFrom with
  | script hinput _ =>
    rw [hinput] at hrefers
    exact hrefers.elim
  | literal hinput hgrown =>
    rw [hinput] at hrefers
    exact literalText?_of_name? (hgrown.name? hname) hrefers.1 hrefers.2
  | field hinput hfield hgrown =>
    rw [hinput, hfield] at hrefers
    rcases hrefers with ⟨field, heq, hslot, hid⟩
    cases heq
    exact congrArg some (fieldText_of_name? (hgrown.name? hname) hslot hid)
  | absent hinput hfield =>
    rw [hinput, hfield] at hrefers
    rcases hrefers with ⟨field, heq, -⟩
    cases heq

theorem Statement.DraftedBy.slotsNamed {sources : Sources} {drafting : Drafting} {start : Scope}
    {statement : Statement} (h : statement.DraftedBy sources drafting start) {id name : String}
    (hname : start.name? id = some name) : statement.SlotsNamed id name := by
  have hbefore := h.before_grown.name? hname
  unfold Statement.SlotsNamed
  rw [textsOf_eq_map, List.forall₂_map_right_iff]
  exact h.arguments_fill.imp fun slot argument hfills hrefers =>
    hfills.text?_of_refersTo hbefore hrefers

theorem Statement.text_of_assignment {statement : Statement} {field : Field}
    (hform : statement.form = .assignment field) {name : String}
    (hbefore : statement.before.name? field.variableId = some name)
    (hafter : statement.after.name? field.variableId = some name) :
    statement.text = name ++ " = " ++ soleText (textsOf statement.arguments) := by
  cases statement with
  | mk block form before arguments after bodies =>
    -- the id was declared before, so no word stands in front, and it keeps its name
    have hdeclared : before.isDeclared field.variableId = true := by
      have hsome : before.name? field.variableId = some name := hbefore
      rw [Scope.isDeclared_eq_isSome, hsome]
      rfl
    have hbind : (after.bind field.variableId field.value).1 = name := by
      have hbound : after.name? field.variableId = some name := hafter
      rw [Scope.bind_of_name? hbound]
    cases hform
    unfold Statement.text
    dsimp only
    rw [hbind, if_pos hdeclared, String.empty_append]
    rfl

theorem Statement.text_of_choice {statement : Statement} {value : String}
    (hform : statement.form = .choice value) : statement.text = Quoted.quote value := by
  cases statement with
  | mk block form before arguments after bodies =>
    cases hform
    rfl

theorem Statement.IsFormed.menuQuoted {table : SignatureTable} {headOnly : Bool}
    {statement : Statement} (h : statement.IsFormed table headOnly) : statement.MenuQuoted := by
  intro hmenu
  exact Statement.text_of_choice (Eq.trans h (hmenu.form_eq table statement.before headOnly))

/-- In a script that starts where the id has the name, all references to it are written so. -/
theorem Statement.Placed.named {sources : Sources} {start : Scope} {statement : Statement}
    (hplaced : statement.Placed sources start) {headOnly : Bool}
    (hformed : statement.IsFormed sources.table headOnly) {id name : String}
    (hname : start.name? id = some name) :
    statement.SlotsNamed id name ∧ statement.AssignmentNamed id name ∧ statement.MenuQuoted := by
  rcases hplaced with ⟨room, entered, hdrafted⟩
  refine ⟨hdrafted.slotsNamed hname, ?_, hformed.menuQuoted⟩
  intro hopcode field hfield hid
  -- the head and the whole of an assignment are the same
  have hform := Eq.trans hformed
    (Block.form_of_assignment hopcode hfield sources.table statement.before headOnly)
  have hbefore : statement.before.name? field.variableId = some name := by
    rw [hid]
    exact hdrafted.before_grown.name? hname
  exact Statement.text_of_assignment hform hbefore (hdrafted.after_grown.name? hbefore)

end BlockScribe
