import BlockScribe.Proofs.Emission.Scopes
import BlockScribe.Proofs.Text.Pieces

/-! # Statements in pieces

The text of a statement in pieces, with the literals in it marked by their values
(`Statement.pieces`). The pieces follow the text: every body adds one tab to what stands in it.
Put together they are the text (`Statement.spells`), and what a statement within a script leaves
there for good, such as its literals, has a piece of its own in the script
(`exists_piece_of_within`).
-/

namespace BlockScribe

open Piece

/-! ## Values -/

/-- A numeric literal: bare, or the literal of its text. -/
def numeralPieces (raw : String) : List Piece :=
  let trimmed := trimChars raw.toList
  if trimmed.isEmpty then ofText "0"
  else if Numeral.isDecimal trimmed then [.plain trimmed]
  else [.quoted 0 raw]

theorem spells_numeral (raw : String) : Spells (numeralPieces raw) (Numeral.render raw) := by
  unfold numeralPieces Numeral.render
  dsimp only
  split
  · exact spells_ofText "0"
  · split
    · simp [Spells, chars]
    · exact spells_quoted raw

/-- A literal, unless it is left out. -/
def literalPieces? (scope : Scope) (literal : Literal) : Option (List Piece) :=
  match literal.kind with
  | .color => some [.quoted 0 literal.value]
  | .text => some [.quoted 0 literal.value]
  | .broadcast => some [.quoted 0 literal.value]
  | .variableName => some (ofText (boundName scope literal.id literal.value))
  | .listName => some (ofText (boundName scope literal.id literal.value))
  | .other _ => none
  | _ => some (numeralPieces literal.value)

theorem spells_literal (scope : Scope) (literal : Literal) :
    Option.Rel Spells (literalPieces? scope literal) (literalText? scope literal) := by
  unfold literalPieces? literalText?
  cases literal.kind with
  | color => exact .some (spells_quoted _)
  | text => exact .some (spells_quoted _)
  | broadcast => exact .some (spells_quoted _)
  | variableName => exact .some (spells_ofText _)
  | listName => exact .some (spells_ofText _)
  | other code => exact .none
  | _ => exact .some (spells_numeral _)

/-- A field: a name, or the literal of its text. -/
def fieldPieces (scope : Scope) (slot : String) (field : Field) : List Piece :=
  if slot = variableSlot ∨ slot = "LIST" then ofText (boundName scope field.id field.value)
  else [.quoted 0 field.value]

theorem spells_field (scope : Scope) (slot : String) (field : Field) :
    Spells (fieldPieces scope slot field) (fieldText scope slot field) := by
  unfold fieldPieces fieldText
  split
  · exact spells_ofText _
  · exact spells_quoted _

/-- What stands for a missing argument. -/
def emptyPieces : List Piece := [.quoted 0 ""]

/-- A name and the arguments that were not left out. -/
def callPieces (name : String) (arguments : List (Option (List Piece))) : List Piece :=
  ofText (name ++ "(") ++ joined ", " (arguments.filterMap id) ++ ofText ")"

/-- The only argument. -/
def solePieces (arguments : List (Option (List Piece))) : List Piece :=
  (arguments.head?.bind id).getD emptyPieces

theorem spells_getD {argument : Option (List Piece)} {text : Option String}
    (h : Option.Rel Spells argument text) :
    Spells (argument.getD emptyPieces) (text.getD emptyText) := by
  cases h with
  | none => exact spells_quoted ""
  | some hspells => exact hspells

section Arguments

variable {arguments : List (Option (List Piece))} {texts : List (Option String)}
  (h : List.Forall₂ (Option.Rel Spells) arguments texts)
include h

theorem spells_call (name : String) : Spells (callPieces name arguments) (callText name texts) := by
  have hpresent : List.Forall₂ Spells (arguments.filterMap id) (texts.filterMap id) := by
    induction h with
    | nil => exact .nil
    | cons hfirst _ ih =>
      cases hfirst with
      | none => exact ih
      | some hspells => exact .cons hspells ih
  exact ((spells_ofText _).append (.joined hpresent)).append (spells_ofText _)

theorem spells_sole : Spells (solePieces arguments) (soleText texts) := by
  cases h with
  | nil => exact spells_quoted ""
  | cons hfirst _ => exact spells_getD hfirst

end Arguments

/-! ## Statements -/

mutual

def Argument.pieces? : Argument → Option (List Piece)
  | .script lines => some (joined "\n" (linePieces lines))
  | .literal scope content => literalPieces? scope content
  | .field scope slot content => some (fieldPieces scope slot content)
  | .absent => some emptyPieces

def argumentPieces : List Argument → List (Option (List Piece))
  | [] => []
  | argument :: rest => argument.pieces? :: argumentPieces rest

/-- The text of a statement, in pieces. -/
def Statement.pieces : Statement → List Piece
  | .mk block form before arguments after bodies =>
    match form with
    | .comparison =>
      joined " != " ((argumentPieces arguments).map fun argument => argument.getD emptyPieces)
    | .answer _ => ofText "return " ++ solePieces (argumentPieces arguments)
    | .logging => []
    | .unknownCall proccode => ofText (unknownCallText proccode)
    | .assignment field =>
      ofText ((if before.isDeclared field.variableId then "" else declarationWord after.isStage) ++
        (after.bind field.variableId field.value).1 ++ " = ") ++
          solePieces (argumentPieces arguments)
    | .namelessAssignment => ofText namelessAssignmentText
    | .parameter raw => ofText (Identifier.parameter raw)
    | .choice value => [.quoted 0 value]
    | .call name _ => callPieces name (argumentPieces arguments)
    | .branch _ _ =>
      callPieces block.opcode (argumentPieces arguments) ++ ofText " " ++
        joined " " (bodyPieces bodies)
    | .unknown => ofText (undefinedText block.opcode)

/-- The lines of a script; a statement without text leaves none. -/
def linePieces : List Statement → List (List Piece)
  | [] => []
  | statement :: rest =>
    if statement.text.isEmpty then linePieces rest else statement.pieces :: linePieces rest

def bodyPieces : List (List Statement) → List (List Piece)
  | [] => []
  | lines :: rest =>
    braced (indented 1 true (joined "\n" (linePieces lines))) :: bodyPieces rest

end

/-- The pieces of a script, indented by `level` tabs. -/
def scriptPieces (level : Nat) (lines : List Statement) : List Piece :=
  indented level true (joined "\n" (linePieces lines))

theorem argumentPieces_eq_map (arguments : List Argument) :
    argumentPieces arguments = arguments.map Argument.pieces? := by
  induction arguments with
  | nil => rfl
  | cons argument rest ih => rw [argumentPieces, ih, List.map_cons]

theorem bodyPieces_eq_map (bodies : List (List Statement)) :
    bodyPieces bodies = bodies.map fun lines => braced (scriptPieces 1 lines) := by
  induction bodies with
  | nil => rfl
  | cons lines rest ih =>
    rw [bodyPieces, ih]
    rfl

theorem spells_lines {lines : List Statement} (h : ∀ s ∈ lines, Spells s.pieces s.text) :
    List.Forall₂ Spells (linePieces lines) (linesOf lines) := by
  induction lines with
  | nil => exact .nil
  | cons statement rest ih =>
    rw [List.forall_mem_cons] at h
    unfold linePieces linesOf
    split
    · exact ih h.2
    · exact .cons h.1 (ih h.2)

/-- Put together, the pieces of a statement are its text. -/
theorem Statement.spells (statement : Statement) : Spells statement.pieces statement.text := by
  refine Statement.induction
    (p := fun argument => Option.Rel Spells argument.pieces? argument.text?)
    (q := fun s => Spells s.pieces s.text) ?_ ?_ ?_ ?_ ?_ statement
  · intro lines hlines
    exact .some (.joined (spells_lines hlines))
  · intro scope content
    exact spells_literal scope content
  · intro scope slot content
    exact .some (spells_field scope slot content)
  · exact .some (spells_quoted "")
  · intro block form before arguments after bodies harguments hbodies
    -- pieces and texts are made of the same parts in the same way, so parts are compared
    have htexts : List.Forall₂ (Option.Rel Spells) (argumentPieces arguments)
        (textsOf arguments) := by
      rw [argumentPieces_eq_map, textsOf_eq_map, List.forall₂_map_left_iff,
        List.forall₂_map_right_iff]
      exact List.forall₂_same.2 harguments
    have hblocks : List.Forall₂ Spells (bodyPieces bodies) (bodiesOf bodies) := by
      rw [bodyPieces_eq_map, bodiesOf_eq_map, List.forall₂_map_left_iff,
        List.forall₂_map_right_iff]
      refine List.forall₂_same.2 fun lines hlines => ?_
      -- indenting and bracing pieces spells the indented and braced text
      exact ((Spells.joined (spells_lines (hbodies lines hlines))).indent 1).braced
    cases form with
    | comparison =>
      rw [Statement.pieces, Statement.text]
      refine .joined ?_
      rw [List.forall₂_map_left_iff, List.forall₂_map_right_iff]
      exact htexts.imp fun _ _ => spells_getD
    | answer slot =>
      rw [Statement.pieces, Statement.text]
      -- one word in front of the sole argument
      exact (spells_ofText _).append (spells_sole htexts)
    | logging =>
      rw [Statement.pieces, Statement.text]
      rfl
    | unknownCall proccode =>
      rw [Statement.pieces, Statement.text]
      exact spells_ofText _
    | assignment field =>
      rw [Statement.pieces, Statement.text]
      exact (spells_ofText _).append (spells_sole htexts)
    | namelessAssignment =>
      rw [Statement.pieces, Statement.text]
      exact spells_ofText _
    | parameter raw =>
      rw [Statement.pieces, Statement.text]
      exact spells_ofText _
    | choice value =>
      rw [Statement.pieces, Statement.text]
      exact spells_quoted value
    | call name slots =>
      rw [Statement.pieces, Statement.text]
      exact spells_call htexts name
    | branch slots sockets =>
      rw [Statement.pieces, Statement.text]
      exact ((spells_call htexts _).append (spells_ofText _)).append (.joined hblocks)
    | unknown =>
      rw [Statement.pieces, Statement.text]
      exact spells_ofText _

theorem spells_script (level : Nat) (lines : List Statement) :
    Spells (scriptPieces level lines) (scriptText level lines) :=
  (Spells.joined (spells_lines fun s _ => s.spells)).indent level

/-! ## Every literal has its piece -/

/-- The value that an argument writes as a literal, if it does. -/
def Argument.quoted? : Argument → Option String
  | .literal _ content =>
    if content.kind ∈ [.color, .text, .broadcast] then some content.value else none
  | .field _ slot content =>
    if slot = variableSlot ∨ slot = "LIST" then none else some content.value
  | .script _ => none
  | .absent => none

/-- The values that a statement itself writes as literals. -/
inductive Statement.Quotes (statement : Statement) : String → Prop
  | argument {argument : Argument} {value : String} (hmem : argument ∈ statement.arguments)
    (hquoted : argument.quoted? = some value) : Quotes statement value
  | choice {value : String} (hform : statement.form = .choice value) : Quotes statement value

/-- A statement has an argument for every slot of its form, and a body for every socket. -/
structure Statement.Shaped (statement : Statement) : Prop where
  arguments_length : statement.arguments.length = statement.form.slots.length
  bodies_length : statement.bodies.length = statement.form.sockets.length

theorem length_draftSlots {drafting : Drafting} {block : Block} {slots : List String}
    {session after : Session} {arguments : List Argument}
    (h : draftSlots drafting block slots session = .ok arguments after) :
    arguments.length = slots.length := by
  induction slots generalizing session arguments with
  | nil =>
    cases h
    rfl
  | cons slot rest ih =>
    unfold draftSlots at h
    rcases exists_of_bind_eq_ok h with ⟨first, between, hfirst, h⟩
    rcases exists_of_bind_eq_ok h with ⟨others, finish, hrest, h⟩
    cases h
    rw [List.length_cons, List.length_cons, ih hrest]

theorem length_draftBodies {drafting : Drafting} {block : Block} {sockets : List String}
    {session after : Session} {bodies : List (List Statement)}
    (h : draftBodies drafting block sockets session = .ok bodies after) :
    bodies.length = sockets.length := by
  induction sockets generalizing session bodies with
  | nil =>
    cases h
    rfl
  | cons socket rest ih =>
    unfold draftBodies at h
    rcases exists_of_bind_eq_ok h with ⟨first, between, hfirst, h⟩
    rcases exists_of_bind_eq_ok h with ⟨others, finish, hrest, h⟩
    cases h
    rw [List.length_cons, List.length_cons, ih hrest]

theorem draftsAs_shaped (blocks : Dict String Block) :
    DraftsAs blocks (fun _ => True) Statement.Shaped := by
  intro drafting _ block form session after statement h _
  rcases draftForm_eq_ok h with ⟨arguments, between, bodies, last, harguments, hbodies, -, rfl⟩
  exact ⟨length_draftSlots harguments, length_draftBodies hbodies⟩

theorem Argument.pieces?_of_quoted {argument : Argument} {value : String}
    (h : argument.quoted? = some value) : argument.pieces? = some [.quoted 0 value] := by
  cases argument with
  | literal scope content =>
    obtain ⟨kind, raw, id⟩ := content
    rw [Argument.quoted?] at h
    -- of the literals, only texts are quoted
    split at h
    · rename_i hkind
      cases h
      rw [Argument.pieces?]
      simp only [List.mem_cons, List.not_mem_nil, or_false] at hkind
      rcases hkind with rfl | rfl | rfl
      · rfl
      · rfl
      · rfl
    · cases h
  | field scope slot content =>
    rw [Argument.quoted?] at h
    -- a reference is written as its name, any other field as its quoted value
    split at h
    · cases h
    · rename_i hslot
      cases h
      rw [Argument.pieces?, fieldPieces, if_neg hslot]
  | script lines => cases h
  | absent => cases h

theorem mem_callPieces {name : String} {arguments : List (Option (List Piece))}
    {pieces : List Piece} (hmem : some pieces ∈ arguments) {piece : Piece}
    (hpiece : piece ∈ pieces) : piece ∈ callPieces name arguments := by
  have hpart : pieces ∈ arguments.filterMap id := List.mem_filterMap.2 ⟨_, hmem, rfl⟩
  exact List.mem_append_left _ (List.mem_append_right _ (mem_joined hpart hpiece))

theorem mem_solePieces {arguments : List (Option (List Piece))} {pieces : List Piece}
    (hmem : some pieces ∈ arguments) (hlength : arguments.length = 1) :
    solePieces arguments = pieces := by
  obtain ⟨argument, rfl⟩ := List.length_eq_one_iff.1 hlength
  rw [← List.mem_singleton.1 hmem]
  rfl

/-- The pieces of an argument are pieces of the statement. -/
theorem Statement.mem_pieces_of_argument {statement : Statement} (hshaped : statement.Shaped)
    {argument : Argument} (hmem : argument ∈ statement.arguments) {pieces : List Piece}
    (hpieces : argument.pieces? = some pieces) {piece : Piece} (hpiece : piece ∈ pieces) :
    piece ∈ statement.pieces := by
  obtain ⟨block, form, before, arguments, after, bodies⟩ := statement
  have hlength : arguments.length = form.slots.length := hshaped.arguments_length
  have hall : some pieces ∈ argumentPieces arguments := by
    rw [argumentPieces_eq_map]
    exact List.mem_map.2 ⟨argument, hmem, hpieces⟩
  have hcount : (argumentPieces arguments).length = form.slots.length := by
    rw [argumentPieces_eq_map, List.length_map, hlength]
  -- forms without slots have no arguments
  have hsome : form.slots ≠ [] := by
    intro hnone
    rw [hnone] at hlength
    rw [List.length_eq_zero_iff.1 hlength] at hmem
    exact absurd hmem List.not_mem_nil
  cases form with
  | comparison =>
    rw [Statement.pieces]
    exact mem_joined (List.mem_map.2 ⟨some pieces, hall, rfl⟩) hpiece
  | answer slot =>
    rw [Statement.pieces, mem_solePieces hall hcount]
    exact List.mem_append_right _ hpiece
  | assignment field =>
    rw [Statement.pieces, mem_solePieces hall hcount]
    exact List.mem_append_right _ hpiece
  | call name slots =>
    rw [Statement.pieces]
    exact mem_callPieces hall hpiece
  | branch slots sockets =>
    rw [Statement.pieces]
    exact List.mem_append_left _ (List.mem_append_left _ (mem_callPieces hall hpiece))
  | _ => exact absurd rfl hsome

/-- The pieces of a body are pieces of the statement. -/
theorem Statement.mem_pieces_of_body {statement : Statement} (hshaped : statement.Shaped)
    {body : List Statement} (hmem : body ∈ statement.bodies) {piece : Piece}
    (hpiece : piece ∈ scriptPieces 1 body) : piece ∈ statement.pieces := by
  obtain ⟨block, form, before, arguments, after, bodies⟩ := statement
  have hlength : bodies.length = form.sockets.length := hshaped.bodies_length
  -- there is a body, so there is a socket for it
  have hsome : form.sockets ≠ [] := by
    intro hnone
    rw [hnone] at hlength
    have hempty : bodies = [] := List.length_eq_zero_iff.1 hlength
    have hbody : body ∈ bodies := hmem
    rw [hempty] at hbody
    exact absurd hbody List.not_mem_nil
  cases form with
  | branch slots sockets =>
    have hpart : braced (scriptPieces 1 body) ∈ bodyPieces bodies := by
      rw [bodyPieces_eq_map]
      exact List.mem_map_of_mem hmem
    have hinner : piece ∈ braced (scriptPieces 1 body) :=
      List.mem_append_left _ (List.mem_append_right _ hpiece)
    rw [Statement.pieces]
    exact List.mem_append_right _ (mem_joined hpart hinner)
  | _ => exact absurd rfl hsome

/-- A statement with characters has a text, so its pieces stand in the script. -/
theorem mem_joined_linePieces {lines : List Statement} {statement : Statement}
    (hmem : statement ∈ lines) {piece : Piece} (hpiece : piece ∈ statement.pieces)
    (hchars : piece.chars ≠ []) : piece ∈ joined "\n" (linePieces lines) := by
  -- a piece with characters keeps its statement from being an empty line
  have htext : statement.text.isEmpty = false := by
    rw [Bool.eq_false_iff]
    intro hempty
    have hspelling : spelling statement.pieces = [] := by
      have hspells : spelling statement.pieces = statement.text.toList := statement.spells
      rw [hspells, String.isEmpty_iff.1 hempty]
      rfl
    exact hchars (List.flatMap_eq_nil_iff.1 hspelling piece hpiece)
  have hline : statement.pieces ∈ linePieces lines := by
    induction lines with
    | nil => exact absurd hmem List.not_mem_nil
    | cons first rest ih =>
      unfold linePieces
      rcases List.mem_cons.1 hmem with rfl | hrest
      · rw [htext]
        exact List.mem_cons_self
      · split
        · exact ih hrest
        · exact List.mem_cons_of_mem _ (ih hrest)
  exact mem_joined hline hpiece

theorem Statement.quoted_mem_pieces {statement : Statement} (hshaped : statement.Shaped)
    {value : String} (h : statement.Quotes value) : .quoted 0 value ∈ statement.pieces := by
  cases h with
  | argument hmem hquoted =>
    exact Statement.mem_pieces_of_argument hshaped hmem (Argument.pieces?_of_quoted hquoted)
      List.mem_cons_self
  | choice hform =>
    obtain ⟨block, form, before, arguments, after, bodies⟩ := statement
    cases hform
    rw [Statement.pieces]
    exact List.mem_cons_self

/-- A statement within a script leaves its lasting pieces in the script. -/
theorem exists_piece_of_within {kind : Piece → Prop} (hkind : Lasting kind)
    {lines : List Statement} (hshaped : AllWithin Statement.Shaped lines) {statement : Statement}
    (hwithin : statement.Within lines) (hown : ∃ piece ∈ statement.pieces, kind piece) :
    ∃ piece ∈ joined "\n" (linePieces lines), kind piece := by
  induction hwithin with
  | line hline =>
    obtain ⟨piece, hpiece, hlast⟩ := hown
    exact ⟨piece, mem_joined_linePieces hline hpiece (hkind.chars_ne_nil hlast), hlast⟩
  | @argument lines outer argument houter hargument hinner ih =>
    obtain ⟨piece, hpiece, hlast⟩ := ih fun s hs => hshaped s (.argument houter hargument hs)
    refine ⟨piece, mem_joined_linePieces houter ?_ (hkind.chars_ne_nil hlast), hlast⟩
    have houtershape := hshaped outer (.line houter)
    cases argument with
    | script nested =>
      exact Statement.mem_pieces_of_argument houtershape hargument rfl hpiece
    | literal scope content => exact absurd hinner Statement.not_within_nil
    | field scope slot content => exact absurd hinner Statement.not_within_nil
    | absent => exact absurd hinner Statement.not_within_nil
  | @body lines nested outer houter hbody hinner ih =>
    -- the body is indented, which leaves another piece of the kind
    have hnested := ih fun s hs => hshaped s (.body houter hbody hs)
    obtain ⟨piece, hpiece, hlast⟩ := hkind.exists_mem_indented hnested 1 true
    refine ⟨piece, mem_joined_linePieces houter ?_ (hkind.chars_ne_nil hlast), hlast⟩
    exact Statement.mem_pieces_of_body (hshaped outer (.line houter)) hbody hpiece

end BlockScribe
