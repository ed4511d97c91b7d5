import BlockScribe.Proofs.Emission.Statements

/-! # The problems that a draft shows

A draft shows which of its places could not be written properly: a block that nothing describes, a
call of an unknown procedure, an assignment that does not say to what, and a literal of an unknown
kind. `Statement.notices` reads these off a draft, in the order in which the places are written:
the arguments of a block come first, then its bodies, and then the block itself. Drafting adds
exactly these notices to the session (`Drafting.Notes`), none is lost and none is made up.

* `LiteralKind.written`: the kinds of literals that are written, those with the codes 4 to 13.
* `notes_draftAt`: what a drafted script adds to the diagnostics.
* `mem_noticesOf`: the problem of a statement anywhere in a script is among the script's notices.
-/

namespace BlockScribe

/-! ## Literals -/

namespace LiteralKind

/-- The kinds that are written, those with the codes from 4 to 13. -/
def written : List LiteralKind := (List.range 10).map fun n : Nat => ofCode (n + 4)

/-- The kind of a code is written if and only if the code is one from 4 to 13. -/
theorem ofCode_mem_written_iff (c : Int) : ofCode c ∈ written ↔ 4 ≤ c ∧ c ≤ 13 := by
  constructor
  · intro h
    rcases List.mem_map.1 h with ⟨n, hn, heq⟩
    -- a code can be read back from its kind
    have hcode : ((n : Int) + 4) = c := by
      have hsame := congrArg code heq
      rwa [code_ofCode, code_ofCode] at hsame
    have hlt := List.mem_range.1 hn
    omega
  · rintro ⟨hlow, hhigh⟩
    refine List.mem_map.2 ⟨(c - 4).toNat, List.mem_range.2 (by omega), ?_⟩
    congr 1
    omega

end LiteralKind

/-- The problem of a literal: its kind is not one that is written. -/
def Literal.notice? (literal : Literal) : Option Notice :=
  if literal.kind ∈ LiteralKind.written then none else some (.unknownLiteral literal.kind.code)

theorem literalText?_eq_none_iff (scope : Scope) (literal : Literal) :
    literalText? scope literal = none ↔ literal.kind ∉ LiteralKind.written := by
  obtain ⟨kind, value, id⟩ := literal
  cases kind with
  | _ => simp [literalText?, LiteralKind.written, LiteralKind.ofCode, List.range_succ]

/-- A literal that is not written is noted, and nothing else is. -/
theorem diagnostics_renderLiteral (owner : Block) (literal : Literal) (session : Session) :
    (endOf (renderLiteral owner literal) session).diagnostics =
      session.diagnostics ++
        (literal.notice?.map fun notice => ⟨some owner.id, notice⟩).toList := by
  rw [endOf_of_ok (renderLiteral_run owner literal session)]
  unfold Literal.notice?
  -- a literal has a text exactly if its kind is one that can be written
  by_cases hkind : literal.kind ∈ LiteralKind.written
  · rw [if_pos hkind]
    cases htext : literalText? session.scope literal with
    | some text => simp
    | none => exact absurd hkind ((literalText?_eq_none_iff _ _).1 htext)
  · rw [if_neg hkind, (literalText?_eq_none_iff session.scope literal).2 hkind]
    rfl

/-! ## Statements -/

/-- The problem of a block in its form. -/
def Form.notice? (block : Block) : Form → Option Notice
  | .unknownCall proccode => some (.unknownProcedure proccode)
  | .namelessAssignment => some .assignmentWithoutVariable
  | .unknown => some (.undefinedOpcode block.opcode)
  | _ => none

/-- A problem of a block, as it is noted. -/
def Block.noted (block : Block) (problem : Option Notice) : List Diagnostic :=
  (problem.map fun notice => ⟨some block.id, notice⟩).toList

mutual

/-- The problems in an argument of a block. -/
def Argument.notices (owner : Block) : Argument → List Diagnostic
  | .script lines => noticesOf lines
  | .literal _ content => owner.noted content.notice?
  | .field _ _ _ => []
  | .absent => []

def argumentNotices (owner : Block) : List Argument → List Diagnostic
  | [] => []
  | argument :: rest => argument.notices owner ++ argumentNotices owner rest

/-- The problems of a statement: those in its arguments, those in its bodies, its own. -/
def Statement.notices : Statement → List Diagnostic
  | .mk block form _ arguments _ bodies =>
    argumentNotices block arguments ++ bodyNotices bodies ++ block.noted (form.notice? block)

/-- The problems of a script, line by line. -/
def noticesOf : List Statement → List Diagnostic
  | [] => []
  | statement :: rest => statement.notices ++ noticesOf rest

def bodyNotices : List (List Statement) → List Diagnostic
  | [] => []
  | lines :: rest => noticesOf lines ++ bodyNotices rest

end

theorem Statement.notices_eq (statement : Statement) :
    statement.notices = argumentNotices statement.block statement.arguments ++
      bodyNotices statement.bodies ++
      statement.block.noted (statement.form.notice? statement.block) := by
  obtain ⟨block, form, before, arguments, after, bodies⟩ := statement
  rw [Statement.notices]
  rfl

theorem argumentNotices_eq_flatMap (owner : Block) (arguments : List Argument) :
    argumentNotices owner arguments = arguments.flatMap (Argument.notices owner) := by
  induction arguments with
  | nil => rfl
  | cons argument rest ih => rw [argumentNotices, ih, List.flatMap_cons]

theorem noticesOf_eq_flatMap (lines : List Statement) :
    noticesOf lines = lines.flatMap Statement.notices := by
  induction lines with
  | nil => rfl
  | cons statement rest ih => rw [noticesOf, ih, List.flatMap_cons]

theorem bodyNotices_eq_flatMap (bodies : List (List Statement)) :
    bodyNotices bodies = bodies.flatMap noticesOf := by
  induction bodies with
  | nil => rfl
  | cons lines rest ih => rw [bodyNotices, ih, List.flatMap_cons]

/-- The problem of a statement that stands somewhere in a script is one of the script. -/
theorem mem_noticesOf {statement : Statement} {lines : List Statement}
    (hwithin : statement.Within lines) {notice : Notice}
    (hnotice : statement.form.notice? statement.block = some notice) :
    ⟨some statement.block.id, notice⟩ ∈ noticesOf lines := by
  induction hwithin with
  | line hline =>
    rw [noticesOf_eq_flatMap]
    refine List.mem_flatMap.2 ⟨statement, hline, ?_⟩
    rw [Statement.notices_eq, hnotice]
    exact List.mem_append_right _ List.mem_cons_self
  | @argument lines outer argument houter hargument _ ih =>
    rw [noticesOf_eq_flatMap]
    refine List.mem_flatMap.2 ⟨outer, houter, ?_⟩
    rw [Statement.notices_eq, argumentNotices_eq_flatMap]
    refine List.mem_append_left _ (List.mem_append_left _ ?_)
    refine List.mem_flatMap.2 ⟨argument, hargument, ?_⟩
    -- only a script in the argument position has statements within
    cases argument with
    | script nested => exact ih
    | literal scope content => exact absurd ih List.not_mem_nil
    | field scope slot content => exact absurd ih List.not_mem_nil
    | absent => exact absurd ih List.not_mem_nil
  | @body lines nested outer houter hbody _ ih =>
    rw [noticesOf_eq_flatMap]
    refine List.mem_flatMap.2 ⟨outer, houter, ?_⟩
    rw [Statement.notices_eq, bodyNotices_eq_flatMap]
    refine List.mem_append_left _ (List.mem_append_right _ ?_)
    exact List.mem_flatMap.2 ⟨nested, hbody, ih⟩

/-! ## Drafting notes what the draft shows -/

/-- A computation that ends well adds to the diagnostics what its value shows, and nothing else. -/
def Notes {ε α : Type} (r : EStateM ε Session α) (shown : α → List Diagnostic) : Prop :=
  ∀ {session after : Session} {value : α}, r session = .ok value after →
    after.diagnostics = session.diagnostics ++ shown value

/-- A part that is followed by others adds its problems in front of theirs. -/
theorem append_of_append {α : Type} {first second third more others : List α}
    (hfirst : second = first ++ more) (hsecond : third = second ++ others) :
    third = first ++ (more ++ others) := by
  rw [hsecond, hfirst, List.append_assoc]

theorem notes_settle (block : Block) (form : Form) :
    Notes (settle block form) fun _ => block.noted (form.notice? block) := by
  intro session after value h
  cases form with
  | assignment field =>
    have hrun : settle block (.assignment field) session =
      .ok () { session with scope := (session.scope.bind field.variableId field.value).2 } := rfl
    rw [hrun] at h
    cases h
    simp [Form.notice?, Block.noted]
  | unknownCall proccode =>
    cases h
    rfl
  | namelessAssignment =>
    cases h
    rfl
  | unknown =>
    cases h
    rfl
  -- the other forms settle nothing and have no notice
  | _ =>
    cases h
    simp [Form.notice?, Block.noted]

section Parts

variable {drafting : Drafting} (hdrafting : ∀ id mode, Notes (drafting id mode) noticesOf)
include hdrafting

theorem notes_draftSlot (block : Block) (slot : String) :
    Notes (draftSlot drafting block slot) (Argument.notices block) := by
  intro session after argument h
  cases hinput : block.inputs.get? slot with
  | some input =>
    cases input with
    | block id =>
      rw [draftSlot_of_block hinput] at h
      rcases exists_of_map_eq_ok h with ⟨lines, hlines, rfl⟩
      exact hdrafting id .value hlines
    | literal literal =>
      rw [draftSlot_of_literal hinput] at h
      cases h
      exact diagnostics_renderLiteral block literal session
  | none =>
    cases hfield : block.fields.get? slot with
    | some field =>
      -- fields and absent slots are written without a note
      rw [draftSlot_of_field hinput hfield] at h
      cases h
      exact (List.append_nil _).symm
    | none =>
      rw [draftSlot_of_absent hinput hfield] at h
      cases h
      exact (List.append_nil _).symm

theorem notes_draftSlots (block : Block) (slots : List String) :
    Notes (draftSlots drafting block slots) (argumentNotices block) := by
  induction slots with
  | nil =>
    intro session after arguments h
    cases h
    exact (List.append_nil _).symm
  | cons slot rest ih =>
    intro session after arguments h
    unfold draftSlots at h
    rcases exists_of_bind_eq_ok h with ⟨argument, between, hfirst, h⟩
    rcases exists_of_bind_eq_ok h with ⟨others, finish, hrest, h⟩
    cases h
    exact append_of_append (notes_draftSlot hdrafting block slot hfirst) (ih hrest)

theorem notes_draftLink (link : Option String) : Notes (draftLink drafting link) noticesOf := by
  intro session after lines h
  cases link with
  | none =>
    cases h
    exact (List.append_nil _).symm
  | some id => exact hdrafting id .chain h

theorem notes_draftBodies (block : Block) (sockets : List String) :
    Notes (draftBodies drafting block sockets) bodyNotices := by
  induction sockets with
  | nil =>
    intro session after bodies h
    cases h
    exact (List.append_nil _).symm
  | cons socket rest ih =>
    intro session after bodies h
    unfold draftBodies at h
    rcases exists_of_bind_eq_ok h with ⟨body, between, hfirst, h⟩
    rcases exists_of_bind_eq_ok h with ⟨others, finish, hrest, h⟩
    cases h
    exact append_of_append (notes_draftLink hdrafting _ hfirst) (ih hrest)

theorem notes_draftForm (block : Block) (form : Form) :
    Notes (draftForm drafting block form) Statement.notices := by
  intro session after statement h
  rcases draftForm_eq_ok h with
    ⟨arguments, between, bodies, last, harguments, hbodies, hsettle, rfl⟩
  have hparts := append_of_append (notes_draftSlots hdrafting block form.slots harguments)
    (notes_draftBodies hdrafting block form.sockets hbodies)
  rw [Statement.notices]
  exact append_of_append hparts (notes_settle block form hsettle)

theorem notes_draftBlock (table : SignatureTable) (headOnly : Bool) (block : Block) :
    Notes (draftBlock table drafting headOnly block) Statement.notices := by
  intro session after statement h
  have hform : draftForm drafting block (block.form table session.scope headOnly) session =
      .ok statement after := h
  exact notes_draftForm hdrafting block _ hform

end Parts

theorem notes_draftChain {blocks : Dict String Block}
    {single : List String → Block → Render Statement}
    (hsingle : ∀ entered block, Notes (single entered block) Statement.notices)
    (followNext : Bool) (entered : List String) (id : String) :
    Notes (draftChain blocks single followNext entered id) noticesOf := by
  intro session after lines h
  -- notes of a script are those of its statements, one after the other
  refine draftChain_induction (motive := fun session lines after =>
    after.diagnostics = session.diagnostics ++ noticesOf lines) ?_ ?_ h
  · intro entered key block session first after _ hfirst
    rw [noticesOf, noticesOf, List.append_nil]
    exact hsingle entered block hfirst
  · intro entered key block session first between rest after _ hfirst hrest
    exact append_of_append (hsingle entered block hfirst) hrest

/-- What a drafted script adds to the diagnostics is what the draft shows, in its order. -/
theorem notes_draftAt (sources : Sources) (room : Nat) (entered : List String) (id : String)
    (mode : Mode) : Notes (draftAt sources room entered id mode) noticesOf := by
  induction room generalizing entered id mode with
  | zero =>
    intro session after lines h
    cases h
  | succ room ih =>
    -- what stands in a block of this level is noted by the level below
    exact notes_draftChain
      (fun inner block => notes_draftBlock (ih inner) sources.table mode.headOnly block)
      mode.followNext entered id

end BlockScribe
