import BlockScribe.Proofs.Emission.Draft
import Mathlib.Data.List.Forall2

/-! # Where the statements of a draft come from

Every statement that stands somewhere in a drafted script, as a line of it or nested in one, was
drafted from a block of the target, in the form that the block has in the scope of that moment,
and that scope grew from the one that the script started with. So what the first scope says about
a name or a procedure is what every statement of the script was written with.

* `Statement.Within`: a statement stands somewhere in a script.
* `Statement.StandsIn`: it does, and is written as its head alone or in full.
* `Statement.Placed`: what is known of a statement that was drafted from a scope on.
* `placed_of_standsIn`: all statements within a drafted script are placed, and each has the form
  that its block has when it is written so.
-/

namespace BlockScribe

/-! ## Statements within a script -/

/-- The script in an argument position; other arguments have no lines. -/
def Argument.lines : Argument → List Statement
  | .script lines => lines
  | _ => []

/-- A statement stands somewhere in a script. -/
inductive Statement.Within (statement : Statement) : List Statement → Prop
  /-- It is a line of the script. -/
  | line {lines : List Statement} (hline : statement ∈ lines) : Within statement lines
  /-- It stands in an argument of a line. -/
  | argument {lines : List Statement} {outer : Statement} {argument : Argument}
    (houter : outer ∈ lines) (hargument : argument ∈ outer.arguments)
    (hinner : Within statement argument.lines) : Within statement lines
  /-- It stands in a body of a line. -/
  | body {lines body : List Statement} {outer : Statement}
    (houter : outer ∈ lines) (hbody : body ∈ outer.bodies)
    (hinner : Within statement body) : Within statement lines

theorem Statement.not_within_nil {statement : Statement} : ¬ statement.Within [] := by
  intro h
  cases h with
  | line hline => exact absurd hline List.not_mem_nil
  | argument houter _ _ => exact absurd houter List.not_mem_nil
  | body houter _ _ => exact absurd houter List.not_mem_nil

/-- A statement in a script with a line in front of others is that line, stands in an argument or
a body of it, or stands in the others. -/
theorem Statement.within_cons {statement first : Statement} {rest : List Statement}
    (h : statement.Within (first :: rest)) :
    statement = first ∨ (∃ argument ∈ first.arguments, statement.Within argument.lines) ∨
      (∃ body ∈ first.bodies, statement.Within body) ∨ statement.Within rest := by
  -- the outermost statement is either the first one or one of the rest
  cases h with
  | line hline =>
    rcases List.mem_cons.1 hline with heq | hrest
    · exact .inl heq
    · exact .inr (.inr (.inr (.line hrest)))
  | argument houter hargument hinner =>
    rcases List.mem_cons.1 houter with rfl | hrest
    · exact .inr (.inl ⟨_, hargument, hinner⟩)
    · exact .inr (.inr (.inr (.argument hrest hargument hinner)))
  | body houter hbody hinner =>
    rcases List.mem_cons.1 houter with rfl | hrest
    · exact .inr (.inr (.inl ⟨_, hbody, hinner⟩))
    · exact .inr (.inr (.inr (.body hrest hbody hinner)))

/-- What stands in a line of a script stands in the script. -/
theorem Statement.Within.of_singleton {statement outer : Statement} {lines : List Statement}
    (h : statement.Within [outer]) (houter : outer ∈ lines) : statement.Within lines := by
  rcases Statement.within_cons h with rfl | ⟨argument, hargument, hinner⟩ |
    ⟨body, hbody, hinner⟩ | hnil
  · exact .line houter
  · exact .argument houter hargument hinner
  · exact .body houter hbody hinner
  · exact absurd hnil Statement.not_within_nil

/-- What stands in a statement of a script stands in the script. -/
theorem Statement.Within.trans {statement inner : Statement} {lines : List Statement}
    (h : statement.Within [inner]) (hinner : inner.Within lines) : statement.Within lines := by
  induction hinner with
  | line hline => exact h.of_singleton hline
  | argument houter hargument _ ih => exact .argument houter hargument ih
  | body houter hbody _ ih => exact .body houter hbody ih

/-- A statement stands somewhere in a script and is written as its head alone, or in full. The
lines of a script are written as the script is, which is `own`. What stands in an argument is a
value, so heads alone are written of it; what stands in a body is a script of its own, and written
in full. -/
inductive Statement.StandsIn (statement : Statement) (headOnly : Bool) :
    (own : Bool) → List Statement → Prop
  | line {lines : List Statement} (hline : statement ∈ lines) :
    StandsIn statement headOnly headOnly lines
  | argument {own : Bool} {lines : List Statement} {outer : Statement} {argument : Argument}
    (houter : outer ∈ lines) (hargument : argument ∈ outer.arguments)
    (hinner : StandsIn statement headOnly Mode.value.headOnly argument.lines) :
    StandsIn statement headOnly own lines
  | body {own : Bool} {lines body : List Statement} {outer : Statement}
    (houter : outer ∈ lines) (hbody : body ∈ outer.bodies)
    (hinner : StandsIn statement headOnly Mode.chain.headOnly body) :
    StandsIn statement headOnly own lines

/-- Every statement within a script is written in one of the two ways. -/
theorem Statement.Within.exists_standsIn {statement : Statement} {lines : List Statement}
    (h : statement.Within lines) (own : Bool) :
    ∃ headOnly, statement.StandsIn headOnly own lines := by
  induction h generalizing own with
  | line hline => exact ⟨own, .line hline⟩
  | argument houter hargument _ ih =>
    obtain ⟨headOnly, hinner⟩ := ih Mode.value.headOnly
    exact ⟨headOnly, .argument houter hargument hinner⟩
  | body houter hbody _ ih =>
    obtain ⟨headOnly, hinner⟩ := ih Mode.chain.headOnly
    exact ⟨headOnly, .body houter hbody hinner⟩

theorem Statement.StandsIn.within {statement : Statement} {headOnly own : Bool}
    {lines : List Statement} (h : statement.StandsIn headOnly own lines) :
    statement.Within lines := by
  induction h with
  | line hline => exact .line hline
  | argument houter hargument _ ih => exact .argument houter hargument ih
  | body houter hbody _ ih => exact .body houter hbody ih

theorem Statement.not_standsIn_nil {statement : Statement} {headOnly own : Bool} :
    ¬ statement.StandsIn headOnly own [] :=
  fun h => Statement.not_within_nil h.within

/-! ## Runs of drafts -/

theorem StepsBy.of_map {ε α β : Type} {step : Session → Session → Prop}
    {r : EStateM ε Session α} {f : α → β} (h : StepsBy step (f <$> r)) : StepsBy step r := by
  intro session
  have hmap := h session
  rw [endOf_map] at hmap
  exact hmap

/-- A run that ends well has only let the scope grow. -/
theorem StepsBy.growsTo {ε α : Type} {blocks : Dict String Block} {r : EStateM ε Session α}
    (hr : StepsBy (Session.Step blocks) r) {session after : Session} {value : α}
    (h : r session = .ok value after) : session.scope.GrowsTo after.scope := by
  have hsteps := hr session
  rw [endOf_of_ok h] at hsteps
  exact growsTo_of_steps hsteps

theorem stepsBy_draftAt (sources : Sources) (room : Nat) (entered : List String) (id : String)
    (mode : Mode) :
    StepsBy (Session.Step sources.blocks) (draftAt sources room entered id mode) := by
  have h := stepsBy_emitAt sources room entered id 0 mode
  rw [emitAt_eq_draftAt] at h
  exact h.of_map

/-- An argument is what drafting a slot gives, in some scope that grew from the given one. -/
def Argument.Fills (drafting : Drafting) (block : Block) (scope : Scope) (slot : String)
    (argument : Argument) : Prop :=
  ∃ start after : Session, scope.GrowsTo start.scope ∧
    draftSlot drafting block slot start = .ok argument after

theorem Argument.Fills.mono {drafting : Drafting} {block : Block} {scope grown : Scope}
    {slot : String} {argument : Argument} (h : argument.Fills drafting block grown slot)
    (hgrown : scope.GrowsTo grown) : argument.Fills drafting block scope slot := by
  rcases h with ⟨start, after, hstart, hrun⟩
  exact ⟨start, after, hgrown.trans hstart, hrun⟩

/-- A script is what drafting gives for some block in a mode, in some scope that grew from the given
one; or there was no block, and the script is empty. -/
def Drafting.Gives (drafting : Drafting) (mode : Mode) (scope : Scope) (lines : List Statement) :
    Prop :=
  lines = [] ∨ ∃ id, ∃ start after : Session, scope.GrowsTo start.scope ∧
    drafting id mode start = .ok lines after

theorem Drafting.Gives.mono {drafting : Drafting} {mode : Mode} {scope grown : Scope}
    {lines : List Statement} (h : drafting.Gives mode grown lines)
    (hgrown : scope.GrowsTo grown) : drafting.Gives mode scope lines := by
  rcases h with hnil | ⟨id, start, after, hstart, hrun⟩
  · exact .inl hnil
  · exact .inr ⟨id, start, after, hgrown.trans hstart, hrun⟩

/-- Each of some filled arguments fills one of the slots. -/
theorem exists_fills_of_mem {drafting : Drafting} {block : Block} {scope : Scope}
    {slots : List String} {arguments : List Argument}
    (h : List.Forall₂ (Argument.Fills drafting block scope) slots arguments) {argument : Argument}
    (hmem : argument ∈ arguments) : ∃ slot, argument.Fills drafting block scope slot := by
  induction h with
  | nil => exact absurd hmem List.not_mem_nil
  | cons hfirst _ ih =>
    rcases List.mem_cons.1 hmem with rfl | hrest
    · exact ⟨_, hfirst⟩
    · exact ih hrest

/-- What an argument that fills a slot is, by what stands in the slot. -/
inductive Argument.FilledFrom (drafting : Drafting) (block : Block) (scope : Scope)
    (slot : String) : Argument → Prop
  /-- A link to a block: the script behind it. -/
  | script {id : String} {lines : List Statement}
    (hinput : block.inputs.get? slot = some (.block id))
    (hgives : drafting.Gives .value scope lines) :
    FilledFrom drafting block scope slot (.script lines)
  /-- A literal, in a scope that grew from the given one. -/
  | literal {start : Scope} {literal : Literal}
    (hinput : block.inputs.get? slot = some (.literal literal)) (hgrown : scope.GrowsTo start) :
    FilledFrom drafting block scope slot (.literal start literal)
  /-- A field, in a scope that grew from the given one. -/
  | field {start : Scope} {field : Field} (hinput : block.inputs.get? slot = none)
    (hfield : block.fields.get? slot = some field) (hgrown : scope.GrowsTo start) :
    FilledFrom drafting block scope slot (.field start slot field)
  | absent (hinput : block.inputs.get? slot = none) (hfield : block.fields.get? slot = none) :
    FilledFrom drafting block scope slot .absent

/-- The cases of a filled slot are those of its drafting. -/
theorem Argument.Fills.filledFrom {drafting : Drafting} {block : Block} {scope : Scope}
    {slot : String} {argument : Argument} (h : argument.Fills drafting block scope slot) :
    argument.FilledFrom drafting block scope slot := by
  -- the cases of the drafting: an input first, then a field, then nothing
  rcases h with ⟨start, after, hgrown, hrun⟩
  cases hinput : block.inputs.get? slot with
  | none =>
    cases hfield : block.fields.get? slot with
    | none =>
      rw [draftSlot_of_absent hinput hfield] at hrun
      cases hrun
      exact .absent hinput hfield
    | some field =>
      rw [draftSlot_of_field hinput hfield] at hrun
      cases hrun
      exact .field hinput hfield hgrown
  | some input =>
    cases input with
    | literal literal =>
      rw [draftSlot_of_literal hinput] at hrun
      cases hrun
      exact .literal hinput hgrown
    | block id =>
      rw [draftSlot_of_block hinput] at hrun
      rcases exists_of_map_eq_ok hrun with ⟨lines, hlines, rfl⟩
      exact .script hinput (.inr ⟨id, start, after, hgrown, hlines⟩)

/-- The script in an argument was drafted. -/
theorem Argument.Fills.gives {drafting : Drafting} {block : Block} {scope : Scope} {slot : String}
    {argument : Argument} (h : argument.Fills drafting block scope slot) :
    drafting.Gives .value scope argument.lines := by
  cases h.filledFrom with
  | script _ hgives => exact hgives
  | literal _ _ => exact .inl rfl
  | field _ _ _ => exact .inl rfl
  | absent _ _ => exact .inl rfl

section Parts

variable {blocks : Dict String Block} {drafting : Drafting}
  (hdrafting : ∀ id mode, StepsBy (Session.Step blocks) (drafting id mode))
include hdrafting

theorem stepsBy_draftSlot (block : Block) (slot : String) :
    StepsBy (Session.Step blocks) (draftSlot drafting block slot) := by
  have h := stepsBy_renderSlot (fun id level mode => (hdrafting id mode).map (scriptText level))
    block slot
  rw [renderSlot_eq_draftSlot fun id level mode => rfl] at h
  exact h.of_map

theorem stepsBy_draftSlots (block : Block) (slots : List String) :
    StepsBy (Session.Step blocks) (draftSlots drafting block slots) := by
  have h := stepsBy_renderSlots (fun id level mode => (hdrafting id mode).map (scriptText level))
    block slots
  rw [renderSlots_eq_draftSlots fun id level mode => rfl] at h
  exact h.of_map

theorem stepsBy_draftLink (link : Option String) :
    StepsBy (Session.Step blocks) (draftLink drafting link) := by
  cases link with
  | none => exact stepsBy_pure _
  | some id => exact hdrafting id .chain

/-- Drafted slots are filled one by one. -/
theorem forall₂_fills_of_draftSlots {block : Block} {slots : List String} {session after : Session}
    {arguments : List Argument}
    (h : draftSlots drafting block slots session = .ok arguments after) :
    List.Forall₂ (Argument.Fills drafting block session.scope) slots arguments := by
  induction slots generalizing session arguments with
  | nil =>
    cases h
    exact .nil
  | cons slot rest ih =>
    unfold draftSlots at h
    rcases exists_of_bind_eq_ok h with ⟨argument, between, hfirst, h⟩
    rcases exists_of_bind_eq_ok h with ⟨others, finish, hrest, h⟩
    cases h
    -- the other slots are filled in what the first one let the scope grow into
    have hgrown := (stepsBy_draftSlot hdrafting block slot).growsTo hfirst
    have htail := (ih hrest).imp fun _ _ hfills => hfills.mono hgrown
    exact .cons ⟨session, between, Scope.GrowsTo.refl _, hfirst⟩ htail

theorem gives_of_draftLink {link : Option String} {session after : Session}
    {lines : List Statement} (h : draftLink drafting link session = .ok lines after) :
    drafting.Gives .chain session.scope lines ∧ session.scope.GrowsTo after.scope := by
  refine ⟨?_, (stepsBy_draftLink hdrafting link).growsTo h⟩
  cases link with
  | none =>
    cases h
    exact .inl rfl
  | some id => exact .inr ⟨id, session, after, Scope.GrowsTo.refl _, h⟩

theorem gives_of_draftBodies {block : Block} {sockets : List String} {session after : Session}
    {bodies : List (List Statement)}
    (h : draftBodies drafting block sockets session = .ok bodies after) :
    ∀ body ∈ bodies, drafting.Gives .chain session.scope body := by
  induction sockets generalizing session bodies with
  | nil =>
    cases h
    intro body hbody
    exact absurd hbody List.not_mem_nil
  | cons socket rest ih =>
    unfold draftBodies at h
    rcases exists_of_bind_eq_ok h with ⟨first, between, hfirst, h⟩
    rcases exists_of_bind_eq_ok h with ⟨others, finish, hrest, h⟩
    cases h
    -- the first body leaves a grown scope, from which the others are drafted
    rcases gives_of_draftLink hdrafting hfirst with ⟨hgives, hgrown⟩
    intro body hbody
    rcases List.mem_cons.1 hbody with rfl | hother
    · exact hgives
    · exact (ih hrest body hother).mono hgrown

end Parts

theorem stepsBy_draftBlock {blocks : Dict String Block} {drafting : Drafting}
    (hdrafting : ∀ id mode, StepsBy (Session.Step blocks) (drafting id mode))
    (table : SignatureTable) (headOnly : Bool) {key : String} {block : Block}
    (hblock : blocks.get? key = some block) :
    StepsBy (Session.Step blocks) (draftBlock table drafting headOnly block) := by
  have h := stepsBy_renderBlock
    (fun id level mode => (hdrafting id mode).map (scriptText level)) table headOnly hblock
  rw [renderBlock_eq_draftBlock fun id level mode => rfl] at h
  exact h.of_map

/-! ## Placed statements -/

/-- What is known of a statement that was drafted from `start` on, with what stands in it drafted
by `drafting`: its block is one of the target, its arguments fill the slots of its form, and all
of it in scopes that grew from `start`. -/
structure Statement.DraftedBy (sources : Sources) (drafting : Drafting) (start : Scope)
    (statement : Statement) : Prop where
  known : ∃ key, sources.blocks.get? key = some statement.block
  before_grown : start.GrowsTo statement.before
  after_grown : statement.before.GrowsTo statement.after
  arguments_drafted : ∃ session after : Session, session.scope = statement.before ∧
    draftSlots drafting statement.block statement.form.slots session =
      .ok statement.arguments after
  arguments_fill : List.Forall₂ (Argument.Fills drafting statement.block statement.before)
    statement.form.slots statement.arguments
  bodies_given : ∀ body ∈ statement.bodies, drafting.Gives .chain statement.before body

theorem Statement.DraftedBy.mono {sources : Sources} {drafting : Drafting} {start grown : Scope}
    {statement : Statement} (h : statement.DraftedBy sources drafting grown)
    (hgrown : start.GrowsTo grown) : statement.DraftedBy sources drafting start :=
  { h with before_grown := hgrown.trans h.before_grown }

/-- A statement was drafted from `start` on, at some level. -/
def Statement.Placed (sources : Sources) (start : Scope) (statement : Statement) : Prop :=
  ∃ room entered, statement.DraftedBy sources (draftAt sources room entered) start

/-- The form of a statement is the one that its block has in the scope where the statement stands,
when its head alone is written, or when it is written in full. -/
def Statement.IsFormed (table : SignatureTable) (headOnly : Bool) (statement : Statement) : Prop :=
  statement.form = statement.block.form table statement.before headOnly

section Drafted

variable {sources : Sources} {drafting : Drafting}
  (hdrafting : ∀ id mode, StepsBy (Session.Step sources.blocks) (drafting id mode))
  {key : String} {block : Block} (hblock : sources.blocks.get? key = some block)
include hdrafting hblock

theorem draftedBy_of_draftForm {form : Form} {session after : Session} {statement : Statement}
    (h : draftForm drafting block form session = .ok statement after) :
    statement.DraftedBy sources drafting session.scope ∧ statement.block = block ∧
      statement.form = form ∧ statement.before = session.scope := by
  rcases draftForm_eq_ok h with ⟨arguments, between, bodies, last, harguments, hbodies, -, rfl⟩
  have hgrown := (stepsBy_draftSlots hdrafting block form.slots).growsTo harguments
  refine ⟨⟨⟨key, hblock⟩, Scope.GrowsTo.refl _, hgrown, ?_, ?_, ?_⟩, rfl, rfl, rfl⟩
  · exact ⟨_, between, rfl, harguments⟩
  · exact forall₂_fills_of_draftSlots hdrafting harguments
  · intro body hbody
    exact (gives_of_draftBodies hdrafting hbodies body hbody).mono hgrown

theorem draftedBy_of_draftBlock {headOnly : Bool} {session after : Session}
    {statement : Statement}
    (h : draftBlock sources.table drafting headOnly block session = .ok statement after) :
    statement.DraftedBy sources drafting session.scope ∧
      statement.IsFormed sources.table headOnly := by
  have hform : draftForm drafting block (block.form sources.table session.scope headOnly) session =
      .ok statement after := h
  rcases draftedBy_of_draftForm hdrafting hblock hform with ⟨hdrafted, hown, hwritten, hbefore⟩
  refine ⟨hdrafted, ?_⟩
  unfold Statement.IsFormed
  rw [hown, hwritten, hbefore]

end Drafted

/-- The lines of a script are drafted one by one, each in a scope that grew from the first. -/
theorem draftedBy_of_draftChain {sources : Sources} {room : Nat} {headOnly followNext : Bool}
    {entered : List String} {id : String} {session after : Session} {lines : List Statement}
    (h : draftChain sources.blocks
      (fun entered block =>
        draftBlock sources.table (draftAt sources room entered) headOnly block)
      followNext entered id session = .ok lines after) :
    ∀ statement ∈ lines, ∃ inner,
      statement.DraftedBy sources (draftAt sources room inner) session.scope ∧
        statement.IsFormed sources.table headOnly := by
  refine draftChain_induction (motive := fun session lines _ => ∀ statement ∈ lines, ∃ inner,
      statement.DraftedBy sources (draftAt sources room inner) session.scope ∧
        statement.IsFormed sources.table headOnly) ?_ ?_ h
  · intro entered key block session first after hget hfirst statement hstatement
    rw [List.mem_singleton.1 hstatement]
    exact ⟨entered, draftedBy_of_draftBlock (stepsBy_draftAt sources room entered) hget hfirst⟩
  · intro entered key block session first between rest after hget hfirst hrest statement hstatement
    have hdrafting := stepsBy_draftAt sources room entered
    rcases List.mem_cons.1 hstatement with rfl | hother
    · exact ⟨entered, draftedBy_of_draftBlock hdrafting hget hfirst⟩
    · -- the rest of the script starts where its first block ended
      have hgrown := (stepsBy_draftBlock hdrafting sources.table headOnly hget).growsTo hfirst
      rcases hrest statement hother with ⟨inner, hplaced, hformed⟩
      exact ⟨inner, hplaced.mono hgrown, hformed⟩

/-- All statements within a drafted script are placed, and each has the form that its block has when
it is written as it stands there. -/
theorem placed_of_standsIn {sources : Sources} {room : Nat} {entered : List String} {id : String}
    {mode : Mode} {session after : Session} {lines : List Statement}
    (h : draftAt sources room entered id mode session = .ok lines after) {statement : Statement}
    {headOnly : Bool} (hstands : statement.StandsIn headOnly mode.headOnly lines) :
    statement.Placed sources session.scope ∧ statement.IsFormed sources.table headOnly := by
  induction room generalizing entered id mode session lines after with
  | zero => cases h
  | succ room ih =>
    have hlines := draftedBy_of_draftChain h
    -- what a line holds was drafted one level down, from a scope that grew from the line's own
    have hinner : ∀ {outer : Statement} {inner : List String} {inside : Mode}
        {nested : List Statement},
        outer.DraftedBy sources (draftAt sources room inner) session.scope →
        (draftAt sources room inner).Gives inside outer.before nested →
        statement.StandsIn headOnly inside.headOnly nested →
        statement.Placed sources session.scope ∧ statement.IsFormed sources.table headOnly := by
      intro outer inner inside nested houter hgives hnested
      rcases hgives with rfl | ⟨id, start, finish, hstart, hrun⟩
      · exact absurd hnested Statement.not_standsIn_nil
      · rcases ih hrun hnested with ⟨⟨room', entered', hplaced⟩, hformed⟩
        have hgrown := houter.before_grown.trans hstart
        exact ⟨⟨room', entered', hplaced.mono hgrown⟩, hformed⟩
    cases hstands with
    | line hline =>
      rcases hlines statement hline with ⟨inner, hdrafted, hformed⟩
      exact ⟨⟨room, inner, hdrafted⟩, hformed⟩
    | argument houter hargument hnested =>
      rcases hlines _ houter with ⟨inner, hdrafted, -⟩
      rcases exists_fills_of_mem hdrafted.arguments_fill hargument with ⟨slot, hfills⟩
      exact hinner hdrafted hfills.gives hnested
    | body houter hbody hnested =>
      rcases hlines _ houter with ⟨inner, hdrafted, -⟩
      exact hinner hdrafted (hdrafted.bodies_given _ hbody) hnested

/-- Where it does not matter how a statement within a drafted script is written. -/
theorem placed_of_within {sources : Sources} {room : Nat} {entered : List String} {id : String}
    {mode : Mode} {session after : Session} {lines : List Statement}
    (h : draftAt sources room entered id mode session = .ok lines after) {statement : Statement}
    (hwithin : statement.Within lines) :
    statement.Placed sources session.scope ∧
      ∃ headOnly, statement.StandsIn headOnly mode.headOnly lines ∧
        statement.IsFormed sources.table headOnly := by
  obtain ⟨headOnly, hstands⟩ := hwithin.exists_standsIn mode.headOnly
  obtain ⟨hplaced, hformed⟩ := placed_of_standsIn h hstands
  exact ⟨hplaced, headOnly, hstands, hformed⟩

/-- All statements within a script that was drafted from a scope on are placed. -/
theorem Drafting.Gives.placed {sources : Sources} {room : Nat} {entered : List String}
    {mode : Mode} {scope : Scope} {lines : List Statement}
    (h : (draftAt sources room entered).Gives mode scope lines) {statement : Statement}
    (hwithin : statement.Within lines) :
    statement.Placed sources scope ∧
      ∃ headOnly, statement.StandsIn headOnly mode.headOnly lines ∧
        statement.IsFormed sources.table headOnly := by
  rcases h with rfl | ⟨id, start, after, hstart, hrun⟩
  · exact absurd hwithin Statement.not_within_nil
  · rcases placed_of_within hrun hwithin with ⟨⟨room', entered', hplaced⟩, hformed⟩
    exact ⟨⟨room', entered', hplaced.mono hstart⟩, hformed⟩

end BlockScribe
