import BlockScribe.Proofs.Emission.Statements

/-! # What holds all over a draft

A draft remembers the scope of every place where a name was looked up. A property of scopes that
every step of a rendering keeps, and that the scope at the start of a script has, is a property of
all scopes at which statements of that script are drafted. So what every single drafting of a
statement from such a scope guarantees holds of all statements of the script (`allWithin_draftAt`).
Where `Statement.Placed` says that names which are bound at the start stay bound, this is about the
names that join the scope on the way.

* `AllWithin`: a property of all statements in a script.
* `Statement.Sees`: the scopes of a statement have a property.
* `draftsAs_sees`: a statement sees what the scope has in which it is drafted.
-/

namespace BlockScribe

/-- All statements that stand somewhere in a script have a property. -/
def AllWithin (q : Statement → Prop) (lines : List Statement) : Prop :=
  ∀ statement : Statement, statement.Within lines → q statement

theorem allWithin_nil (q : Statement → Prop) : AllWithin q [] :=
  fun _ hwithin => absurd hwithin Statement.not_within_nil

/-- What all statements in a script have, those in one of them have. -/
theorem AllWithin.of_within {q : Statement → Prop} {lines : List Statement}
    (h : AllWithin q lines) {inner : Statement} (hinner : inner.Within lines) :
    AllWithin q [inner] :=
  fun statement hwithin => h statement (hwithin.trans hinner)

/-- A run that ends well keeps what every step keeps. -/
theorem StepsBy.keeps_scope {ε α : Type} {blocks : Dict String Block} {r : EStateM ε Session α}
    (hr : StepsBy (Session.Step blocks) r) {p : Scope → Prop}
    (hstep : ∀ {a b : Session}, Session.Step blocks a b → p a.scope → p b.scope)
    {session after : Session} {value : α} (h : r session = .ok value after)
    (hsession : p session.scope) : p after.scope := by
  have hend := hr.keeps (p := fun s => p s.scope) hstep hsession
  rw [endOf_of_ok h] at hend
  exact hend

section Drafted

variable {blocks : Dict String Block} {p : Scope → Prop} {q : Statement → Prop}
  (hstep : ∀ {a b : Session}, Session.Step blocks a b → p a.scope → p b.scope)

section Parts

variable {drafting : Drafting}
  (hdrafting : ∀ id mode, StepsBy (Session.Step blocks) (drafting id mode))
  (hnested : ∀ {id mode} {session after : Session} {lines : List Statement},
    drafting id mode session = .ok lines after → p session.scope → AllWithin q lines)
include hnested

theorem allWithin_draftSlot {block : Block} {slot : String} {session after : Session}
    {argument : Argument} (h : draftSlot drafting block slot session = .ok argument after)
    (hsession : p session.scope) : AllWithin q argument.lines := by
  cases hinput : block.inputs.get? slot with
  | some input =>
    cases input with
    | block id =>
      rw [draftSlot_of_block hinput] at h
      rcases exists_of_map_eq_ok h with ⟨lines, hlines, rfl⟩
      exact hnested hlines hsession
    | literal literal =>
      rw [draftSlot_of_literal hinput] at h
      cases h
      exact allWithin_nil q
  | none =>
    cases hfield : block.fields.get? slot with
    | some field =>
      rw [draftSlot_of_field hinput hfield] at h
      cases h
      exact allWithin_nil q
    | none =>
      rw [draftSlot_of_absent hinput hfield] at h
      cases h
      exact allWithin_nil q

theorem allWithin_draftLink {link : Option String} {session after : Session}
    {lines : List Statement} (h : draftLink drafting link session = .ok lines after)
    (hsession : p session.scope) : AllWithin q lines := by
  cases link with
  | none =>
    cases h
    exact allWithin_nil q
  | some id => exact hnested h hsession

include hstep hdrafting

theorem allWithin_draftSlots {block : Block} {slots : List String} {session after : Session}
    {arguments : List Argument}
    (h : draftSlots drafting block slots session = .ok arguments after)
    (hsession : p session.scope) : ∀ argument ∈ arguments, AllWithin q argument.lines := by
  induction slots generalizing session arguments with
  | nil =>
    cases h
    exact fun _ hnil => absurd hnil List.not_mem_nil
  | cons slot rest ih =>
    unfold draftSlots at h
    rcases exists_of_bind_eq_ok h with ⟨first, between, hfirst, h⟩
    rcases exists_of_bind_eq_ok h with ⟨others, finish, hrest, h⟩
    cases h
    -- what is written first leaves a scope in which the property still holds
    have hbetween := (stepsBy_draftSlot hdrafting block slot).keeps_scope hstep hfirst hsession
    intro argument hargument
    rcases List.mem_cons.1 hargument with rfl | hother
    · exact allWithin_draftSlot hnested hfirst hsession
    · exact ih hrest hbetween argument hother

theorem allWithin_draftBodies {block : Block} {sockets : List String} {session after : Session}
    {bodies : List (List Statement)}
    (h : draftBodies drafting block sockets session = .ok bodies after)
    (hsession : p session.scope) : ∀ body ∈ bodies, AllWithin q body := by
  induction sockets generalizing session bodies with
  | nil =>
    cases h
    exact fun _ hnil => absurd hnil List.not_mem_nil
  | cons socket rest ih =>
    unfold draftBodies at h
    rcases exists_of_bind_eq_ok h with ⟨first, between, hfirst, h⟩
    rcases exists_of_bind_eq_ok h with ⟨others, finish, hrest, h⟩
    cases h
    have hbetween := (stepsBy_draftLink hdrafting _).keeps_scope hstep hfirst hsession
    intro body hbody
    rcases List.mem_cons.1 hbody with rfl | hother
    · exact allWithin_draftLink hnested hfirst hsession
    · exact ih hrest hbetween body hother

/-- What a drafted statement has, and what stands in it, all of it has. -/
theorem allWithin_draftForm {block : Block} {form : Form} {session after : Session}
    {statement : Statement} (h : draftForm drafting block form session = .ok statement after)
    (hsession : p session.scope) (hown : q statement) : AllWithin q [statement] := by
  rcases draftForm_eq_ok h with ⟨arguments, between, bodies, last, harguments, hbodies, -, rfl⟩
  have hbetween := (stepsBy_draftSlots hdrafting block form.slots).keeps_scope hstep harguments
    hsession
  intro inner hwithin
  -- the statement itself, what is in its arguments, and what is in its bodies
  rcases Statement.within_cons hwithin with rfl | ⟨argument, hmem, hinner⟩ |
    ⟨body, hmem, hinner⟩ | hnil
  · exact hown
  · exact allWithin_draftSlots hstep hdrafting hnested harguments hsession argument hmem inner
      hinner
  · exact allWithin_draftBodies hstep hdrafting hnested hbodies hbetween body hmem inner hinner
  · exact absurd hnil Statement.not_within_nil

end Parts

include hstep

theorem allWithin_draftChain {single : List String → Block → Render Statement}
    (hsingle : ∀ entered {key block}, blocks.get? key = some block →
      StepsBy (Session.Step blocks) (single entered block))
    (halone : ∀ {entered block} {session after : Session} {statement : Statement},
      single entered block session = .ok statement after → p session.scope →
        AllWithin q [statement])
    {followNext : Bool} {entered : List String} {id : String} {session after : Session}
    {lines : List Statement}
    (h : draftChain blocks single followNext entered id session = .ok lines after)
    (hsession : p session.scope) : AllWithin q lines := by
  revert hsession
  refine draftChain_induction (motive := fun session lines _ =>
    p session.scope → AllWithin q lines) ?_ ?_ h
  · intro entered key block session first after _ hfirst hsession
    exact halone hfirst hsession
  · intro entered key block session first between rest after hget hfirst hrest hsession
    -- the next statement starts in the scope that this one leaves
    have hbetween := (hsingle entered hget).keeps_scope hstep hfirst hsession
    have hline := halone hfirst hsession
    intro statement hwithin
    rcases Statement.within_cons hwithin with rfl | ⟨argument, hmem, hinner⟩ |
      ⟨body, hmem, hinner⟩ | hother
    · exact hline _ (.line List.mem_cons_self)
    · exact hline _ (.argument List.mem_cons_self hmem hinner)
    · exact hline _ (.body List.mem_cons_self hmem hinner)
    · exact hrest hbetween statement hother

end Drafted

/-- Drafting a statement, with what stands in it drafted in whatever way, gives it a property if
the scope has one. -/
def DraftsAs (blocks : Dict String Block) (p : Scope → Prop) (q : Statement → Prop) : Prop :=
  ∀ {drafting : Drafting}, (∀ id mode, StepsBy (Session.Step blocks) (drafting id mode)) →
    ∀ {block : Block} {form : Form} {session after : Session} {statement : Statement},
      draftForm drafting block form session = .ok statement after → p session.scope → q statement

/-- What every drafting of a single statement guarantees holds of all statements in a script. -/
theorem allWithin_draftAt {sources : Sources} {p : Scope → Prop} {q : Statement → Prop}
    (hstep : ∀ {a b : Session}, Session.Step sources.blocks a b → p a.scope → p b.scope)
    (hown : DraftsAs sources.blocks p q) {room : Nat} {entered : List String} {id : String}
    {mode : Mode} {session after : Session} {lines : List Statement}
    (h : draftAt sources room entered id mode session = .ok lines after)
    (hsession : p session.scope) : AllWithin q lines := by
  induction room generalizing entered id mode session lines after with
  | zero => cases h
  | succ room ih =>
    refine allWithin_draftChain hstep (fun inner _ _ hget => ?_) (fun hblock hstart => ?_) h
      hsession
    · exact stepsBy_draftBlock (stepsBy_draftAt sources room inner) sources.table mode.headOnly hget
    · -- within the level everything nested was drafted by the level below
      have hdrafting := stepsBy_draftAt sources room
      exact allWithin_draftForm hstep (hdrafting _) ih hblock hstart
        (hown (hdrafting _) hblock hstart)

/-! ## Scopes -/

/-- The scope that an argument was written in, if it was written in one, has a property. -/
def Argument.Sees (p : Scope → Prop) : Argument → Prop
  | .literal scope _ => p scope
  | .field scope _ _ => p scope
  | .script _ => True
  | .absent => True

/-- The scopes of a statement have a property. -/
structure Statement.Sees (p : Scope → Prop) (statement : Statement) : Prop where
  before : p statement.before
  arguments : ∀ argument ∈ statement.arguments, argument.Sees p
  after : p statement.after

theorem sees_draftSlot {drafting : Drafting} {block : Block} {slot : String}
    {session after : Session} {argument : Argument} {p : Scope → Prop}
    (h : draftSlot drafting block slot session = .ok argument after)
    (hsession : p session.scope) : argument.Sees p := by
  cases hinput : block.inputs.get? slot with
  | some input =>
    cases input with
    | block id =>
      rw [draftSlot_of_block hinput] at h
      rcases exists_of_map_eq_ok h with ⟨lines, hlines, rfl⟩
      trivial
    | literal literal =>
      rw [draftSlot_of_literal hinput] at h
      cases h
      exact hsession
  | none =>
    cases hfield : block.fields.get? slot with
    | some field =>
      rw [draftSlot_of_field hinput hfield] at h
      cases h
      exact hsession
    | none =>
      rw [draftSlot_of_absent hinput hfield] at h
      cases h
      trivial

section Sees

variable {blocks : Dict String Block} {p : Scope → Prop}
  (hstep : ∀ {a b : Session}, Session.Step blocks a b → p a.scope → p b.scope)
include hstep

theorem sees_draftSlots {drafting : Drafting}
    (hdrafting : ∀ id mode, StepsBy (Session.Step blocks) (drafting id mode)) {block : Block}
    {slots : List String} {session after : Session} {arguments : List Argument}
    (h : draftSlots drafting block slots session = .ok arguments after)
    (hsession : p session.scope) : ∀ argument ∈ arguments, argument.Sees p := by
  induction slots generalizing session arguments with
  | nil =>
    cases h
    exact fun _ hnil => absurd hnil List.not_mem_nil
  | cons slot rest ih =>
    unfold draftSlots at h
    rcases exists_of_bind_eq_ok h with ⟨first, between, hfirst, h⟩
    rcases exists_of_bind_eq_ok h with ⟨others, finish, hrest, h⟩
    cases h
    -- an argument sees the scope that those in front of it leave
    have hbetween := (stepsBy_draftSlot hdrafting block slot).keeps_scope hstep hfirst hsession
    intro argument hargument
    rcases List.mem_cons.1 hargument with rfl | hother
    · exact sees_draftSlot hfirst hsession
    · exact ih hrest hbetween argument hother

/-- A statement sees what the scope has in which it is drafted. -/
theorem draftsAs_sees : DraftsAs blocks p (Statement.Sees p) := by
  intro drafting hdrafting block form session after statement h hsession
  rcases draftForm_eq_ok h with ⟨arguments, between, bodies, last, harguments, -, -, rfl⟩
  have hbetween := (stepsBy_draftSlots hdrafting block form.slots).keeps_scope hstep harguments
    hsession
  exact ⟨hsession, sees_draftSlots hstep hdrafting harguments hsession, hbetween⟩

end Sees

end BlockScribe
