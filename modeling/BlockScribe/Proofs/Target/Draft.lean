import BlockScribe.Proofs.Emission.Statements
import BlockScribe.Proofs.Target.Hygiene

/-! # Drafts of targets

The draft of a target holds the parts of its source before they are text: the declarations, the
procedures with their bodies, and the scripts of the hats. The source is the text of the draft
(`ofTarget_eq_ok`), and `Draft.Phases` says of each part in which scope it was drafted:

* the declarations bind the ids of the variables and lists one after the other;
* then all procedures are registered, and every header is that of a registered procedure;
* bodies of procedures start from the registered scope with the parameters on top;
* hats and their scripts start from the registered scope, or from what it grew into.
-/

namespace BlockScribe

open Script

/-- A declaration as it is written. -/
structure Declaration where
  id : String
  word : String
  name : String
  value : String

def Declaration.text (declaration : Declaration) : String :=
  declaration.word ++ declaration.name ++ " = " ++ declaration.value

/-- A procedure as it is written: the block that defines it, its head and its body. -/
structure ProcedureDraft where
  definition : Block
  procedure : Procedure
  body : List Statement

def ProcedureDraft.text (draft : ProcedureDraft) : String :=
  procedureHead draft.procedure ++ " " ++ Layout.braced (scriptText 1 draft.body)

/-- What a block at the top level leaves in the source. -/
inductive EntryDraft where
  | hat (head : Statement) (body : List Statement)
  | placeholder (block : Block)

namespace EntryDraft

def text : EntryDraft → String
  | hat head body => head.text ++ " " ++ Layout.braced (scriptText 1 body)
  | placeholder block => undefinedText block.opcode

/-- The scripts behind and in the arguments of the head. -/
def scripts : EntryDraft → List (List Statement)
  | hat head body => body :: head.arguments.map Argument.lines
  | placeholder _ => []

end EntryDraft

/-- The parts of a target's source. -/
structure Draft where
  vars : List Declaration
  lists : List Declaration
  procedures : List ProcedureDraft
  entries : List EntryDraft

namespace Draft

/-- The texts of the parts, in the order of the source. -/
def parts (draft : Draft) : List String :=
  draft.vars.map Declaration.text ++ draft.lists.map Declaration.text ++
    draft.procedures.map ProcedureDraft.text ++ draft.entries.map EntryDraft.text

def source (draft : Draft) : String := Layout.stack (header :: draft.parts)

/-- All scripts of a draft: bodies of procedures, and what stands behind and in the heads of
hats. -/
def scripts (draft : Draft) : List (List Statement) :=
  draft.procedures.map ProcedureDraft.body ++ draft.entries.flatMap EntryDraft.scripts

end Draft

/-! ## Drafting -/

/-- Drafts declarations, one after the other. -/
def draftDeclarations {α : Type} (word : Bool → String) (raw : α → String)
    (value : String → α → Render String) : List (String × α) → Render (List Declaration)
  | [] => pure []
  | (id, content) :: rest => do
    let text ← value id content
    let name ← Render.bindName id (raw content)
    let session ← get
    let others ← draftDeclarations word raw value rest
    return ⟨id, word session.scope.isStage, name, text⟩ :: others

/-- Writes the initial value of a variable. -/
def initialText (id : String) (v : Variable) : Render String :=
  (fun text => text.getD emptyText) <$>
    renderLiteral (initialAssignment id v) (Literal.ofValue v.value)

def draftVariables : List (String × Variable) → Render (List Declaration) :=
  draftDeclarations declarationWord Variable.name initialText

def draftLists : List (String × ItemList) → Render (List Declaration) :=
  draftDeclarations listWord ItemList.name fun _ list => pure (itemsText list.items)

/-- Drafts the procedures of the definitions that won their proccode. -/
def draftProcedures (nested : Drafting) : List Block → Render (List ProcedureDraft)
  | [] => pure []
  | definition :: rest => do
    let session ← get
    match session.scope.definedBy? definition.id with
    | none => draftProcedures nested rest
    | some procedure =>
      let body ← onFork (inherited (parameters procedure)) (draftLink nested definition.next)
      let others ← draftProcedures nested rest
      return ⟨definition, procedure, body⟩ :: others

/-- Drafts the script of a hat. -/
def draftHat (nested : Drafting) (block : Block) (slots : List String) : Render EntryDraft := do
  let head ← draftForm nested block (.call block.opcode slots)
  let body ← draftLink nested block.next
  return .hat head body

/-- Drafts the scripts and placeholders of blocks at the top level. -/
def draftEntries (table : SignatureTable) (nested : Drafting) :
    List Block → Render (List EntryDraft)
  | [] => pure []
  | block :: rest =>
    match entry table block with
    | .hat slots => do
      let hat ← draftHat nested block slots
      let others ← draftEntries table nested rest
      return hat :: others
    | .undefined => do
      let others ← draftEntries table nested rest
      return .placeholder block :: others
    | .nothing => draftEntries table nested rest

/-- Drafts all parts of a target. -/
def draftTarget (table : SignatureTable) (target : Target) : Work Draft := do
  let nested := draftAt ⟨table, target.blocks⟩ maxNesting []
  let vars ← work (draftVariables target.vars.entries)
  let lists ← work (draftLists target.lists.entries)
  predeclare target.blocks
  modify fun session =>
    { session with
      diagnostics := session.diagnostics ++ undefinedEntries table target.blocks }
  let procedures ← work (draftProcedures nested (definitions target.blocks))
  let entries ← work (draftEntries table nested (entryBlocks target.blocks))
  return ⟨vars, lists, procedures, entries⟩

/-! ## Writing a target is drafting it -/

theorem declareVariables_eq_draftVariables (nested : Nested)
    (entries : List (String × Variable)) :
    declareVariables nested entries =
      List.map Declaration.text <$> draftVariables entries := by
  induction entries with
  | nil => rfl
  | cons e rest ih =>
    obtain ⟨id, v⟩ := e
    unfold declareVariables draftVariables draftDeclarations
    rw [renderDeclaration_initialAssignment, ih]
    simp only [draftVariables, assign, initialText, map_bind, bind_map_left, bind_assoc,
      pure_bind, map_pure]
    rfl

theorem declareLists_eq_draftLists (entries : List (String × ItemList)) :
    declareLists entries = List.map Declaration.text <$> draftLists entries := by
  induction entries with
  | nil => rfl
  | cons e rest ih =>
    obtain ⟨id, list⟩ := e
    unfold declareLists draftLists draftDeclarations
    rw [ih]
    simp only [draftLists, declareList, map_bind, bind_map_left, bind_assoc, pure_bind, map_pure]
    rfl

theorem onFork_map {α β : Type} (change : Scope → Scope) (f : α → β) (render : Render α) :
    onFork change (f <$> render) = f <$> onFork change render := by
  funext session
  cases hrun : render { session with scope := change session.scope } with
  | ok value after =>
    have hfork : onFork change render session =
        .ok value { after with scope := session.scope } := by
      simp [onFork, hrun]
    rw [map_of_ok hfork]
    simp [onFork, map_of_ok hrun]
  | error failure after =>
    have hfork : onFork change render session =
        .error failure { after with scope := session.scope } := by
      simp [onFork, hrun]
    rw [map_eq_pure_bind, map_eq_pure_bind, bind_of_error hfork]
    simp [onFork, bind_of_error hrun]

theorem work_map {α β : Type} (f : α → β) (render : Render α) :
    work (f <$> render) = f <$> work render := by
  funext session
  cases hrun : render session with
  | ok value after =>
    have hwork : work render session = .ok value after := by simp [work, hrun]
    rw [map_of_ok hwork]
    simp [work, map_of_ok hrun]
  | error failure after =>
    have hwork : work render session =
        .error (Error.ofCause (.block failure.fault)) after := by
      simp [work, hrun]
    rw [map_eq_pure_bind, map_eq_pure_bind, bind_of_error hwork]
    simp [work, bind_of_error hrun]

section Writing

variable {nested : Nested} {drafting : Drafting}
  (hnested : ∀ id level mode, nested id level mode = scriptText level <$> drafting id mode)
include hnested

theorem renderRest_eq_draftLink (block : Block) :
    renderRest nested block = scriptText 1 <$> draftLink drafting block.next := by
  unfold renderRest
  cases block.next with
  | some next => exact hnested next 1 .chain
  | none => rfl

theorem renderProcedures_eq_draftProcedures (list : List Block) :
    renderProcedures nested list =
      List.map ProcedureDraft.text <$> draftProcedures drafting list := by
  induction list with
  | nil => rfl
  | cons definition rest ih =>
    unfold renderProcedures draftProcedures
    rw [map_bind]
    refine bind_congr fun session => ?_
    cases session.scope.definedBy? definition.id with
    | none => exact ih
    | some procedure =>
      simp only [renderProcedure, renderRest_eq_draftLink hnested, onFork_map, ih, map_bind,
        bind_map_left, bind_assoc, pure_bind, map_pure]
      rfl

/-- The head of a hat is written in the form of a call. -/
theorem renderCall_eq_draftForm (block : Block) (name : String) (slots : List String) :
    renderCall nested block name slots =
      Statement.text <$> draftForm drafting block (.call name slots) := by
  rw [← renderForm_eq_draftForm hnested]
  unfold renderCall
  rw [map_eq_pure_bind]
  rfl

theorem renderHat_eq_draftHat (block : Block) (slots : List String) :
    renderHat nested block slots = EntryDraft.text <$> draftHat drafting block slots := by
  unfold renderHat draftHat
  rw [renderCall_eq_draftForm hnested, renderRest_eq_draftLink hnested]
  simp only [map_bind, bind_map_left, map_pure]
  rfl

theorem renderEntries_eq_draftEntries (table : SignatureTable) (list : List Block) :
    renderEntries table nested list =
      List.map EntryDraft.text <$> draftEntries table drafting list := by
  induction list with
  | nil => rfl
  | cons block rest ih =>
    unfold renderEntries draftEntries
    cases entry table block with
    | hat slots =>
      simp only [renderHat_eq_draftHat hnested, ih, map_bind, bind_map_left, map_pure]
      rfl
    | undefined =>
      simp only [ih, map_bind, bind_map_left, map_pure]
      rfl
    | nothing => exact ih

end Writing

/-- Writing a target is drafting it and taking the texts of its parts. -/
theorem renderTarget_eq_draftTarget (table : SignatureTable) (target : Target) :
    renderTarget table target = Draft.parts <$> draftTarget table target := by
  have hnested := emitAt_eq_draftAt ⟨table, target.blocks⟩ maxNesting []
  unfold renderTarget draftTarget
  simp only [declareVariables_eq_draftVariables, declareLists_eq_draftLists,
    renderProcedures_eq_draftProcedures hnested, renderEntries_eq_draftEntries hnested, work_map,
    map_bind, bind_map_left, map_pure]
  rfl

/-- A target that is written was drafted, and its source is the text of the draft. -/
theorem ofTarget_eq_ok {table : SignatureTable} {target : Target} {globals : Dict String String}
    {script : Script} (h : Script.ofTarget table target globals = .ok script) :
    ∃ draft finish,
      draftTarget table target ⟨startScope target.isStage globals, []⟩ = .ok draft finish ∧
        script.source = draft.source := by
  unfold Script.ofTarget at h
  rw [renderTarget_eq_draftTarget] at h
  cases hdraft : draftTarget table target ⟨startScope target.isStage globals, []⟩ with
  | ok draft finish =>
    rw [map_of_ok hdraft] at h
    cases h
    exact ⟨draft, finish, rfl, rfl⟩
  | error error finish =>
    rw [map_eq_pure_bind, bind_of_error hdraft] at h
    cases h

/-! ## Declarations -/

/-- A declaration of an id carries the name that the id has in the scope. -/
structure Declaration.Declares (declaration : Declaration) (scope : Scope)
    (word : Bool → String) (id : String) : Prop where
  id_eq : declaration.id = id
  word_eq : declaration.word = word scope.isStage
  name_eq : scope.name? id = some declaration.name

theorem Declaration.Declares.mono {declaration : Declaration} {scope grown : Scope}
    {word : Bool → String} {id : String} (h : declaration.Declares scope word id)
    (hgrown : scope.GrowsTo grown) : declaration.Declares grown word id where
  id_eq := h.id_eq
  word_eq := by
    rw [hgrown.isStage_eq]
    exact h.word_eq
  name_eq := hgrown.name? h.name_eq

/-- Declarations bind their ids in order, and each carries the name of its id. -/
theorem declares_of_draftDeclarations {α : Type} {word : Bool → String} {raw : α → String}
    {value : String → α → Render String}
    (hvalue : ∀ id content (session : Session), ∃ text after,
      value id content session = .ok text after ∧ after.scope = session.scope)
    {entries : List (String × α)} {session after : Session} {declarations : List Declaration}
    (h : draftDeclarations word raw value entries session = .ok declarations after) :
    after.scope = session.scope.bindAll (entries.map fun e => (e.1, raw e.2)) ∧
      List.Forall₂ (fun e d => Declaration.Declares d after.scope word e.1)
        entries declarations := by
  induction entries generalizing session declarations with
  | nil =>
    cases h
    exact ⟨rfl, .nil⟩
  | cons e rest ih =>
    obtain ⟨id, content⟩ := e
    unfold draftDeclarations at h
    rcases hvalue id content session with ⟨text, between, htext, hscope⟩
    rw [bind_of_ok htext, bind_of_ok (bindName_run id (raw content) between)] at h
    rcases exists_of_bind_eq_ok h with ⟨_, _, hget, h⟩
    cases hget
    rcases exists_of_bind_eq_ok h with ⟨others, finish, hrest, h⟩
    cases h
    rcases ih hrest with ⟨hafter, hothers⟩
    dsimp only at hafter
    refine ⟨?_, .cons ?_ hothers⟩
    · rw [hafter, hscope]
      rfl
    · -- the name given here is still the name of the id when the others are bound
      have hhere : Declaration.Declares
          ⟨id, word (between.scope.bind id (raw content)).2.isStage,
            (between.scope.bind id (raw content)).1, text⟩
          (between.scope.bind id (raw content)).2 word id :=
        ⟨rfl, rfl, Scope.name?_bind_self _ _ _⟩
      have hgrown : (between.scope.bind id (raw content)).2.GrowsTo after.scope := by
        rw [hafter]
        exact Scope.growsTo_bindAll _ _
      exact hhere.mono hgrown

/-- The initial value of a variable, as it is written. -/
def valueText : Json → String
  | .number n => Numeral.render n.text
  | .text s => Quoted.quote s
  | .bool b => Quoted.quote (Json.boolText b)
  | .null => Quoted.quote ""
  | other => Quoted.quote other.compact

/-- An initial value is a text or a number, so writing it changes nothing. -/
theorem initialText_run (id : String) (v : Variable) (session : Session) :
    initialText id v session = .ok (valueText v.value) session := by
  have htext : literalText? session.scope (Literal.ofValue v.value) =
      some (valueText v.value) := by
    cases v.value with
    | _ => rfl
  have hrun := renderLiteral_run (initialAssignment id v) (Literal.ofValue v.value) session
  rw [htext] at hrun
  exact map_of_ok hrun _

theorem initialText_keeps_scope (id : String) (v : Variable) (session : Session) :
    ∃ text after, initialText id v session = .ok text after ∧ after.scope = session.scope :=
  ⟨_, _, initialText_run id v session, rfl⟩

/-- Declarations carry the values of what they declare, in order. -/
theorem values_of_draftDeclarations {α : Type} {word : Bool → String} {raw : α → String}
    {value : String → α → Render String} {text : α → String}
    (hvalue : ∀ id content (session : Session),
      value id content session = .ok (text content) session)
    {entries : List (String × α)} {session after : Session} {declarations : List Declaration}
    (h : draftDeclarations word raw value entries session = .ok declarations after) :
    declarations.map Declaration.value = entries.map fun e => text e.2 := by
  induction entries generalizing session declarations with
  | nil =>
    cases h
    rfl
  | cons e rest ih =>
    obtain ⟨id, content⟩ := e
    unfold draftDeclarations at h
    -- the value is written without a change, then the id is bound
    rw [bind_of_ok (hvalue id content session), bind_of_ok (bindName_run id _ session)] at h
    rcases exists_of_bind_eq_ok h with ⟨_, _, hget, h⟩
    cases hget
    rcases exists_of_bind_eq_ok h with ⟨others, finish, hrest, h⟩
    cases h
    rw [List.map_cons, ih hrest, List.map_cons]

/-! ## Procedures and hats -/

/-- A rendering on a copy of the scope leaves its diagnostics behind, but not the copy. -/
theorem onFork_eq_ok {α : Type} {change : Scope → Scope} {render : Render α}
    {session after : Session} {value : α} (h : onFork change render session = .ok value after) :
    ∃ inner, render { session with scope := change session.scope } = .ok value inner ∧
      after = { inner with scope := session.scope } := by
  unfold onFork at h
  cases hrun : render { session with scope := change session.scope } with
  | ok found inner =>
    rw [hrun] at h
    cases h
    exact ⟨inner, rfl, rfl⟩
  | error failure inner =>
    rw [hrun] at h
    cases h

section Drafted

variable {sources : Sources} {drafting : Drafting}
  (hdrafting : ∀ id mode, StepsBy (Session.Step sources.blocks) (drafting id mode))
include hdrafting

/-- Procedures leave the scope as it is; each is one that the scope knows, with a body drafted
from the scope with its parameters. -/
theorem drafted_of_draftProcedures {list : List Block} {session after : Session}
    {drafts : List ProcedureDraft}
    (h : draftProcedures drafting list session = .ok drafts after) :
    after.scope = session.scope ∧
      (drafts.map fun draft => (draft.definition, draft.procedure)) =
        list.filterMap (fun block =>
          (session.scope.definedBy? block.id).map fun procedure => (block, procedure)) ∧
      ∀ draft ∈ drafts, drafting.Gives .chain
        (inherited (parameters draft.procedure) session.scope) draft.body := by
  induction list generalizing session drafts with
  | nil =>
    cases h
    exact ⟨rfl, rfl, fun _ hnil => absurd hnil List.not_mem_nil⟩
  | cons definition rest ih =>
    unfold draftProcedures at h
    rcases exists_of_bind_eq_ok h with ⟨_, _, hget, h⟩
    cases hget
    cases hdefined : session.scope.definedBy? definition.id with
    | none =>
      rw [hdefined] at h
      rcases ih h with ⟨hscope, hdrafts, hbodies⟩
      refine ⟨hscope, ?_, hbodies⟩
      rw [hdrafts]
      simp [hdefined]
    | some procedure =>
      rw [hdefined] at h
      rcases exists_of_bind_eq_ok h with ⟨body, between, hbody, h⟩
      rcases exists_of_bind_eq_ok h with ⟨others, finish, hrest, h⟩
      cases h
      rcases onFork_eq_ok hbody with ⟨inner, hinner, rfl⟩
      -- the body was drafted on a copy, so the others find the same scope
      rcases ih hrest with ⟨hscope, hdrafts, hbodies⟩
      refine ⟨hscope, ?_, ?_⟩
      · rw [List.map_cons, hdrafts]
        simp [hdefined]
      · intro draft hdraft
        rcases List.mem_cons.1 hdraft with rfl | hother
        · exact (gives_of_draftLink hdrafting hinner).1
        · exact hbodies draft hother

end Drafted

/-- A drafted hat: its head is drafted first, and then its body. -/
theorem draftHat_eq_ok {drafting : Drafting} {block : Block} {slots : List String}
    {session after : Session} {draft : EntryDraft}
    (h : draftHat drafting block slots session = .ok draft after) :
    ∃ head between body,
      draftForm drafting block (.call block.opcode slots) session = .ok head between ∧
      draftLink drafting block.next between = .ok body after ∧ draft = .hat head body := by
  unfold draftHat at h
  rcases exists_of_bind_eq_ok h with ⟨head, between, hhead, h⟩
  rcases exists_of_bind_eq_ok h with ⟨body, finish, hbody, h⟩
  cases h
  exact ⟨head, between, body, hhead, hbody, rfl⟩

/-- The head of a hat: a block that the table makes a hat, in the form of a call under its own
opcode with the slots that the table lists, whatever form the block would have elsewhere. -/
def Statement.IsHatHead (table : SignatureTable) (head : Statement) : Prop :=
  ∃ slots, entry table head.block = .hat slots ∧ head.form = .call head.block.opcode slots

/-- What is known of the script of a hat that was drafted from `start` on. -/
def EntryDraft.DraftedBy (sources : Sources) (drafting : Drafting) (start : Scope) :
    EntryDraft → Prop
  | .hat head body => head.IsHatHead sources.table ∧
      head.DraftedBy sources drafting start ∧ drafting.Gives .chain start body
  | .placeholder _ => True

theorem EntryDraft.DraftedBy.mono {sources : Sources} {drafting : Drafting} {start grown : Scope}
    {draft : EntryDraft} (h : draft.DraftedBy sources drafting grown)
    (hgrown : start.GrowsTo grown) : draft.DraftedBy sources drafting start := by
  cases draft with
  | hat head body => exact ⟨h.1, h.2.1.mono hgrown, h.2.2.mono hgrown⟩
  | placeholder block => trivial

section Drafted

variable {sources : Sources} {drafting : Drafting}
  (hdrafting : ∀ id mode, StepsBy (Session.Step sources.blocks) (drafting id mode))
include hdrafting

theorem stepsBy_draftCall (block : Block) (name : String) (slots : List String) :
    StepsBy (Session.Step sources.blocks) (draftForm drafting block (.call name slots)) := by
  have h := stepsBy_renderCall (fun id level mode => (hdrafting id mode).map (scriptText level))
    block name slots
  rw [renderCall_eq_draftForm fun id level mode => rfl] at h
  exact h.of_map

theorem stepsBy_draftHat (block : Block) (slots : List String) :
    StepsBy (Session.Step sources.blocks) (draftHat drafting block slots) := by
  unfold draftHat
  refine (stepsBy_draftCall hdrafting block _ slots).bind fun _ => ?_
  exact (stepsBy_draftLink hdrafting _).bind fun _ => stepsBy_pure _

theorem drafted_of_draftHat {key : String} {block : Block}
    (hblock : sources.blocks.get? key = some block) {slots : List String}
    (hentry : entry sources.table block = .hat slots)
    {session after : Session} {draft : EntryDraft}
    (h : draftHat drafting block slots session = .ok draft after) :
    draft.DraftedBy sources drafting session.scope ∧ session.scope.GrowsTo after.scope := by
  refine ⟨?_, (stepsBy_draftHat hdrafting block slots).growsTo h⟩
  rcases draftHat_eq_ok h with ⟨head, between, body, hhead, hbody, rfl⟩
  have hgrown := (stepsBy_draftCall hdrafting block block.opcode slots).growsTo hhead
  rcases draftedBy_of_draftForm hdrafting hblock hhead with ⟨hdrafted, hown, hform, -⟩
  refine ⟨⟨slots, ?_, ?_⟩, hdrafted, (gives_of_draftLink hdrafting hbody).1.mono hgrown⟩
  · rw [hown]
    exact hentry
  · rw [hown]
    exact hform

/-- The hats are drafted one after the other, in a scope that only grows. -/
theorem drafted_of_draftEntries {list : List Block}
    (hlist : ∀ block ∈ list, ∃ key, sources.blocks.get? key = some block)
    {session after : Session} {drafts : List EntryDraft}
    (h : draftEntries sources.table drafting list session = .ok drafts after) :
    ∀ draft ∈ drafts, draft.DraftedBy sources drafting session.scope := by
  induction list generalizing session drafts with
  | nil =>
    cases h
    exact fun _ hnil => absurd hnil List.not_mem_nil
  | cons block rest ih =>
    -- the scope grows from entry to entry, and what was drafted in a grown scope still counts
    have hrest : ∀ other ∈ rest, ∃ key, sources.blocks.get? key = some other :=
      fun other hother => hlist other (List.mem_cons_of_mem _ hother)
    unfold draftEntries at h
    cases hentry : entry sources.table block with
    | hat slots =>
      rw [hentry] at h
      rcases exists_of_bind_eq_ok h with ⟨hat, between, hhat, h⟩
      rcases exists_of_bind_eq_ok h with ⟨others, finish, hothers, h⟩
      cases h
      rcases hlist block List.mem_cons_self with ⟨key, hblock⟩
      rcases drafted_of_draftHat hdrafting hblock hentry hhat with ⟨hdrafted, hgrown⟩
      intro draft hdraft
      rcases List.mem_cons.1 hdraft with rfl | hother
      · exact hdrafted
      · exact (ih hrest hothers draft hother).mono hgrown
    | undefined =>
      rw [hentry] at h
      rcases exists_of_bind_eq_ok h with ⟨others, finish, hothers, h⟩
      cases h
      intro draft hdraft
      rcases List.mem_cons.1 hdraft with rfl | hother
      · trivial
      · exact ih hrest hothers draft hother
    | nothing =>
      rw [hentry] at h
      exact ih hrest h

end Drafted

/-- What an entry was drafted from: the placeholder from a block that nothing describes, a hat from
a block that the table makes one. -/
inductive EntryDraft.ComesFrom (table : SignatureTable) (drafting : Drafting)
    (list : List Block) : EntryDraft → Prop
  | placeholder {block : Block} (hblock : block ∈ list) (hentry : entry table block = .undefined) :
    ComesFrom table drafting list (.placeholder block)
  | hat {block : Block} {slots : List String} {start finish : Session} {draft : EntryDraft}
    (hblock : block ∈ list) (hentry : entry table block = .hat slots)
    (hrun : draftHat drafting block slots start = .ok draft finish) :
    ComesFrom table drafting list draft

theorem EntryDraft.ComesFrom.cons {table : SignatureTable} {drafting : Drafting}
    {list : List Block} {draft : EntryDraft} (h : draft.ComesFrom table drafting list)
    (first : Block) : draft.ComesFrom table drafting (first :: list) := by
  cases h with
  | placeholder hblock hentry => exact .placeholder (List.mem_cons_of_mem _ hblock) hentry
  | hat hblock hentry hrun => exact .hat (List.mem_cons_of_mem _ hblock) hentry hrun

theorem comesFrom_of_draftEntries {table : SignatureTable} {drafting : Drafting}
    {list : List Block} {session after : Session} {drafts : List EntryDraft}
    (h : draftEntries table drafting list session = .ok drafts after) :
    ∀ draft ∈ drafts, draft.ComesFrom table drafting list := by
  induction list generalizing session drafts with
  | nil =>
    cases h
    exact fun _ hnil => absurd hnil List.not_mem_nil
  | cons first rest ih =>
    unfold draftEntries at h
    intro draft hdraft
    -- a draft comes from the first block or from one behind it
    cases hentry : entry table first with
    | hat slots =>
      rw [hentry] at h
      rcases exists_of_bind_eq_ok h with ⟨hat, between, hhat, h⟩
      rcases exists_of_bind_eq_ok h with ⟨others, finish, hothers, h⟩
      cases h
      rcases List.mem_cons.1 hdraft with rfl | hother
      · exact .hat List.mem_cons_self hentry hhat
      · exact (ih hothers draft hother).cons first
    | undefined =>
      rw [hentry] at h
      rcases exists_of_bind_eq_ok h with ⟨others, finish, hothers, h⟩
      cases h
      rcases List.mem_cons.1 hdraft with rfl | hother
      · exact .placeholder List.mem_cons_self hentry
      · exact (ih hothers draft hother).cons first
    | nothing =>
      rw [hentry] at h
      exact (ih h draft hdraft).cons first

/-- The statements behind and in the head of a hat are placed, and have the forms of their
blocks. -/
theorem EntryDraft.DraftedBy.placed {sources : Sources} {room : Nat} {entered : List String}
    {start : Scope} {draft : EntryDraft}
    (h : draft.DraftedBy sources (draftAt sources room entered) start) {lines : List Statement}
    (hlines : lines ∈ draft.scripts) {statement : Statement} (hwithin : statement.Within lines) :
    statement.Placed sources start ∧
      ∃ headOnly, statement.IsFormed sources.table headOnly := by
  cases draft with
  | placeholder block => exact absurd hlines List.not_mem_nil
  | hat head body =>
    rcases h with ⟨-, hhead, hbody⟩
    rcases List.mem_cons.1 hlines with rfl | hargument
    · rcases hbody.placed hwithin with ⟨hplaced, headOnly, -, hformed⟩
      exact ⟨hplaced, headOnly, hformed⟩
    · -- a script in the head fills one of the slots of the head
      rcases List.mem_map.1 hargument with ⟨argument, hmem, rfl⟩
      rcases exists_fills_of_mem hhead.arguments_fill hmem with ⟨slot, hfills⟩
      rcases (hfills.gives.mono hhead.before_grown).placed hwithin with
        ⟨hplaced, headOnly, -, hformed⟩
      exact ⟨hplaced, headOnly, hformed⟩

/-! ## The phases -/

/-- The parts of a drafted target, and the scopes between the phases of its drafting: `declared`
when all variables and lists are declared, `registered` when all procedures are registered. -/
structure Draft.Phases (table : SignatureTable) (target : Target) (start : Scope)
    (declared registered : Session) (draft : Draft) : Prop where
  declared_scope : declared.scope = start.bindAll target.rawNames
  vars_declared : List.Forall₂
    (fun e d => Declaration.Declares d declared.scope declarationWord e.1)
    target.vars.entries draft.vars
  lists_declared : List.Forall₂
    (fun e d => Declaration.Declares d declared.scope listWord e.1)
    target.lists.entries draft.lists
  registers : predeclare target.blocks declared = .ok () registered
  headers : (draft.procedures.map fun p => (p.definition, p.procedure)) =
    (definitions target.blocks).filterMap fun block =>
      (registered.scope.definedBy? block.id).map fun procedure => (block, procedure)
  bodies_given : ∀ p ∈ draft.procedures,
    (draftAt ⟨table, target.blocks⟩ maxNesting []).Gives .chain
      (inherited (parameters p.procedure) registered.scope) p.body
  entries_drafted : ∀ e ∈ draft.entries,
    e.DraftedBy ⟨table, target.blocks⟩ (draftAt ⟨table, target.blocks⟩ maxNesting [])
      registered.scope

theorem work_eq_ok {α : Type} {render : Render α} {session after : Session} {value : α}
    (h : work render session = .ok value after) : render session = .ok value after := by
  unfold work at h
  cases hrun : render session with
  | ok found finish =>
    rw [hrun] at h
    cases h
    rfl
  | error failure finish =>
    rw [hrun] at h
    cases h

/-- The course of a target's drafting, with the sessions that its parts leave: `declared` behind the
declarations, `registered` behind the registration of the procedures. The problems of blocks at
the top level are noted before the first script is drafted. -/
structure Draft.Course (table : SignatureTable) (target : Target)
    (start declared registered finish : Session) (draft : Draft) : Prop where
  declares : ∃ bound, draftVariables target.vars.entries start = .ok draft.vars bound ∧
    draftLists target.lists.entries bound = .ok draft.lists declared
  registers : predeclare target.blocks declared = .ok () registered
  scripts_drafted : ∃ forked,
    draftProcedures (draftAt ⟨table, target.blocks⟩ maxNesting []) (definitions target.blocks)
      { registered with
        diagnostics := registered.diagnostics ++ undefinedEntries table target.blocks } =
      .ok draft.procedures forked ∧
    draftEntries table (draftAt ⟨table, target.blocks⟩ maxNesting []) (entryBlocks target.blocks)
      forked = .ok draft.entries finish

/-- A target that is drafted takes its course. -/
theorem course_of_draftTarget {table : SignatureTable} {target : Target} {session finish : Session}
    {draft : Draft} (h : draftTarget table target session = .ok draft finish) :
    ∃ declared registered, draft.Course table target session declared registered finish := by
  unfold draftTarget at h
  -- the six parts of the work, each with the session that it leaves
  rcases exists_of_bind_eq_ok h with ⟨vars, bound, hvars, h⟩
  rcases exists_of_bind_eq_ok h with ⟨lists, declared, hlists, h⟩
  rcases exists_of_bind_eq_ok h with ⟨_, registered, hregisters, h⟩
  rcases exists_of_bind_eq_ok h with ⟨_, noted, hnoted, h⟩
  cases hnoted
  rcases exists_of_bind_eq_ok h with ⟨procedures, forked, hprocedures, h⟩
  rcases exists_of_bind_eq_ok h with ⟨entries, last, hentries, h⟩
  cases h
  refine ⟨declared, registered, ⟨bound, ?_, ?_⟩, hregisters, forked, ?_, ?_⟩
  · exact work_eq_ok hvars
  · exact work_eq_ok hlists
  · exact work_eq_ok hprocedures
  · exact work_eq_ok hentries

/-- Declarations carry the values of the target's variables and the items of its lists. -/
theorem Draft.Course.values {table : SignatureTable} {target : Target}
    {start declared registered finish : Session} {draft : Draft}
    (h : draft.Course table target start declared registered finish) :
    draft.vars.map Declaration.value = target.vars.entries.map (fun e => valueText e.2.value) ∧
    draft.lists.map Declaration.value = target.lists.entries.map fun e => itemsText e.2.items := by
  rcases h.declares with ⟨bound, hvars, hlists⟩
  exact ⟨values_of_draftDeclarations initialText_run hvars,
    values_of_draftDeclarations (fun _ _ _ => rfl) hlists⟩

theorem exists_get?_of_mem_entryBlocks {blocks : Dict String Block} {block : Block}
    (h : block ∈ entryBlocks blocks) : ∃ key, blocks.get? key = some block :=
  Dict.exists_get?_of_mem_values (List.mem_filter.1 h).1

/-- On its course a target goes through its phases. -/
theorem Draft.Course.phases {table : SignatureTable} {target : Target}
    {start declared registered finish : Session} {draft : Draft}
    (h : draft.Course table target start declared registered finish) :
    draft.Phases table target start.scope declared registered := by
  rcases h with ⟨⟨bound, hvars, hlists⟩, hregisters, forked, hprocedures, hentries⟩
  have hdrafting := stepsBy_draftAt ⟨table, target.blocks⟩ maxNesting []
  rcases declares_of_draftDeclarations initialText_keeps_scope hvars with ⟨hbound, hvarsdecl⟩
  rcases declares_of_draftDeclarations (fun _ list session => ⟨_, _, rfl, rfl⟩) hlists with
    ⟨hdeclared, hlistsdecl⟩
  rcases drafted_of_draftProcedures hdrafting hprocedures with ⟨hforked, hheaders, hbodies⟩
  have hdrafted := drafted_of_draftEntries hdrafting
    (fun _ hblock => exists_get?_of_mem_entryBlocks hblock) hentries
  -- the procedures left the scope alone, so the hats start from the registered one
  rw [hforked] at hdrafted
  have hgrown : bound.scope.GrowsTo declared.scope := by
    rw [hdeclared]
    exact Scope.growsTo_bindAll _ _
  refine ⟨?_, ?_, hlistsdecl, hregisters, hheaders, hbodies, hdrafted⟩
  · rw [hdeclared, hbound, ← Scope.bindAll_append]
    rfl
  · exact hvarsdecl.imp fun _ _ hdeclares => hdeclares.mono hgrown

/-- A target that is drafted goes through its phases. -/
theorem phases_of_draftTarget {table : SignatureTable} {target : Target} {session finish : Session}
    {draft : Draft} (h : draftTarget table target session = .ok draft finish) :
    ∃ declared registered,
      draft.Phases table target session.scope declared registered := by
  rcases course_of_draftTarget h with ⟨declared, registered, hcourse⟩
  exact ⟨declared, registered, hcourse.phases⟩

end BlockScribe
