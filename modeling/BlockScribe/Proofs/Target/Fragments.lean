import BlockScribe.Proofs.Target.Isolation
import BlockScribe.Proofs.Target.Predeclaration

/-! # The fragments of a source

A source is its header and a sequence of fragments: one for each variable, one for each list, one
for each definition that is the first with its proccode, and one for each other block at the top
level that starts a script or that nothing describes. What leaves a fragment is said here without
the renderings that write it, so that a fragment which is lost, written twice or out of order would
show.

* `WrittenInTurn`: items that are written one after the other, with the sessions between them.
* `ProcedureWritten`, `EntryWritten`: how the fragment of a definition and of another block is
  written.
* `source_is_its_fragments`: the fragments of a source.
-/

namespace BlockScribe

open Script

/-! ## Items in turn -/

/-- Items are written one after the other: each leaves one text, and the session that the next one
is written from. -/
inductive WrittenInTurn {α : Type} (written : α → Session → String → Session → Prop) :
    Session → List α → List String → Session → Prop
  | nil (session : Session) : WrittenInTurn written session [] [] session
  | cons {item : α} {rest : List α} {before between after : Session} {text : String}
    {texts : List String} (hitem : written item before text between)
    (hrest : WrittenInTurn written between rest texts after) :
    WrittenInTurn written before (item :: rest) (text :: texts) after

/-- What a rendering does with an item. -/
def WrittenBy {α : Type} (render : α → Render String) (item : α) (before : Session)
    (text : String) (after : Session) : Prop :=
  render item before = .ok text after

section InTurn

variable {α : Type} {written written' : α → Session → String → Session → Prop} {list : List α}
  {before after : Session} {texts : List String}

/-- What is known of every item may be added. -/
theorem WrittenInTurn.imp (h : WrittenInTurn written before list texts after)
    (himp : ∀ item ∈ list, ∀ {before text after},
      written item before text after → written' item before text after) :
    WrittenInTurn written' before list texts after := by
  induction h with
  | nil session => exact .nil session
  | cons hitem hrest ih =>
    exact .cons (himp _ List.mem_cons_self hitem)
      (ih fun item hmem => himp item (List.mem_cons_of_mem _ hmem))

/-- A rendering of a list that renders its items one after the other. -/
theorem writtenInTurn_of_run {render : α → Render String} {all : List α → Render (List String)}
    (hnil : all [] = pure [])
    (hcons : ∀ item rest, all (item :: rest) = (do
      let text ← render item
      let texts ← all rest
      return text :: texts))
    (h : all list before = .ok texts after) :
    WrittenInTurn (WrittenBy render) before list texts after := by
  induction list generalizing before texts with
  | nil =>
    rw [hnil] at h
    cases h
    exact .nil _
  | cons item rest ih =>
    rw [hcons] at h
    rcases exists_of_bind_eq_ok h with ⟨text, between, hitem, h⟩
    rcases exists_of_bind_eq_ok h with ⟨others, last, hrest, h⟩
    cases h
    exact .cons hitem (ih hrest)

end InTurn

/-! ## Procedures -/

/-- The body of a procedure is written with a copy of a scope in which the parameters have their
names; of the copy nothing stays. -/
structure ForkWritten (nested : Nested) (scope : Scope) (procedure : Procedure)
    (definition : Block) (before : Session) (text : String) (after : Session) : Prop where
  before_eq : before.scope = scope
  body_written : ∃ body inner,
    renderRest nested definition
      ⟨inherited (parameters procedure) scope, before.diagnostics⟩ = .ok body inner ∧
    text = procedureHead procedure ++ " " ++ Layout.braced body ∧
    after = ⟨scope, inner.diagnostics⟩

/-- A definition is written as the procedure that it is the first to define. -/
def ProcedureWritten (blocks : Dict String Block) (nested : Nested) (scope : Scope)
    (definition : Block) (before : Session) (text : String) (after : Session) : Prop :=
  ∃ proccode procedure prototype,
    firstWith? blocks (definitions blocks) proccode = some definition ∧
    Prototype.ofDefinition blocks definition = .ok prototype ∧
    scope.procedure? proccode = some procedure ∧ procedure.RegisteredFrom definition prototype ∧
    ForkWritten nested scope procedure definition before text after

theorem forkWritten_of_renderProcedure {nested : Nested} {procedure : Procedure}
    {definition : Block} {before after : Session} {text : String}
    (h : renderProcedure nested procedure definition before = .ok text after) :
    ForkWritten nested before.scope procedure definition before text after := by
  unfold renderProcedure at h
  rcases exists_of_bind_eq_ok h with ⟨body, between, hbody, h⟩
  cases h
  rcases onFork_eq_ok hbody with ⟨inner, hinner, rfl⟩
  exact ⟨rfl, body, inner, hinner, rfl, rfl⟩

/-- Of the definitions, those are written that define a procedure of the scope. -/
theorem writtenInTurn_of_renderProcedures {nested : Nested} {list : List Block} {scope : Scope}
    {before after : Session} {texts : List String}
    (h : renderProcedures nested list before = .ok texts after) (hscope : before.scope = scope) :
    WrittenInTurn (fun definition before text after => ∃ procedure,
        scope.definedBy? definition.id = some procedure ∧
        ForkWritten nested scope procedure definition before text after)
      before (list.filter fun definition => (scope.definedBy? definition.id).isSome) texts
      after := by
  induction list generalizing before texts with
  | nil =>
    cases h
    exact .nil _
  | cons definition rest ih =>
    unfold renderProcedures at h
    rcases exists_of_bind_eq_ok h with ⟨_, _, hget, h⟩
    cases hget
    rw [hscope] at h
    rw [List.filter_cons]
    cases hdefined : scope.definedBy? definition.id with
    | none =>
      rw [hdefined] at h
      exact ih h hscope
    | some procedure =>
      rw [hdefined] at h
      rcases exists_of_bind_eq_ok h with ⟨text, between, htext, h⟩
      rcases exists_of_bind_eq_ok h with ⟨others, last, hrest, h⟩
      cases h
      have hfork := forkWritten_of_renderProcedure htext
      -- the scope is the same in front of the next procedure
      have hkept : between.scope = scope := (renderProcedure_keeps_scope htext).trans hscope
      rw [hscope] at hfork
      exact .cons ⟨procedure, hdefined, hfork⟩ (ih hrest hkept)

section Winners

variable {blocks : Dict String Block} {declared registered : Session}
  (hkeyed : ∀ e ∈ blocks.entries, e.2.id = e.1)
  (hstart : declared.scope.procedures = .empty)
  (hregisters : predeclare blocks declared = .ok () registered)
include hkeyed hstart hregisters

/-- A definition defines a registered procedure if and only if it is the first with its
proccode. -/
theorem isSome_definedBy?_eq {definition : Block} (hmem : definition ∈ definitions blocks) :
    (registered.scope.definedBy? definition.id).isSome =
      definition.isFirstIn blocks (definitions blocks) := by
  have hids := nodup_ids_of_keyed hkeyed
  rw [Bool.eq_iff_iff, defined_iff_of_predeclareAll hids hregisters hstart]
  constructor
  · rintro ⟨found, hfound, hid, hwins⟩
    rw [List.inj_on_of_nodup_map hids hfound hmem hid] at hwins
    exact hwins
  · intro hwins
    exact ⟨definition, hmem, rfl, hwins⟩

/-- The first definitions of the proccodes are written, in order. -/
theorem writtenInTurn_procedures {nested : Nested} {before after : Session} {texts : List String}
    (h : renderProcedures nested (definitions blocks) before = .ok texts after)
    (hscope : before.scope = registered.scope) :
    WrittenInTurn (ProcedureWritten blocks nested registered.scope) before
      ((definitions blocks).filter fun definition =>
        definition.isFirstIn blocks (definitions blocks)) texts after := by
  have hturn := writtenInTurn_of_renderProcedures h hscope
  rw [List.filter_congr fun definition hmem =>
    isSome_definedBy?_eq hkeyed hstart hregisters hmem] at hturn
  refine hturn.imp ?_
  rintro definition hmem before text after ⟨procedure, hdefined, hfork⟩
  rcases registered_of_definedBy? hregisters hstart hdefined with
    ⟨proccode, found, prototype, hprocedure, hfirst, hid, hread, hfrom⟩
  -- the procedure was registered from a definition with this id, and there is only one
  have heq : found = definition :=
    List.inj_on_of_nodup_map (nodup_ids_of_keyed hkeyed) (mem_of_firstWith? hfirst).1
      (List.mem_of_mem_filter hmem) hid
  cases heq
  exact ⟨proccode, procedure, prototype, hfirst, hread, hprocedure, hfrom, hfork⟩

end Winners

/-! ## Hats and placeholders -/

/-- Whether a block starts a script: it reports no argument, and its opcode is a hat in the
table. -/
def Block.startsScript (table : SignatureTable) (block : Block) : Bool :=
  !block.isArgumentReporter && (table.get? block.opcode).any Signature.isHat

/-- Whether nothing describes a block: it reports no argument, its opcode is not in the table, and
it has no form of its own. -/
def Block.isUndescribed (table : SignatureTable) (block : Block) : Bool :=
  !block.isArgumentReporter && (table.get? block.opcode).isNone && !block.isSpecial

/-- A block that starts a script is written as a hat with the slots of its signature, and one that
nothing describes as a placeholder, which leaves the session as it was. -/
inductive EntryWritten (table : SignatureTable) (nested : Nested) (block : Block) :
    Session → String → Session → Prop
  | hat {before after : Session} {text : String} {signature : Signature}
    (hstarts : block.startsScript table = true)
    (hsignature : table.get? block.opcode = some signature)
    (hwritten : renderHat nested block signature.slots before = .ok text after) :
    EntryWritten table nested block before text after
  | placeholder (session : Session) (hundescribed : block.isUndescribed table = true) :
    EntryWritten table nested block session (undefinedText block.opcode) session

/-- What a block leaves, by what is said of it. -/
theorem entry_cases (table : SignatureTable) (block : Block) :
    (∃ signature, block.startsScript table = true ∧ table.get? block.opcode = some signature ∧
      entry table block = .hat signature.slots) ∨
    (block.isUndescribed table = true ∧ entry table block = .undefined) ∨
    (block.startsScript table = false ∧ block.isUndescribed table = false ∧
      entry table block = .nothing) := by
  unfold Block.startsScript Block.isUndescribed entry
  -- reporters first, then the table, then the special opcodes
  cases hreporter : block.isArgumentReporter with
  | true => exact .inr (.inr ⟨rfl, rfl, rfl⟩)
  | false =>
    cases hsignature : table.get? block.opcode with
    | some signature =>
      cases hhat : signature.isHat with
      | true => exact .inl ⟨signature, by simp [hhat], rfl, by simp [hhat]⟩
      | false => exact .inr (.inr ⟨by simp [hhat], rfl, by simp [hhat]⟩)
    | none =>
      cases hspecial : block.isSpecial with
      | true => exact .inr (.inr ⟨rfl, rfl, rfl⟩)
      | false => exact .inr (.inl ⟨rfl, rfl⟩)

/-- The blocks that start a script or that nothing describes are written, in order. -/
theorem writtenInTurn_of_renderEntries {table : SignatureTable} {nested : Nested}
    {list : List Block} {before after : Session} {texts : List String}
    (h : renderEntries table nested list before = .ok texts after) :
    WrittenInTurn (EntryWritten table nested) before
      (list.filter fun block => block.startsScript table || block.isUndescribed table) texts
      after := by
  induction list generalizing before texts with
  | nil =>
    cases h
    exact .nil _
  | cons block rest ih =>
    unfold renderEntries at h
    rw [List.filter_cons]
    rcases entry_cases table block with ⟨signature, hstarts, hsignature, hentry⟩ |
      ⟨hundescribed, hentry⟩ | ⟨hstarts, hundescribed, hentry⟩
    · -- a hat leaves its script
      rw [hentry] at h
      rcases exists_of_bind_eq_ok h with ⟨text, between, htext, h⟩
      rcases exists_of_bind_eq_ok h with ⟨others, last, hrest, h⟩
      cases h
      rw [hstarts]
      exact .cons (.hat hstarts hsignature htext) (ih hrest)
    · -- a block that nothing describes leaves its placeholder
      rw [hentry] at h
      rcases exists_of_bind_eq_ok h with ⟨others, last, hrest, h⟩
      cases h
      rw [hundescribed, Bool.or_true]
      exact .cons (.placeholder before hundescribed) (ih hrest)
    · -- any other block leaves nothing and is not among the filtered ones
      rw [hentry] at h
      rw [hstarts, hundescribed]
      exact ih h

/-! ## A source -/

/-- The fragments of a source, by what leaves them. -/
structure Fragments where
  vars : List String
  lists : List String
  procedures : List String
  entries : List String

/-- All fragments, in the order of the source. -/
def Fragments.all (fragments : Fragments) : List String :=
  fragments.vars ++ fragments.lists ++ fragments.procedures ++ fragments.entries

/-- The fragments of a target, each written from what the one before it left. The definitions that
are first with their proccodes are written with copies of the scope that the registration left, and
the other blocks start from that scope. -/
structure Fragments.Written (fragments : Fragments) (table : SignatureTable) (target : Target)
    (nested : Nested) (start registered : Session) : Prop where
  declared : ∃ bound declared,
    WrittenInTurn (WrittenBy fun e => renderDeclaration nested (initialAssignment e.1 e.2))
      start target.vars.entries fragments.vars bound ∧
    WrittenInTurn (WrittenBy fun e => declareList e.1 e.2)
      bound target.lists.entries fragments.lists declared ∧
    predeclare target.blocks declared = .ok () registered
  scripts : ∃ forked finish,
    WrittenInTurn (ProcedureWritten target.blocks nested registered.scope)
      { registered with
        diagnostics := registered.diagnostics ++ undefinedEntries table target.blocks }
      ((definitions target.blocks).filter fun definition =>
        definition.isFirstIn target.blocks (definitions target.blocks))
      fragments.procedures forked ∧
    forked.scope = registered.scope ∧
    WrittenInTurn (EntryWritten table nested) forked
      ((entryBlocks target.blocks).filter fun block =>
        block.startsScript table || block.isUndescribed table)
      fragments.entries finish

/-- The parts of a target that is written are its fragments. -/
theorem exists_fragments_of_renderTarget {table : SignatureTable} {target : Target}
    (hkeyed : target.Keyed) {start finish : Session} (hstart : start.scope.procedures = .empty)
    {parts : List String} (h : renderTarget table target start = .ok parts finish) :
    ∃ fragments : Fragments, parts = fragments.all ∧
      ∃ registered, fragments.Written table target
        (emitAt ⟨table, target.blocks⟩ maxNesting []) start registered := by
  rcases renderTarget_eq_ok h with ⟨vars, bound, lists, declared, registered, procedures, forked,
    entries, hvars, hlists, hregisters, hprocedures, hentries, rfl⟩
  -- declarations bind names and register nothing
  have hnone : declared.scope.procedures = .empty := by
    rw [scope_of_declarations hvars hlists, (Scope.growsTo_bindAll _ _).procedures_eq, hstart]
  refine ⟨⟨vars, lists, procedures, entries⟩, rfl, registered, ?_, ?_⟩
  · refine ⟨bound, declared, ?_, ?_, hregisters⟩
    · exact writtenInTurn_of_run rfl (fun _ _ => rfl) hvars
    · exact writtenInTurn_of_run rfl (fun _ _ => rfl) hlists
  · -- procedures leave the scope as it is, so the hats start where registration ended
    have hkept := renderProcedures_keeps_scope hprocedures
    have hturn := writtenInTurn_procedures hkeyed hnone hregisters hprocedures rfl
    exact ⟨forked, finish, hturn, hkept, writtenInTurn_of_renderEntries hentries⟩

/-- The source of a target is its header and then one fragment for each variable, each list, each
definition that is the first with its proccode, and each other block at the top level that starts a
script or that nothing describes, in the order of the file, and nothing else. -/
theorem source_is_its_fragments {table : SignatureTable} {target : Target}
    {globals : Dict String String} {script : Script} (hkeyed : target.Keyed)
    (hscript : Script.ofTarget table target globals = .ok script) :
    ∃ fragments : Fragments, script.source = Layout.stack (header :: fragments.all) ∧
      ∃ registered, fragments.Written table target (emitAt ⟨table, target.blocks⟩ maxNesting [])
        ⟨startScope target.isStage globals, []⟩ registered := by
  unfold Script.ofTarget at hscript
  cases hrun : renderTarget table target ⟨startScope target.isStage globals, []⟩ with
  | error error after =>
    rw [hrun] at hscript
    cases hscript
  | ok parts finish =>
    rw [hrun] at hscript
    cases hscript
    have hstart : (startScope target.isStage globals).procedures = .empty := by
      rw [startScope_eq]
    rcases exists_fragments_of_renderTarget hkeyed hstart hrun with ⟨fragments, rfl, hwritten⟩
    exact ⟨fragments, rfl, hwritten⟩

/-- The palette, with an extension whose only block is a hat and has the opcode of a reporter. -/
def tideTable : SignatureTable :=
  SignatureTable.palette.extendWith "argument" [⟨"reporter_tide", [], "hat"⟩]

/-- The hat of the extension. -/
def tide : Block :=
  ⟨"tide", "argument_reporter_tide", some "say", .empty, .empty, false, true, none⟩

theorem get?_tideTable : tideTable.get? tide.opcode = some ⟨[], .hat⟩ := by
  show (SignatureTable.palette.insert ("argument" ++ "_" ++ "reporter_tide") ⟨[], .hat⟩).get?
    "argument_reporter_tide" = some ⟨[], .hat⟩
  rw [Dict.get?_insert, if_pos (by decide)]

/-- A target with one script, which starts with the hat of the extension. -/
def harbour : Target where
  name := "Harbour"
  isStage := false
  blocks := Dict.ofList [
    ("tide", tide),
    ("say", ⟨"say", "looks_say", none,
      Dict.ofList [("MESSAGE", .literal ⟨.text, "high", none⟩)], .empty, false, false, none⟩)]
  vars := .empty
  lists := .empty
  costumes := []
  sounds := []

/-- A hat at the top level leaves no script if its opcode is that of a reporter: the source is the
header alone, without any fragment. -/
theorem harbour_hat_leaves_no_script :
    harbour.Keyed ∧
    Script.ofTarget tideTable harbour .empty = .ok ⟨"Harbour", false, header, []⟩ ∧
    (∃ block ∈ harbour.blocks.values, block.topLevel = true ∧ block.isDefinition = false ∧
      (tideTable.get? block.opcode).any Signature.isHat = true) ∧
    ∀ text texts, Layout.stack (header :: text :: texts) ≠ header := by
  refine ⟨by decide, by decide +kernel, ?_, ?_⟩
  · refine ⟨tide, List.mem_cons_self, rfl, by decide, ?_⟩
    rw [get?_tideTable]
    rfl
  · -- a fragment would stand behind a line break
    intro text texts heq
    have hlength := congrArg String.length heq
    unfold Layout.stack at hlength
    rw [String.intercalate_cons_cons, String.length_append, String.length_append] at hlength
    have hbreak : "\n".length = 1 := by
      decide
    omega

/-- A table with two hats and a plain block. -/
def pierTable : SignatureTable :=
  Dict.ofList [("event_whenflagclicked", ⟨[], .hat⟩), ("event_whenthisspriteclicked", ⟨[], .hat⟩),
    ("looks_say", ⟨["MESSAGE"], .plain⟩)]

/-- A target with a variable, a list, three definitions of two proccodes, two hats, and blocks at
the top level that nothing describes, that are described, and that report an argument. -/
def pier : Target where
  name := "Pier"
  isStage := false
  blocks := Dict.ofList [
    ("flag", ⟨"flag", "event_whenflagclicked", some "call", .empty, .empty, false, true, none⟩),
    ("call", ⟨"call", "procedures_call", none,
      Dict.ofList [("r", .literal ⟨.number, "2", none⟩)], .empty, false, false,
      some ⟨some "moor %s", none, none, false⟩⟩),
    ("moor", ⟨"moor", "procedures_definition", some "rope",
      Dict.ofList [("custom_block", .block "moorType")], .empty, false, true, none⟩),
    ("moorType", ⟨"moorType", "procedures_prototype", none, .empty, .empty, true, false,
      some ⟨some "moor %s", some "[\"r\"]", some "[\"ropes\"]", true⟩⟩),
    ("rope", ⟨"rope", "looks_say", none, Dict.ofList [("MESSAGE", .block "ropes")], .empty, false,
      false, none⟩),
    ("ropes", ⟨"ropes", "argument_reporter_string_number", none, .empty,
      Dict.ofList [("VALUE", ⟨"ropes", none⟩)], false, true, none⟩),
    ("again", ⟨"again", "procedures_definition", none,
      Dict.ofList [("custom_block", .block "moorType")], .empty, false, true, none⟩),
    ("gulls", ⟨"gulls", "birds_cry", none, .empty, .empty, false, true, none⟩),
    ("loose", ⟨"loose", "looks_say", none, .empty, .empty, false, true, none⟩),
    ("leave", ⟨"leave", "procedures_definition", none,
      Dict.ofList [("custom_block", .block "leaveType")], .empty, false, true, none⟩),
    ("leaveType", ⟨"leaveType", "procedures_prototype", none, .empty, .empty, true, false,
      some ⟨some "leave", some "[]", some "[]", false⟩⟩),
    ("clicked", ⟨"clicked", "event_whenthisspriteclicked", none, .empty, .empty, false, true,
      none⟩)]
  vars := Dict.ofList [("v", ⟨"depth", .text "deep"⟩)]
  lists := Dict.ofList [("l", ⟨"crew", []⟩)]
  costumes := []
  sounds := []

def pierScript : Script :=
  ⟨"Pier", false, Layout.stack [header,
    "var depth = \"deep\"", "list crew = \x7b\x7d",
    "warp fn moor(ropes) \x7b", "\tlooks_say(ropes)", "\x7d",
    "fn leave() \x7b", "", "\x7d",
    "event_whenflagclicked() \x7b", "\tmoor(2)", "\x7d",
    "/* undefined definition for birds_cry */",
    "event_whenthisspriteclicked() \x7b", "", "\x7d"],
    [⟨some "again", .repeatedProcedure "moor %s"⟩,
      ⟨some "gulls", .undefinedOpcode "birds_cry"⟩]⟩

/-- The source of the pier has fragments for its variable and its list, then for two of its three
definitions, then for its two hats and the block between them that nothing describes. -/
theorem pier_source_is_its_fragments :
    pier.Keyed ∧ Script.ofTarget pierTable pier .empty = .ok pierScript ∧
    (((definitions pier.blocks).filter fun definition =>
      definition.isFirstIn pier.blocks (definitions pier.blocks)).map Block.id =
        ["moor", "leave"]) ∧
    (((entryBlocks pier.blocks).filter fun block =>
      block.startsScript pierTable || block.isUndescribed pierTable).map Block.id =
        ["flag", "gulls", "clicked"]) ∧
    ∃ fragments : Fragments, pierScript.source = Layout.stack (header :: fragments.all) ∧
      ∃ registered, fragments.Written pierTable pier (emitAt ⟨pierTable, pier.blocks⟩ maxNesting [])
        ⟨startScope false .empty, []⟩ registered := by
  have hkeyed : pier.Keyed := by
    decide
  have hscript : Script.ofTarget pierTable pier .empty = .ok pierScript := by
    decide +kernel
  exact ⟨hkeyed, hscript, by decide +kernel, by decide +kernel,
    source_is_its_fragments hkeyed hscript⟩

end BlockScribe
