import BlockScribe.Proofs.Emission.Bindings
import BlockScribe.Proofs.Emission.OneLine
import BlockScribe.Proofs.Emission.Pieces

/-! # Scripts by depth

A body is written, indented by one tab, and put into a text that is indented again with everything
in it, as often as there are bodies around it. The same text comes from a printer that goes through
the draft from the outside to the inside and knows at every statement how many bodies are around it,
as long as the texts and names that a script shows have one line each.

* `Statement.printed`: the printer.
* `Statement.Built`: which blocks are constructs is said by their signatures and by how they are to
  be written, and a construct has one body for each socket that its signature declares.
* `Statement.indent_text`: the printer writes what indentation makes of the text of a statement.
* `emit_prints_by_depth`: so it does for every script that is written.
-/

namespace BlockScribe

/-! ## The printer -/

mutual

/-- A statement at a depth. It starts with as many tabs; a construct has its bodies behind its
head, with their statements one level deeper, and their closing braces at its own depth. -/
def Statement.printed (depth : Nat) : Statement → String
  | .mk block form before arguments after bodies =>
    match form with
    | .branch _ _ =>
      Layout.tabs depth ++ callText block.opcode (textsOf arguments) ++ " " ++
        " ".intercalate (printedBodies depth bodies)
    | _ => Layout.tabs depth ++ (Statement.mk block form before arguments after bodies).text

/-- The statements of a script at a depth; a call of the logging helper is not one of them. -/
def printedLines (depth : Nat) : List Statement → List String
  | [] => []
  | statement :: rest =>
    if statement.form = .logging then printedLines depth rest
    else statement.printed depth :: printedLines depth rest

def printedBodies (depth : Nat) : List (List Statement) → List String
  | [] => []
  | lines :: rest =>
    Layout.bracedAt depth (Layout.stack (printedLines (depth + 1) lines)) ::
      printedBodies depth rest

end

theorem printedBodies_eq_map (depth : Nat) (bodies : List (List Statement)) :
    printedBodies depth bodies =
      bodies.map fun lines =>
        Layout.bracedAt depth (Layout.stack (printedLines (depth + 1) lines)) := by
  induction bodies with
  | nil => rfl
  | cons lines rest ih => rw [printedBodies, ih, List.map_cons]

/-! ## Statements without text -/

theorem append_ne_empty {first second : String} (h : first ≠ "" ∨ second ≠ "") :
    first ++ second ≠ "" := by
  intro hempty
  obtain ⟨hfirst, hsecond⟩ := String.append_eq_empty_iff.1 hempty
  rcases h with hne | hne
  · exact hne hfirst
  · exact hne hsecond

theorem callText_ne_empty (name : String) (arguments : List (Option String)) :
    callText name arguments ≠ "" :=
  append_ne_empty (.inr (by decide))

/-- A call of the logging helper leaves no text, and nothing else does. -/
theorem Statement.text_eq_empty_iff {statement : Statement} (hshaped : statement.Shaped) :
    statement.text = "" ↔ statement.form = .logging := by
  obtain ⟨block, form, before, arguments, after, bodies⟩ := statement
  have hlength : arguments.length = form.slots.length := hshaped.arguments_length
  constructor
  · intro hempty
    by_contra hform
    refine absurd hempty ?_
    -- every other form has a sign or a word of its own
    cases form with
    | logging => exact absurd rfl hform
    | comparison =>
      obtain ⟨first, second, rfl⟩ := List.length_eq_two.1 hlength
      rw [Statement.text, textsOf, textsOf, textsOf, List.map_cons, List.map_singleton,
        String.intercalate_cons_cons]
      exact append_ne_empty (.inl (append_ne_empty (.inr (by decide))))
    | answer slot =>
      rw [Statement.text]
      exact append_ne_empty (.inl (by decide))
    | unknownCall proccode => exact append_ne_empty (.inr (by decide))
    | assignment field =>
      rw [Statement.text]
      exact append_ne_empty (.inl (append_ne_empty (.inr (by decide))))
    | namelessAssignment =>
      rw [Statement.text]
      decide
    | parameter raw => exact (Identifier.isProper_parameter raw).ne_empty
    | choice value =>
      rw [Statement.text, Quoted.quote]
      exact fun hquote => List.cons_ne_nil _ _ (String.ofList_eq_empty_iff.1 hquote)
    | call name slots => exact callText_ne_empty _ _
    | branch slots sockets =>
      rw [Statement.text]
      exact append_ne_empty (.inl (append_ne_empty (.inr (by decide))))
    | unknown => exact append_ne_empty (.inr (by decide))
  · intro hform
    cases hform
    rfl

/-! ## Indentation by depth -/

/-- The printer leaves out the statements that leave no line. -/
theorem map_indent_linesOf (depth : Nat) {lines : List Statement}
    (hshaped : ∀ s ∈ lines, s.Shaped)
    (h : ∀ s ∈ lines, s.form ≠ .logging → Layout.indent depth s.text = s.printed depth) :
    (linesOf lines).map (Layout.indent depth) = printedLines depth lines := by
  induction lines with
  | nil => rfl
  | cons first rest ih =>
    rw [List.forall_mem_cons] at hshaped h
    have hempty := Statement.text_eq_empty_iff hshaped.1
    unfold linesOf printedLines
    -- logging leaves an empty text, which is no line on either side
    by_cases hlogging : first.form = .logging
    · rw [if_pos hlogging, if_pos (String.isEmpty_iff.2 (hempty.2 hlogging))]
      exact ih hshaped.2 h.2
    · rw [if_neg hlogging, if_neg fun hnone => hlogging (hempty.1 (String.isEmpty_iff.1 hnone)),
        List.map_cons, h.1 hlogging, ih hshaped.2 h.2]

/-- The tab of a body and the tabs around the construct are the tabs of the body's statements. -/
theorem map_bracedAt_scriptText (depth : Nat) {bodies : List (List Statement)}
    (hshaped : ∀ body ∈ bodies, ∀ s ∈ body, s.Shaped)
    (h : ∀ body ∈ bodies, ∀ s ∈ body, s.form ≠ .logging →
      Layout.indent (depth + 1) s.text = s.printed (depth + 1)) :
    bodies.map (fun lines => Layout.bracedAt depth (Layout.indent depth (scriptText 1 lines))) =
      printedBodies depth bodies := by
  rw [printedBodies_eq_map]
  refine List.map_congr_left fun body hbody => ?_
  unfold scriptText
  rw [Layout.indent_indent, Layout.indent_stack,
    map_indent_linesOf (depth + 1) (hshaped body hbody) (h body hbody)]

/-- Indented, the text of a statement is what the printer writes, if the heads of the statements in
it have one line. -/
theorem Statement.indent_text (statement : Statement)
    (hshaped : AllWithin Statement.Shaped [statement])
    (hhead : AllWithin (fun s => OneLine s.head) [statement]) (hform : statement.form ≠ .logging)
    (depth : Nat) : Layout.indent depth statement.text = statement.printed depth := by
  revert hshaped hhead hform depth
  refine Statement.induction (p := fun _ => True)
    (q := fun s => AllWithin Statement.Shaped [s] → AllWithin (fun s => OneLine s.head) [s] →
      s.form ≠ .logging → ∀ depth, Layout.indent depth s.text = s.printed depth)
    (fun _ _ => trivial) (fun _ _ => trivial) (fun _ _ _ => trivial) trivial ?_ statement
  intro block form before arguments after bodies _ hbodies hshaped hhead hform depth
  -- the head is one line, so indenting it puts the tabs in front
  have hown : OneLine (Statement.mk block form before arguments after bodies).head :=
    hhead _ (.line List.mem_cons_self)
  have hnonempty : (Statement.mk block form before arguments after bodies).text ≠ "" := fun hnone =>
    hform ((Statement.text_eq_empty_iff (hshaped _ (.line List.mem_cons_self))).1 hnone)
  by_cases hbranch : ∃ slots sockets, form = .branch slots sockets
  · obtain ⟨slots, sockets, rfl⟩ := hbranch
    have hwithin : ∀ body ∈ bodies, ∀ s ∈ body,
        s.Within [.mk block (.branch slots sockets) before arguments after bodies] :=
      fun body hbody s hs => .body List.mem_cons_self hbody (.line hs)
    -- each body is indented once more inside its braces
    have hscripts := map_bracedAt_scriptText depth
      (fun body hbody s hs => hshaped s (hwithin body hbody s hs))
      (fun body hbody s hs hnot => hbodies body hbody s hs
        (hshaped.of_within (hwithin body hbody s hs))
        (hhead.of_within (hwithin body hbody s hs)) hnot (depth + 1))
    rw [Statement.text, Statement.printed, bodiesOf_eq_map, ← hscripts]
    have hconstruct := Layout.indent_construct hown (callText_ne_empty _ _) depth
      (bodies.map (scriptText 1))
    rw [List.map_map, List.map_map] at hconstruct
    exact hconstruct
  · -- a statement without bodies is its head
    have hnot : ∀ slots sockets,
        (Statement.mk block form before arguments after bodies).form ≠ .branch slots sockets :=
      fun slots sockets heq => hbranch ⟨slots, sockets, heq⟩
    rw [Statement.head_of_not_branch hnot] at hown
    rw [Layout.indent_of_oneLine hown hnonempty depth]
    unfold Statement.printed
    split
    · exact absurd rfl (hnot _ _)
    · rfl

/-! ## Constructs as they are declared -/

/-- The body in a socket of a block: without lines where the socket has no block, and else the
script that the socket links to. -/
inductive SocketBody (sources : Sources) (block : Block) (socket : String) :
    List Statement → Prop
  | unset (hinput : block.inputBlock? socket = none) : SocketBody sources block socket []
  | linked {id : String} {room : Nat} {entered : List String} {session after : Session}
    {body : List Statement} (hinput : block.inputBlock? socket = some id)
    (hrun : draftAt sources room entered id .chain session = .ok body after) :
    SocketBody sources block socket body

/-- What a statement is built from, where its head alone or all of it is written: a block of the
target, in the form that the block has there. It is a construct if and only if all of it is written
and its signature, which no rule of its own and no menu comes before, declares sockets; then it has
a body for each of these, in that order. Its head alone is a call with the slots of the
signature. -/
structure Statement.Built (sources : Sources) (headOnly : Bool) (statement : Statement) :
    Prop where
  known : ∃ key, sources.blocks.get? key = some statement.block
  formed : statement.IsFormed sources.table headOnly
  construct_iff : ∀ {slots sockets}, statement.form = .branch slots sockets ↔
    headOnly = false ∧ statement.block.hasOwnRule = false ∧
      isMenu statement.block.opcode statement.block.shadow = false ∧
      sources.table.get? statement.block.opcode = some ⟨slots, .branch sockets⟩
  head_alone : ∀ {signature}, headOnly = true → statement.block.hasOwnRule = false →
    isMenu statement.block.opcode statement.block.shadow = false →
    sources.table.get? statement.block.opcode = some signature →
    statement.form = .call statement.block.opcode signature.slots
  bodies : List.Forall₂ (SocketBody sources statement.block) statement.form.sockets
    statement.bodies

theorem forall₂_draftBodies {drafting : Drafting} {block : Block} {sockets : List String}
    {session after : Session} {bodies : List (List Statement)}
    (h : draftBodies drafting block sockets session = .ok bodies after) :
    List.Forall₂ (fun socket body => ∃ start finish,
      draftLink drafting (block.inputBlock? socket) start = .ok body finish) sockets bodies := by
  induction sockets generalizing session bodies with
  | nil =>
    cases h
    exact .nil
  | cons socket rest ih =>
    unfold draftBodies at h
    obtain ⟨first, between, hfirst, h⟩ := exists_of_bind_eq_ok h
    obtain ⟨others, finish, hrest, h⟩ := exists_of_bind_eq_ok h
    cases h
    exact .cons ⟨session, between, hfirst⟩ (ih hrest)

/-- A statement was drafted at some level. -/
def Statement.Drafted (sources : Sources) (statement : Statement) : Prop :=
  ∃ room entered headOnly block, ∃ session after : Session,
    draftBlock sources.table (draftAt sources room entered) headOnly block session =
      .ok statement after

/-- All statements within a drafted script were drafted at some level. -/
theorem allWithin_drafted {sources : Sources} {room : Nat} {entered : List String} {id : String}
    {mode : Mode} {session after : Session} {lines : List Statement}
    (h : draftAt sources room entered id mode session = .ok lines after) :
    AllWithin (Statement.Drafted sources) lines := by
  induction room generalizing entered id mode session lines after with
  | zero => cases h
  | succ room ih =>
    refine allWithin_draftChain (p := fun _ => True) (fun _ _ => trivial)
      (fun inner _ _ hget => ?_) (fun hblock _ => ?_) h trivial
    · exact stepsBy_draftBlock (stepsBy_draftAt sources room inner) sources.table mode.headOnly hget
    · exact allWithin_draftForm (p := fun _ => True) (fun _ _ => trivial)
        (stepsBy_draftAt sources room _) (fun hnested _ => ih hnested) hblock trivial
        ⟨room, _, mode.headOnly, _, _, _, hblock⟩

theorem Statement.Drafted.socketBodies {sources : Sources} {statement : Statement}
    (h : statement.Drafted sources) :
    List.Forall₂ (SocketBody sources statement.block) statement.form.sockets
      statement.bodies := by
  obtain ⟨room, entered, headOnly, block, session, after, hblock⟩ := h
  have hform : draftForm (draftAt sources room entered) block
      (block.form sources.table session.scope headOnly) session = .ok statement after := hblock
  obtain ⟨arguments, between, bodies, last, -, hbodies, -, rfl⟩ := draftForm_eq_ok hform
  refine (forall₂_draftBodies hbodies).imp fun socket body hlink => ?_
  obtain ⟨start, finish, hlink⟩ := hlink
  -- a socket without a block has an empty body
  cases hinput : block.inputBlock? socket with
  | none =>
    rw [hinput] at hlink
    cases hlink
    exact .unset hinput
  | some id =>
    rw [hinput] at hlink
    exact .linked hinput hlink

/-- Statements within a drafted script are built from the blocks of the target, as they are written
where they stand. -/
theorem built_of_standsIn {sources : Sources} {room : Nat} {entered : List String} {id : String}
    {mode : Mode} {session after : Session} {lines : List Statement}
    (h : draftAt sources room entered id mode session = .ok lines after) {statement : Statement}
    {headOnly : Bool} (hstands : statement.StandsIn headOnly mode.headOnly lines) :
    statement.Built sources headOnly := by
  obtain ⟨⟨_, _, hdrafted⟩, hformed⟩ := placed_of_standsIn h hstands
  have hform : statement.form =
      statement.block.form sources.table statement.before headOnly := hformed
  refine ⟨hdrafted.known, hformed, ?_, ?_, ?_⟩
  · intro slots sockets
    rw [hform]
    exact Block.form_eq_branch_iff
  · -- a line of its own in value mode: the head alone is written
    rintro signature rfl hrule hmenu hsignature
    rw [hform, Block.form_of_not_hasOwnRule hrule, hmenu, if_neg Bool.false_ne_true,
      Block.signatureForm_of_value hsignature]
  · exact (allWithin_drafted h statement hstands.within).socketBodies

/-- Where opcodes, proccodes, literals, fields and names have one line each, everything that is
written is what the printer writes: it starts with the statements of the script at the given level,
and gives each statement as many tabs as there are bodies around it in addition. The lines of the
script are written as the mode says, bodies in full, and values as their heads alone. -/
theorem emit_prints_by_depth {emitter : Emitter} {scope : Scope}
    (hblocks : ∀ block ∈ emitter.sources.blocks.values, block.IsOneLine)
    (hscope : scope.IsOneLine) {id : String} {level : Nat} {mode : Mode} {text : String}
    (h : (emitter.emit scope id level mode).result = .ok text) :
    ∃ lines after,
      draftAt emitter.sources (maxNesting - emitter.depth) emitter.entered id mode
        ⟨scope, emitter.diagnostics⟩ = .ok lines after ∧
      (∀ (statement : Statement) (headOnly : Bool),
        statement.StandsIn headOnly mode.headOnly lines →
          statement.Built emitter.sources headOnly) ∧
      text = Layout.stack (printedLines level lines) := by
  obtain ⟨after, hrun, -⟩ := Emitter.run_eq_ok h
  unfold Emitter.nested at hrun
  rw [emitAt_eq_draftAt] at hrun
  obtain ⟨lines, hlines, rfl⟩ := exists_of_map_eq_ok hrun
  refine ⟨lines, after, hlines, fun _ _ hstands => built_of_standsIn hlines hstands, ?_⟩
  -- heads on one line and bodies that match their sockets are what the printer needs
  have hheads := allWithin_oneLine_head hblocks hscope hlines
  have hshaped := allWithin_draftAt (p := fun _ => True) (fun _ _ => trivial)
    (draftsAs_shaped emitter.sources.blocks) hlines trivial
  unfold scriptText
  rw [Layout.indent_stack, map_indent_linesOf level fun s hs => hshaped s (.line hs)]
  intro s hs hform
  have hinside : s.Within lines := .line hs
  exact s.indent_text (hshaped.of_within hinside) (hheads.of_within hinside) hform level

/-- A construct in a construct. The inner one has a call of the logging helper and a construct with
a single body in its first body and a literal in place of the second; the outer one has no second
body. The construct in the innermost body stands there as a value, so it has no body of its own. -/
def choices : Emitter :=
  .new (Dict.ofList
      [("choose", ⟨["CASE"], .branch ["FIRST", "SECOND"]⟩), ("repeat", ⟨["TIMES"], .branch ["DO"]⟩),
        ("show", ⟨["WHAT"], .plain⟩)])
    (Dict.ofList
      [("outer", ⟨"outer", "choose", none, Dict.ofList [("FIRST", .block "inner"),
          ("CASE", .literal ⟨.text, "on", none⟩)], Dict.ofList [], false, false, none⟩),
        ("inner", ⟨"inner", "choose", none, Dict.ofList [("FIRST", .block "log"),
          ("SECOND", .literal ⟨.text, "off", none⟩)], Dict.ofList [("CASE", ⟨"up", none⟩)], false,
          false, none⟩),
        ("log", ⟨"log", "procedures_call", some "again", Dict.ofList [], Dict.ofList [], false,
          false, some ⟨some loggingProccode, none, none, false⟩⟩),
        ("again", ⟨"again", "repeat", none, Dict.ofList [("TIMES", .literal ⟨.number, "2", none⟩),
          ("DO", .block "show")], Dict.ofList [], false, false, none⟩),
        ("show", ⟨"show", "show", none, Dict.ofList [("WHAT", .block "value")], Dict.ofList [],
          false, false, none⟩),
        ("value", ⟨"value", "repeat", none, Dict.ofList [("TIMES", .literal ⟨.number, "3", none⟩),
          ("DO", .block "missing")], Dict.ofList [], false, false, none⟩)])

/-- The constructs have the bodies that their signatures declare, and each stands at its depth. -/
theorem choices_print_by_depth :
    ∃ lines after,
      draftAt choices.sources maxNesting [] "outer" .chain ⟨.new false, []⟩ = .ok lines after ∧
      (∀ (statement : Statement) (headOnly : Bool), statement.StandsIn headOnly false lines →
        statement.Built choices.sources headOnly) ∧
      "\tchoose(\"on\") \x7b\n" ++
        "\t\tchoose(\"up\") \x7b\n" ++
          "\t\t\trepeat(2) \x7b\n" ++
            "\t\t\t\tshow(repeat(3))\n" ++
          "\t\t\t\x7d\n" ++
        "\t\t\x7d \x7b\n\n\t\t\x7d\n" ++
      "\t\x7d \x7b\n\n\t\x7d" = Layout.stack (printedLines 1 lines) := by
  have hblocks : ∀ block ∈ choices.sources.blocks.values, block.IsOneLine := by
    decide +kernel
  have hscope : (Scope.new false).IsOneLine := by
    decide
  refine emit_prints_by_depth hblocks hscope ?_
  decide +kernel

end BlockScribe
