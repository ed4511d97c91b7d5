import BlockScribe.Proofs.Emission.Pieces
import BlockScribe.Proofs.Target.Calls
import BlockScribe.Proofs.Target.Scopes

/-! # Text literals in a source

A source in pieces (`Draft.pieces`) shows where the literals of a target stand and how many tabs
the bodies around each of them add. Read at its place, a literal gives its value with these tabs
behind the line breaks of the value. So a value survives in a source if and only if it has no line
break or stands outside of all bodies: a declaration of a variable keeps every text, while the
items of a list and everything in a script keep the texts of one line only.

* `Draft.Quotes`: the values that a target writes as literals.
* `literals_are_shifted`: where they stand, and what reading them there gives.
-/

namespace BlockScribe

open Script Piece

/-! ## Declarations -/

/-- The initial value of a variable. -/
def valuePieces : Json → List Piece
  | .number n => numeralPieces n.text
  | .text s => [.quoted 0 s]
  | .bool b => [.quoted 0 (Json.boolText b)]
  | .null => [.quoted 0 ""]
  | other => [.quoted 0 other.compact]

theorem spells_value (value : Json) : Spells (valuePieces value) (valueText value) := by
  cases value with
  | number n => exact spells_numeral _
  | _ => exact spells_quoted _

/-- An item of a list. -/
def itemPieces : Json → List Piece
  | .number n => ofText n.text
  | .text s => [.quoted 0 s]
  | other => [.quoted 0 other.compact]

theorem spells_item (item : Json) : Spells (itemPieces item) (itemText item) := by
  cases item with
  | number n => exact spells_ofText _
  | _ => exact spells_quoted _

/-- The items of a list between braces. -/
def itemsPieces (items : List Json) : List Piece :=
  if items.isEmpty then ofText "\x7b\x7d"
  else braced (indented 1 true (joined ",\n" (items.map itemPieces)))

theorem spells_items (items : List Json) : Spells (itemsPieces items) (itemsText items) := by
  unfold itemsPieces itemsText
  split
  · exact spells_ofText _
  · refine (Spells.indent (.joined ?_) 1).braced
    rw [List.forall₂_map_left_iff, List.forall₂_map_right_iff]
    exact List.forall₂_same.2 fun item _ => spells_item item

/-- A declaration with a value in pieces. -/
def Declaration.pieces (declaration : Declaration) (value : List Piece) : List Piece :=
  ofText (declaration.word ++ declaration.name ++ " = ") ++ value

/-- Declarations of given values spell their texts. -/
theorem spells_declarations {α : Type} {pieces : α → List Piece} {text : α → String}
    (hspells : ∀ a, Spells (pieces a) (text a)) {entries : List (String × α)}
    {declarations : List Declaration}
    (hvalues : declarations.map Declaration.value = entries.map fun e => text e.2) :
    List.Forall₂ Spells
      (List.zipWith (fun e (d : Declaration) => d.pieces (pieces e.2)) entries declarations)
      (declarations.map Declaration.text) := by
  induction declarations generalizing entries with
  | nil =>
    rw [List.zipWith_nil_right]
    exact .nil
  | cons d rest ih =>
    cases entries with
    | nil => cases hvalues
    | cons e others =>
      rw [List.map_cons, List.map_cons, List.cons.injEq] at hvalues
      refine .cons ?_ (ih hvalues.2)
      -- the value of the declaration is the text that the pieces spell
      have hvalue := hspells e.2
      rw [← hvalues.1] at hvalue
      exact (spells_ofText _).append hvalue

/-! ## Scripts -/

def ProcedureDraft.pieces (draft : ProcedureDraft) : List Piece :=
  ofText (procedureHead draft.procedure ++ " ") ++ braced (scriptPieces 1 draft.body)

def EntryDraft.pieces : EntryDraft → List Piece
  | .hat head body => head.pieces ++ ofText " " ++ braced (scriptPieces 1 body)
  | .placeholder block => ofText (undefinedText block.opcode)

/-- The source of a target, in pieces. -/
def Draft.pieces (target : Target) (draft : Draft) : List Piece :=
  joined "\n" (ofText header ::
    (List.zipWith (fun e (d : Declaration) => d.pieces (valuePieces e.2.value))
        target.vars.entries draft.vars ++
      List.zipWith (fun e (d : Declaration) => d.pieces (itemsPieces e.2.items))
        target.lists.entries draft.lists ++
      draft.procedures.map ProcedureDraft.pieces ++ draft.entries.map EntryDraft.pieces))

section Course

variable {table : SignatureTable} {target : Target}
  {start declared registered finish : Session} {draft : Draft}
  (h : draft.Course table target start declared registered finish)
include h

/-- Put together, the pieces are the source. -/
theorem Draft.Course.spells : Spells (draft.pieces target) draft.source := by
  obtain ⟨hvars, hlists⟩ := h.values
  refine .joined (.cons (spells_ofText _) ?_)
  refine List.rel_append (List.rel_append (List.rel_append ?_ ?_) ?_) ?_
  · exact spells_declarations (fun v : Variable => spells_value v.value) hvars
  · exact spells_declarations (fun list : ItemList => spells_items list.items) hlists
  · rw [List.forall₂_map_left_iff, List.forall₂_map_right_iff]
    refine List.forall₂_same.2 fun procedure _ => ?_
    exact (spells_ofText _).append (spells_script 1 procedure.body).braced
  · rw [List.forall₂_map_left_iff, List.forall₂_map_right_iff]
    refine List.forall₂_same.2 fun e _ => ?_
    cases e with
    | placeholder block => exact spells_ofText _
    | hat head body =>
      exact (head.spells.append (spells_ofText _)).append (spells_script 1 body).braced

end Course

/-! ## Every literal has its place -/

/-- The scripts of an entry, with the head of a hat as a line of its own. -/
def EntryDraft.lines : EntryDraft → List (List Statement)
  | .hat head body => [[head], body]
  | .placeholder _ => []

/-- The values that a target writes as text literals: texts that are initial values of variables or
items of lists, and what the statements in procedures and hats write so. -/
inductive Draft.Quotes (target : Target) (draft : Draft) : String → Prop
  | initial {v : Variable} {value : String} (hmem : v ∈ target.vars.values)
    (hvalue : v.value = .text value) : Quotes target draft value
  | item {list : ItemList} {value : String} (hmem : list ∈ target.lists.values)
    (hitem : .text value ∈ list.items) : Quotes target draft value
  | procedure {procedure : ProcedureDraft} {statement : Statement} {value : String}
    (hmem : procedure ∈ draft.procedures) (hwithin : statement.Within procedure.body)
    (hquotes : statement.Quotes value) : Quotes target draft value
  | entry {e : EntryDraft} {lines : List Statement} {statement : Statement} {value : String}
    (hmem : e ∈ draft.entries) (hlines : lines ∈ e.lines) (hwithin : statement.Within lines)
    (hquotes : statement.Quotes value) : Quotes target draft value

/-- Each of the declared values has its declaration. -/
theorem exists_mem_zipWith {α β γ : Type} {f : α → β → γ} {first : List α} {second : List β}
    (hlength : second.length = first.length) {a : α} (ha : a ∈ first) :
    ∃ b, f a b ∈ List.zipWith f first second := by
  induction first generalizing second with
  | nil => exact absurd ha List.not_mem_nil
  | cons x rest ih =>
    cases second with
    | nil => cases hlength
    | cons b others =>
      rw [List.length_cons, List.length_cons, Nat.succ.injEq] at hlength
      rw [List.zipWith_cons_cons]
      rcases List.mem_cons.1 ha with rfl | hrest
      · exact ⟨b, List.mem_cons_self⟩
      · rcases ih hlength hrest with ⟨found, hfound⟩
        exact ⟨found, List.mem_cons_of_mem _ hfound⟩

theorem mem_declaration_pieces {declaration : Declaration} {value : List Piece} {piece : Piece}
    (h : piece ∈ value) : piece ∈ declaration.pieces value :=
  List.mem_append_right _ h

theorem mem_pieces_of_mem_line {head : Statement} {piece : Piece}
    (h : piece ∈ joined "\n" (linePieces [head])) : piece ∈ head.pieces := by
  unfold linePieces linePieces at h
  split at h
  · exact absurd h List.not_mem_nil
  · simpa [joined] using h

/-- What lasts of a script lasts where the script is the body of a procedure or a hat. -/
theorem exists_mem_braced {kind : Piece → Prop} (hkind : Lasting kind) {lines : List Statement}
    (h : ∃ piece ∈ joined "\n" (linePieces lines), kind piece) :
    ∃ piece ∈ braced (scriptPieces 1 lines), kind piece := by
  obtain ⟨piece, hpiece, hlast⟩ := hkind.exists_mem_indented h 1 true
  exact ⟨piece, List.mem_append_left _ (List.mem_append_right _ hpiece), hlast⟩

theorem Draft.mem_pieces_of_procedure {target : Target} {draft : Draft}
    {procedure : ProcedureDraft} (hmem : procedure ∈ draft.procedures) {piece : Piece}
    (hpiece : piece ∈ procedure.pieces) : piece ∈ draft.pieces target := by
  refine mem_joined (List.mem_cons_of_mem _ (List.mem_append_left _ ?_)) hpiece
  exact List.mem_append_right _ (List.mem_map_of_mem hmem)

theorem Draft.mem_pieces_of_entry {target : Target} {draft : Draft} {e : EntryDraft}
    (hmem : e ∈ draft.entries) {piece : Piece} (hpiece : piece ∈ e.pieces) :
    piece ∈ draft.pieces target := by
  refine mem_joined (List.mem_cons_of_mem _ (List.mem_append_right _ ?_)) hpiece
  exact List.mem_map_of_mem hmem

section Course

variable {table : SignatureTable} {target : Target}
  {start declared registered finish : Session} {draft : Draft}
  (h : draft.Course table target start declared registered finish)
include h

section Lasting

variable {kind : Piece → Prop} (hkind : Lasting kind) {statement : Statement}
  (hown : statement.Shaped → ∃ piece ∈ statement.pieces, kind piece)
include hkind hown

/-- What a statement in the body of a procedure leaves for good has a piece in the source. -/
theorem Draft.Course.exists_piece_of_procedure {procedure : ProcedureDraft}
    (hmem : procedure ∈ draft.procedures) (hwithin : statement.Within procedure.body) :
    ∃ piece ∈ draft.pieces target, kind piece := by
  have hshaped : AllWithin Statement.Shaped procedure.body :=
    h.allWithin_body (p := fun _ => True) (fun _ _ => trivial) (draftsAs_shaped target.blocks)
      hmem trivial
  have hscript := exists_piece_of_within hkind hshaped hwithin (hown (hshaped statement hwithin))
  obtain ⟨piece, hpiece, hlast⟩ := exists_mem_braced hkind hscript
  exact ⟨piece, draft.mem_pieces_of_procedure hmem (List.mem_append_right _ hpiece), hlast⟩

/-- What a statement in the head of a hat or behind it leaves for good has a piece in the
source. -/
theorem Draft.Course.exists_piece_of_entry {e : EntryDraft} (hmem : e ∈ draft.entries)
    {lines : List Statement} (hlines : lines ∈ e.lines) (hwithin : statement.Within lines) :
    ∃ piece ∈ draft.pieces target, kind piece := by
  have hshaped : e.AllWithin Statement.Shaped :=
    h.allWithin_entries (p := fun _ => True) (fun _ _ => trivial) (draftsAs_shaped target.blocks)
      trivial e hmem
  cases e with
  | placeholder block => exact absurd hlines List.not_mem_nil
  | hat head body =>
    obtain ⟨hheadshape, hbodyshape⟩ := hshaped
    -- in the head the piece stands at the margin, in the body between the braces
    rcases List.mem_cons.1 hlines with rfl | hbody
    · obtain ⟨piece, hpiece, hlast⟩ := exists_piece_of_within hkind hheadshape hwithin
        (hown (hheadshape statement hwithin))
      refine ⟨piece, draft.mem_pieces_of_entry hmem ?_, hlast⟩
      exact List.mem_append_left _ (List.mem_append_left _ (mem_pieces_of_mem_line hpiece))
    · rw [List.mem_singleton.1 hbody] at hwithin
      have hscript := exists_piece_of_within hkind hbodyshape hwithin
        (hown (hbodyshape statement hwithin))
      obtain ⟨piece, hpiece, hlast⟩ := exists_mem_braced hkind hscript
      exact ⟨piece, draft.mem_pieces_of_entry hmem (List.mem_append_right _ hpiece), hlast⟩

end Lasting

/-- Every value that is written as a literal has a piece in the source. -/
theorem Draft.Course.exists_quoted {value : String} (hquotes : draft.Quotes target value) :
    ∃ depth, .quoted depth value ∈ draft.pieces target := by
  obtain ⟨hvars, hlists⟩ := h.values
  have hlasting := lasting_quoted value
  -- indenting may change the depth, so it is left open where the piece is found
  suffices hsome : ∃ piece ∈ draft.pieces target, ∃ depth, piece = .quoted depth value by
    obtain ⟨_, hmem, depth, rfl⟩ := hsome
    exact ⟨depth, hmem⟩
  -- a quoted value is an initial one, an item, or in a statement of a procedure or of an entry
  cases hquotes with
  | @initial v _ hmem hvalue =>
    have hlength := congrArg List.length hvars
    rw [List.length_map, List.length_map] at hlength
    rcases List.mem_map.1 hmem with ⟨e, he, rfl⟩
    rcases exists_mem_zipWith hlength he with ⟨d, hd⟩
    have hdeclared : .quoted 0 value ∈ d.pieces (valuePieces e.2.value) := by
      refine mem_declaration_pieces ?_
      rw [hvalue]
      exact List.mem_cons_self
    refine ⟨_, mem_joined (List.mem_cons_of_mem _ ?_) hdeclared, 0, rfl⟩
    exact List.mem_append_left _ (List.mem_append_left _ (List.mem_append_left _ hd))
  | @item list _ hmem hitem =>
    have hlength := congrArg List.length hlists
    rw [List.length_map, List.length_map] at hlength
    rcases List.mem_map.1 hmem with ⟨e, he, rfl⟩
    rcases exists_mem_zipWith hlength he with ⟨d, hd⟩
    have hsome : e.2.items.isEmpty = false := by
      rw [List.isEmpty_eq_false_iff]
      exact List.ne_nil_of_mem hitem
    -- items are indented between their braces, and a quoted piece outlasts that
    have hinner : .quoted 0 value ∈ joined ",\n" (e.2.items.map itemPieces) :=
      mem_joined (List.mem_map_of_mem hitem) List.mem_cons_self
    obtain ⟨piece, hpiece, hlast⟩ :=
      hlasting.exists_mem_indented ⟨_, hinner, 0, rfl⟩ 1 true
    have hdeclared : piece ∈ d.pieces (itemsPieces e.2.items) := by
      refine mem_declaration_pieces ?_
      unfold itemsPieces
      rw [hsome]
      exact List.mem_append_left _ (List.mem_append_right _ hpiece)
    refine ⟨piece, mem_joined (List.mem_cons_of_mem _ ?_) hdeclared, hlast⟩
    exact List.mem_append_left _ (List.mem_append_left _ (List.mem_append_right _ hd))
  | @procedure procedure statement _ hmem hwithin hquotes =>
    refine h.exists_piece_of_procedure hlasting (fun hshaped => ?_) hmem hwithin
    exact ⟨_, Statement.quoted_mem_pieces hshaped hquotes, 0, rfl⟩
  | @entry e lines statement _ hmem hlines hwithin hquotes =>
    refine h.exists_piece_of_entry hlasting (fun hshaped => ?_) hmem hlines hwithin
    exact ⟨_, Statement.quoted_mem_pieces hshaped hquotes, 0, rfl⟩

end Course

/-- Every value that a target writes as a text literal has its place in the source, and the literal
at any such place reads as the value with the tabs of the bodies around it behind its line breaks.
That is the value itself if and only if the place is in no body or the value has one line. -/
theorem literals_are_shifted {table : SignatureTable} {target : Target}
    {globals : Dict String String} {script : Script}
    (h : Script.ofTarget table target globals = .ok script) :
    ∃ draft finish,
      draftTarget table target ⟨startScope target.isStage globals, []⟩ = .ok draft finish ∧
      script.source = draft.source ∧
      (∀ value, draft.Quotes target value →
        ∃ before depth after, draft.pieces target = before ++ .quoted depth value :: after) ∧
      ∀ before depth value after, draft.pieces target = before ++ .quoted depth value :: after →
        Quoted.decode (script.source.toList.drop (spelling before).length) =
          some (Layout.shifted depth value.toList, spelling after) ∧
        (Layout.shifted depth value.toList = value.toList ↔
          depth = 0 ∨ '\n' ∉ value.toList) := by
  rcases ofTarget_eq_ok h with ⟨draft, finish, hdraft, hsource⟩
  rcases course_of_draftTarget hdraft with ⟨declared, registered, hcourse⟩
  refine ⟨draft, finish, hdraft, hsource, ?_, ?_⟩
  · intro value hquotes
    rcases hcourse.exists_quoted hquotes with ⟨depth, hmem⟩
    rcases List.append_of_mem hmem with ⟨before, after, hpieces⟩
    exact ⟨before, depth, after, hpieces⟩
  · intro before depth value after hpieces
    -- the pieces spell the source, so what follows the front is the piece itself
    have hspells : spelling (draft.pieces target) = draft.source.toList := hcourse.spells
    rw [hsource, ← hspells, hpieces]
    exact ⟨decode_quoted before depth value after, Layout.shifted_eq_self_iff _ _⟩

/-- A table with a hat and a block that says a text. -/
def sayTable : SignatureTable :=
  Dict.ofList [("event_whenflagclicked", ⟨[], .hat⟩), ("looks_say", ⟨["MESSAGE"], .plain⟩)]

/-- A target that says a text of two lines. -/
def parrot : Target where
  name := "Parrot"
  isStage := false
  blocks := Dict.ofList [
    ("flag", ⟨"flag", "event_whenflagclicked", some "say", .empty, .empty, false, true, none⟩),
    ("say", ⟨"say", "looks_say", none,
      Dict.ofList [("MESSAGE", .literal ⟨.text, "a\nb", none⟩)], .empty, false, false, none⟩)]
  vars := .empty
  lists := .empty
  costumes := []
  sounds := []

/-- What stands in front of the text. -/
def parrotFront : String := header ++ "\nevent_whenflagclicked() \x7b\n\tlooks_say("

def parrotScript : Script :=
  ⟨"Parrot", false, parrotFront ++ "\"a\n\tb\"" ++ ")\n\x7d", []⟩

/-- The literal of the text stands in the body of a hat, and the tab of the body is read as a part
of the text. -/
theorem parrot_text_gains_a_tab :
    Script.ofTarget sayTable parrot .empty = .ok parrotScript ∧
    Quoted.decode (parrotScript.source.toList.drop parrotFront.length) =
      some ("a\n\tb".toList, ")\n\x7d".toList) ∧
    "a\n\tb" ≠ "a\nb" := by
  refine ⟨?_, ?_, ?_⟩
  · decide +kernel
  · decide +kernel
  · decide

/-- The place of the text in the source, one body deep. -/
theorem parrot_text_is_shifted :
    Script.ofTarget sayTable parrot .empty = .ok parrotScript ∧
    ∃ before after, spelling before = parrotFront.toList ∧
      Quoted.decode (parrotScript.source.toList.drop (spelling before).length) =
        some (Layout.shifted 1 "a\nb".toList, spelling after) := by
  have hscript : Script.ofTarget sayTable parrot .empty = .ok parrotScript := by
    decide +kernel
  -- the pieces of the draft, with the literal at depth one
  have hpieces : (match draftTarget sayTable parrot ⟨startScope parrot.isStage .empty, []⟩ with
      | .ok draft _ => draft.pieces parrot
      | .error _ _ => []) =
      [.plain header.toList, .plain ['\n'], .plain "event_whenflagclicked(".toList, .plain [')'],
        .plain [' '], .plain ['\x7b', '\n'], .plain "\tlooks_say(".toList, .plain []] ++
      .quoted 1 "a\nb" :: [.plain [')'], .plain ['\n', '\x7d']] := by
    decide +kernel
  rcases literals_are_shifted hscript with ⟨draft, finish, hdraft, -, -, hplaces⟩
  rw [hdraft] at hpieces
  refine ⟨hscript, _, _, ?_, (hplaces _ _ _ _ hpieces).1⟩
  decide +kernel

end BlockScribe
