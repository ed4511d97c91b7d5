import BlockScribe.Proofs.Target.Literals
import BlockScribe.Proofs.Text.Comments

/-! # Placeholders in a source

What cannot be written leaves a comment that shows its name: the opcode of a block that the table
does not know, in a script or at the top level, or the proccode of a call without a definition. The
name stands in the comment as it is. A name with `*/` in it ends the comment early, and what follows
in the name is read as code.

* `Placeholder`: the comments, with what they show.
* `Draft.Holds`: the placeholders of a target.
* `placeholder_is_one_comment_iff`: where they stand, and what reading them there gives.
-/

namespace BlockScribe

open Script Piece Lexical

/-- What a comment stands for. -/
inductive Placeholder where
  | undefined (opcode : String)
  | unknownCall (proccode : String)
deriving DecidableEq, Repr

namespace Placeholder

/-- The name in the comment. -/
def shown : Placeholder → String
  | undefined opcode => opcode
  | unknownCall proccode => proccode

/-- What stands between the opening of the comment and the name. -/
def label : Placeholder → String
  | undefined _ => " undefined definition for "
  | unknownCall _ => " unknown custom block "

/-- What is written. -/
def text : Placeholder → String
  | undefined opcode => undefinedText opcode
  | unknownCall proccode => unknownCallText proccode

/-- What is meant to stand in the comment. -/
def content (placeholder : Placeholder) : List Char :=
  placeholder.label.toList ++ (placeholder.shown.toList ++ [' '])

theorem toList_text (placeholder : Placeholder) :
    placeholder.text.toList = Comment.encode placeholder.content := by
  have hclosing : " */".toList = [' '] ++ ['*', '/'] := by
    decide
  -- the opening and the label are written as one
  obtain ⟨opening, htext, hopening⟩ : ∃ opening : String,
      placeholder.text = opening ++ placeholder.shown ++ " */" ∧
        opening.toList = '/' :: '*' :: placeholder.label.toList := by
    cases placeholder with
    | undefined opcode =>
      refine ⟨_, rfl, ?_⟩
      show "/* undefined definition for ".toList = '/' :: '*' :: " undefined definition for ".toList
      decide
    | unknownCall proccode =>
      refine ⟨_, rfl, ?_⟩
      show "/* unknown custom block ".toList = '/' :: '*' :: " unknown custom block ".toList
      decide
  rw [htext, String.toList_append, String.toList_append, hopening, hclosing]
  simp only [content, Comment.encode, List.cons_append, List.append_assoc]

/-- The words around the name do not end the comment. -/
theorem endsComment_content (placeholder : Placeholder) :
    endsComment placeholder.content = endsComment placeholder.shown.toList := by
  have hlabel : '*' ∉ placeholder.label.toList := by
    cases placeholder with
    | undefined opcode =>
      show '*' ∉ " undefined definition for ".toList
      decide
    | unknownCall proccode =>
      show '*' ∉ " unknown custom block ".toList
      decide
  unfold content
  rw [endsComment_append_of_not_mem hlabel, endsComment_concat (by decide)]

/-- A placeholder as a piece of a text: behind `lead` tabs, in bodies that put `depth` tabs behind
the line breaks of its content. -/
def piece (placeholder : Placeholder) (lead depth : Nat) : Piece :=
  .plain (List.replicate lead '\t' ++ Comment.encode (Layout.shifted depth placeholder.content))

theorem ofText_text (placeholder : Placeholder) :
    ofText placeholder.text = [placeholder.piece 0 0] := by
  unfold ofText piece
  rw [toList_text, Layout.shifted_zero]
  rfl

/-- A placeholder stays one in all bodies; only the tabs grow. -/
theorem lasting_piece (placeholder : Placeholder) :
    Lasting fun piece => ∃ lead depth, piece = placeholder.piece lead depth where
  chars_ne_nil := by
    rintro _ ⟨lead, depth, rfl⟩
    exact List.append_ne_nil_of_right_ne_nil _ (List.cons_ne_nil _ _)
  exists_indented := by
    rintro _ level fresh ⟨lead, depth, rfl⟩
    refine ⟨_, List.mem_cons_self, (if fresh then level else 0) + lead, level + depth, ?_⟩
    rw [Comment.indentFrom_encode, Layout.shifted_shifted]
    rfl

/-- Read at its place, behind the tabs of its line, a placeholder is one comment if and only if its
name does not end the comment. -/
theorem read_piece_iff (before : List Piece) (placeholder : Placeholder) (lead depth : Nat)
    (after : List Piece) :
    Comment.read ((spelling (before ++ placeholder.piece lead depth :: after)).drop
        ((spelling before).length + lead)) =
        some (Layout.shifted depth placeholder.content, spelling after) ↔
      endsComment placeholder.shown.toList = false := by
  have hdrop : (spelling (before ++ placeholder.piece lead depth :: after)).drop
      ((spelling before).length + lead) =
      Comment.encode (Layout.shifted depth placeholder.content) ++ spelling after := by
    have hchars : (placeholder.piece lead depth).chars =
        List.replicate lead '\t' ++
          Comment.encode (Layout.shifted depth placeholder.content) := rfl
    rw [spelling_append, spelling_cons, hchars, ← List.drop_drop, List.drop_left,
      List.append_assoc]
    exact List.drop_left' List.length_replicate
  rw [hdrop, Comment.read_encode_iff, endsComment_shifted, endsComment_content]

end Placeholder

/-! ## Every placeholder has its place -/

/-- The placeholder that a statement is, if it is one. -/
def Statement.placeholder? (statement : Statement) : Option Placeholder :=
  match statement.form with
  | .unknown => some (.undefined statement.block.opcode)
  | .unknownCall proccode => some (.unknownCall proccode)
  | _ => none

theorem Statement.pieces_of_placeholder {statement : Statement} {placeholder : Placeholder}
    (h : statement.placeholder? = some placeholder) :
    statement.pieces = [placeholder.piece 0 0] := by
  obtain ⟨block, form, before, arguments, after, bodies⟩ := statement
  cases form with
  | unknown =>
    cases h
    rw [Statement.pieces]
    exact Placeholder.ofText_text (.undefined block.opcode)
  | unknownCall proccode =>
    cases h
    rw [Statement.pieces]
    exact Placeholder.ofText_text (.unknownCall proccode)
  | _ => cases h

/-- The placeholders of a target: those in the scripts of its procedures and hats, and those that
blocks at the top level leave. -/
inductive Draft.Holds (draft : Draft) : Placeholder → Prop
  | procedure {procedure : ProcedureDraft} {statement : Statement} {placeholder : Placeholder}
    (hmem : procedure ∈ draft.procedures) (hwithin : statement.Within procedure.body)
    (hstatement : statement.placeholder? = some placeholder) : Holds draft placeholder
  | entry {e : EntryDraft} {lines : List Statement} {statement : Statement}
    {placeholder : Placeholder} (hmem : e ∈ draft.entries) (hlines : lines ∈ e.lines)
    (hwithin : statement.Within lines)
    (hstatement : statement.placeholder? = some placeholder) : Holds draft placeholder
  | topLevel {block : Block} (hmem : .placeholder block ∈ draft.entries) :
    Holds draft (.undefined block.opcode)

theorem Draft.Course.exists_placeholder {table : SignatureTable} {target : Target}
    {start declared registered finish : Session} {draft : Draft}
    (h : draft.Course table target start declared registered finish) {placeholder : Placeholder}
    (hholds : draft.Holds placeholder) :
    ∃ lead depth, placeholder.piece lead depth ∈ draft.pieces target := by
  have hlasting := placeholder.lasting_piece
  suffices hsome : ∃ piece ∈ draft.pieces target,
      ∃ lead depth, piece = placeholder.piece lead depth by
    obtain ⟨_, hmem, lead, depth, rfl⟩ := hsome
    exact ⟨lead, depth, hmem⟩
  -- a placeholder in a script starts out without tabs, those of the bodies come later
  have hown : ∀ {statement : Statement}, statement.placeholder? = some placeholder →
      ∃ piece ∈ statement.pieces, ∃ lead depth, piece = placeholder.piece lead depth := by
    intro statement hstatement
    rw [Statement.pieces_of_placeholder hstatement]
    exact ⟨_, List.mem_cons_self, 0, 0, rfl⟩
  cases hholds with
  | procedure hmem hwithin hstatement =>
    exact h.exists_piece_of_procedure hlasting (fun _ => hown hstatement) hmem hwithin
  | entry hmem hlines hwithin hstatement =>
    exact h.exists_piece_of_entry hlasting (fun _ => hown hstatement) hmem hlines hwithin
  | @topLevel block hmem =>
    have hpieces : (EntryDraft.placeholder block).pieces =
        [(Placeholder.undefined block.opcode).piece 0 0] :=
      Placeholder.ofText_text (.undefined block.opcode)
    refine ⟨_, draft.mem_pieces_of_entry hmem ?_, 0, 0, rfl⟩
    rw [hpieces]
    exact List.mem_cons_self

/-- Every placeholder of a target has its place in the source. At any such place the comment that
starts there is the whole placeholder, up to the `*/` that was written behind the name, if and only
if there is no `*/` in the name. -/
theorem placeholder_is_one_comment_iff {table : SignatureTable} {target : Target}
    {globals : Dict String String} {script : Script}
    (h : Script.ofTarget table target globals = .ok script) :
    ∃ draft finish,
      draftTarget table target ⟨startScope target.isStage globals, []⟩ = .ok draft finish ∧
      script.source = draft.source ∧
      (∀ placeholder, draft.Holds placeholder → ∃ before lead depth after,
        draft.pieces target = before ++ placeholder.piece lead depth :: after) ∧
      ∀ before (placeholder : Placeholder) lead depth after,
        draft.pieces target = before ++ placeholder.piece lead depth :: after →
        (Comment.read (script.source.toList.drop ((spelling before).length + lead)) =
            some (Layout.shifted depth placeholder.content, spelling after) ↔
          endsComment placeholder.shown.toList = false) := by
  rcases ofTarget_eq_ok h with ⟨draft, finish, hdraft, hsource⟩
  rcases course_of_draftTarget hdraft with ⟨declared, registered, hcourse⟩
  refine ⟨draft, finish, hdraft, hsource, ?_, ?_⟩
  · intro placeholder hholds
    rcases hcourse.exists_placeholder hholds with ⟨lead, depth, hmem⟩
    rcases List.append_of_mem hmem with ⟨before, after, hpieces⟩
    exact ⟨before, lead, depth, after, hpieces⟩
  · intro before placeholder lead depth after hpieces
    -- the pieces spell the source, so the comment starts where its piece does
    have hspells : spelling (draft.pieces target) = draft.source.toList := hcourse.spells
    rw [hsource, ← hspells, hpieces]
    exact placeholder.read_piece_iff before lead depth after

/-- A target with names that end comments: an opcode and a proccode in a script, and an opcode at
the top level. Another name in the script does not, though it has two lines. -/
def vandal : Target where
  name := "Vandal"
  isStage := false
  blocks := Dict.ofList [
    ("flag", ⟨"flag", "event_whenflagclicked", some "mural", .empty, .empty, false, true, none⟩),
    ("mural", ⟨"mural", "mural\n*", some "spray", .empty, .empty, false, false, none⟩),
    ("spray", ⟨"spray", "spray*/paint", some "tag", .empty, .empty, false, false, none⟩),
    ("tag", ⟨"tag", "procedures_call", none, .empty, .empty, false, false,
      some ⟨some "tag*/wall", none, none, false⟩⟩),
    ("scrawl", ⟨"scrawl", "*/scrawl(", none, .empty, .empty, false, true, none⟩)]
  vars := .empty
  lists := .empty
  costumes := []
  sounds := []

/-- What stands in front of the first comment that ends early. -/
def vandalFront : String :=
  header ++ "\nevent_whenflagclicked() \x7b\n\t" ++ undefinedText "mural\n\t*" ++ "\n\t"

/-- What stands in front of the second one. -/
def vandalMiddle : String := vandalFront ++ undefinedText "spray*/paint" ++ "\n\t"

/-- What stands in front of the one at the top level. -/
def vandalScripts : String := vandalMiddle ++ unknownCallText "tag*/wall" ++ "\n\x7d\n"

def vandalScript : Script :=
  ⟨"Vandal", false, vandalScripts ++ undefinedText "*/scrawl(",
    [⟨some "scrawl", .undefinedOpcode "*/scrawl("⟩, ⟨some "mural", .undefinedOpcode "mural\n*"⟩,
      ⟨some "spray", .undefinedOpcode "spray*/paint"⟩,
      ⟨some "tag", .unknownProcedure "tag*/wall"⟩]⟩

theorem ofTarget_vandal : Script.ofTarget flagTable vandal .empty = .ok vandalScript := by
  decide +kernel

/-- Each of the three comments ends inside the name that it shows, and the rest of the name is
code. -/
theorem vandal_comments_end_early :
    Script.ofTarget flagTable vandal .empty = .ok vandalScript ∧
    (Comment.read (vandalScript.source.toList.drop vandalFront.length)).map Prod.fst =
      some " undefined definition for spray".toList ∧
    (Comment.read (vandalScript.source.toList.drop vandalMiddle.length)).map Prod.fst =
      some " unknown custom block tag".toList ∧
    Comment.read (vandalScript.source.toList.drop vandalScripts.length) =
      some (" undefined definition for ".toList, "scrawl( */".toList) := by
  -- the source cut in front of the first two placeholders
  have hspray : vandalScript.source = vandalFront ++ (undefinedText "spray*/paint" ++ ("\n\t" ++
      (unknownCallText "tag*/wall" ++ ("\n\x7d\n" ++ undefinedText "*/scrawl(")))) := by
    simp only [vandalScript, vandalScripts, vandalMiddle, String.append_assoc]
  have htag : vandalScript.source = vandalMiddle ++
      (unknownCallText "tag*/wall" ++ ("\n\x7d\n" ++ undefinedText "*/scrawl(")) := by
    simp only [vandalScript, vandalScripts, String.append_assoc]
  refine ⟨ofTarget_vandal, ?_, ?_, ?_⟩
  · rw [hspray, Comment.read_behind]
    decide +kernel
  · rw [htag, Comment.read_behind]
    decide +kernel
  · rw [vandalScript, Comment.read_behind]
    decide +kernel

/-- In the same script the comment of two lines is read whole, and the one behind it is not. -/
theorem vandal_mural_is_one_comment :
    Script.ofTarget flagTable vandal .empty = .ok vandalScript ∧
    ∃ draft finish,
      draftTarget flagTable vandal ⟨startScope vandal.isStage .empty, []⟩ = .ok draft finish ∧
      (∃ before after,
        draft.pieces vandal = before ++ (Placeholder.undefined "mural\n*").piece 1 1 :: after ∧
        Comment.read (vandalScript.source.toList.drop ((spelling before).length + 1)) =
          some (Layout.shifted 1 (Placeholder.undefined "mural\n*").content, spelling after)) ∧
      ∃ before after,
        draft.pieces vandal = before ++ (Placeholder.undefined "spray*/paint").piece 1 1 :: after ∧
        Comment.read (vandalScript.source.toList.drop ((spelling before).length + 1)) ≠
          some (Layout.shifted 1 (Placeholder.undefined "spray*/paint").content,
            spelling after) := by
  have hpieces : (match draftTarget flagTable vandal ⟨startScope vandal.isStage .empty, []⟩ with
      | .ok draft _ => draft.pieces vandal
      | .error _ _ => []) =
      [.plain header.toList, .plain ['\n'], .plain "event_whenflagclicked(".toList, .plain [')'],
        .plain [' '], .plain ['\x7b', '\n']] ++
      (Placeholder.undefined "mural\n*").piece 1 1 :: .plain ['\n'] ::
        (Placeholder.undefined "spray*/paint").piece 1 1 ::
        [.plain ['\n'], (Placeholder.unknownCall "tag*/wall").piece 1 1, .plain ['\n', '\x7d'],
          .plain ['\n'], (Placeholder.undefined "*/scrawl(").piece 0 0] := by
    decide +kernel
  rcases placeholder_is_one_comment_iff ofTarget_vandal with
    ⟨draft, finish, hdraft, -, -, hplaces⟩
  rw [hdraft] at hpieces
  -- a line break does no harm, the end of a comment does
  have hmural : endsComment "mural\n*".toList = false := by
    decide
  have hspray : endsComment "spray*/paint".toList ≠ false := by
    decide
  refine ⟨ofTarget_vandal, draft, finish, hdraft, ?_, ?_⟩
  · exact ⟨_, _, hpieces, (hplaces _ _ _ _ _ hpieces).2 hmural⟩
  · rw [List.append_cons, List.append_cons] at hpieces
    refine ⟨_, _, hpieces, fun hread => hspray ?_⟩
    exact (hplaces _ _ _ _ _ hpieces).1 hread

end BlockScribe
