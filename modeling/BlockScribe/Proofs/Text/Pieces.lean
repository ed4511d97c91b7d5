import BlockScribe.Proofs.Text.Indentation
import Mathlib.Data.List.Forall2

/-! # Texts in pieces

A text in pieces knows which of its characters are the literal of which value. Indentation keeps
track of them: the characters of a literal are shifted by the tabs that the bodies around it put
behind its line breaks, and a piece counts these tabs (`Spells.indent`).

* `Piece`: characters as they stand, or the literal of a value under a number of tabs.
* `Lasting`: kinds of pieces that indentation does not take out of a text, such as the literals of
  a value.
* `Spells`: pieces that put together are a given text.
* `decode_quoted`: what reading a literal at its place gives.
-/

namespace BlockScribe

open Layout

/-- A piece of a text. -/
inductive Piece where
  | plain (chars : List Char)
  /-- The literal of a value, in bodies that indent it by `depth` tabs. -/
  | quoted (depth : Nat) (value : String)
deriving DecidableEq, Repr

namespace Piece

/-- The characters of a piece. -/
def chars : Piece → List Char
  | plain cs => cs
  | quoted depth value => Quoted.encode (shifted depth value.toList)

/-- Text as it stands, in pieces. -/
def ofText (text : String) : List Piece := [plain text.toList]

/-- The characters of pieces, one after the other. -/
def spelling (pieces : List Piece) : List Char := pieces.flatMap chars

@[simp]
theorem spelling_nil : spelling [] = [] := rfl

@[simp]
theorem spelling_cons (piece : Piece) (rest : List Piece) :
    spelling (piece :: rest) = piece.chars ++ spelling rest := rfl

@[simp]
theorem spelling_append (first second : List Piece) :
    spelling (first ++ second) = spelling first ++ spelling second :=
  List.flatMap_append

/-- Read at its place, a literal gives its value shifted by the tabs around it, and leaves what
follows it. -/
theorem decode_quoted (before : List Piece) (depth : Nat) (value : String) (after : List Piece) :
    Quoted.decode ((spelling (before ++ quoted depth value :: after)).drop
      (spelling before).length) = some (shifted depth value.toList, spelling after) := by
  rw [spelling_append, List.drop_left, spelling_cons]
  exact Quoted.decode_encode _ _

/-! ## Indentation -/

/-- Indents pieces; `fresh` says whether a line starts in front of them. -/
def indented (level : Nat) : (fresh : Bool) → List Piece → List Piece
  | _, [] => []
  | fresh, plain cs :: rest =>
    plain (indentFrom level fresh cs) :: indented level (endsFresh fresh cs) rest
  | fresh, quoted depth value :: rest =>
    plain (if fresh then List.replicate level '\t' else []) :: quoted (level + depth) value ::
      indented level false rest

/-- The characters of a literal are shifted, those around it are indented. -/
theorem indentFrom_encode (level : Nat) (fresh : Bool) (cs rest : List Char) :
    indentFrom level fresh (Quoted.encode cs ++ rest) =
      (if fresh then List.replicate level '\t' else []) ++
        (Quoted.encode (shifted level cs) ++ indentFrom level false rest) := by
  have hquote : '"' ≠ '\n' := by decide
  -- escaping keeps breaks, so tabs go where they would go in the value
  have hinside : indentFrom level false (Quoted.escape cs ++ '"' :: rest) =
      Quoted.escape (shifted level cs) ++ '"' :: indentFrom level false rest := by
    rw [indentFrom_inside hquote, Quoted.shifted_escape]
  have hchars : Quoted.encode cs ++ rest = '"' :: (Quoted.escape cs ++ '"' :: rest) := by
    simp [Quoted.encode]
  rw [hchars]
  cases fresh with
  | true =>
    rw [indentFrom_true_cons hquote, hinside]
    simp [Quoted.encode]
  | false =>
    rw [indentFrom_false_cons hquote, hinside]
    simp [Quoted.encode]

theorem spelling_indented (level : Nat) (fresh : Bool) (pieces : List Piece) :
    spelling (indented level fresh pieces) = indentFrom level fresh (spelling pieces) := by
  induction pieces generalizing fresh with
  | nil => rfl
  | cons piece rest ih =>
    cases piece with
    | plain cs =>
      rw [indented, spelling_cons, spelling_cons, chars, chars, ih, ← indentFrom_append]
    | quoted depth value =>
      rw [indented, spelling_cons, spelling_cons, spelling_cons, chars, chars, chars, ih,
        indentFrom_encode, shifted_shifted]

/-- A kind of pieces that indentation leaves in a text: a piece of the kind has characters, and
indented it is, or leaves, a piece of the kind. -/
structure Lasting (kind : Piece → Prop) : Prop where
  chars_ne_nil : ∀ {piece}, kind piece → piece.chars ≠ []
  exists_indented : ∀ {piece} (level : Nat) (fresh : Bool), kind piece →
    ∃ moved ∈ indented level fresh [piece], kind moved

theorem Lasting.exists_mem_indented {kind : Piece → Prop} (h : Lasting kind) {pieces : List Piece}
    (hpieces : ∃ piece ∈ pieces, kind piece) (level : Nat) (fresh : Bool) :
    ∃ piece ∈ indented level fresh pieces, kind piece := by
  induction pieces generalizing fresh with
  | nil =>
    obtain ⟨piece, hmem, -⟩ := hpieces
    exact absurd hmem List.not_mem_nil
  | cons first rest ih =>
    -- what the first piece leaves stands in front, whether or not a line starts behind it
    obtain ⟨next, hsplit⟩ : ∃ next, indented level fresh (first :: rest) =
        indented level fresh [first] ++ indented level next rest := by
      cases first with
      | plain cs => exact ⟨_, rfl⟩
      | quoted depth value => exact ⟨_, rfl⟩
    rw [hsplit]
    obtain ⟨piece, hmem, hkind⟩ := hpieces
    rcases List.mem_cons.1 hmem with rfl | hrest
    · obtain ⟨moved, hmoved, hlast⟩ := h.exists_indented level fresh hkind
      exact ⟨moved, List.mem_append_left _ hmoved, hlast⟩
    · obtain ⟨moved, hmoved, hlast⟩ := ih ⟨piece, hrest, hkind⟩ next
      exact ⟨moved, List.mem_append_right _ hmoved, hlast⟩

/-- A literal stays a literal of its value; only the tabs around it grow. -/
theorem lasting_quoted (value : String) :
    Lasting fun piece => ∃ depth, piece = quoted depth value where
  chars_ne_nil := by
    rintro _ ⟨depth, rfl⟩
    exact List.cons_ne_nil _ _
  exists_indented := by
    rintro _ level fresh ⟨depth, rfl⟩
    exact ⟨quoted (level + depth) value, List.mem_cons_of_mem _ List.mem_cons_self, _, rfl⟩

/-! ## Putting pieces together -/

/-- Pieces with a separator between them. -/
def joined (separator : String) (parts : List (List Piece)) : List Piece :=
  (ofText separator).intercalate parts

theorem mem_joined {separator : String} {parts : List (List Piece)} {part : List Piece}
    (hpart : part ∈ parts) {piece : Piece} (hpiece : piece ∈ part) :
    piece ∈ joined separator parts := by
  unfold joined
  induction parts with
  | nil => exact absurd hpart List.not_mem_nil
  | cons first rest ih =>
    cases rest with
    | nil =>
      rw [List.mem_singleton.1 hpart] at hpiece
      simpa using hpiece
    | cons second others =>
      rw [List.intercalate_cons_cons]
      rcases List.mem_cons.1 hpart with rfl | hrest
      · exact List.mem_append_left _ (List.mem_append_left _ hpiece)
      · exact List.mem_append_right _ (ih hrest)

/-- An opening brace, a body in pieces and a closing brace. -/
def braced (body : List Piece) : List Piece :=
  ofText "\x7b\n" ++ body ++ ofText "\n\x7d"

end Piece

open Piece

/-- Put together, the pieces are the text. -/
def Spells (pieces : List Piece) (text : String) : Prop := spelling pieces = text.toList

theorem spells_ofText (text : String) : Spells (ofText text) text := by
  simp [Spells, ofText, chars]

theorem spells_quoted (value : String) : Spells [.quoted 0 value] (Quoted.quote value) := by
  simp [Spells, chars, shifted_zero, Quoted.quote]

theorem Spells.append {first second : List Piece} {text other : String} (hfirst : Spells first text)
    (hsecond : Spells second other) : Spells (first ++ second) (text ++ other) := by
  unfold Spells at hfirst hsecond ⊢
  rw [spelling_append, hfirst, hsecond, String.toList_append]

theorem Spells.joined {separator : String} {parts : List (List Piece)} {texts : List String}
    (h : List.Forall₂ Spells parts texts) :
    Spells (joined separator parts) (separator.intercalate texts) := by
  unfold Piece.joined
  induction h with
  | nil => rfl
  | @cons part text rest others hfirst hrest ih =>
    cases hrest with
    | nil =>
      rw [List.intercalate_singleton, String.intercalate_singleton]
      exact hfirst
    | cons hsecond hothers =>
      rw [List.intercalate_cons_cons, String.intercalate_cons_cons]
      exact (hfirst.append (spells_ofText separator)).append ih

theorem Spells.indent {pieces : List Piece} {text : String} (h : Spells pieces text) (level : Nat) :
    Spells (indented level true pieces) (Layout.indent level text) := by
  unfold Spells at h ⊢
  rw [spelling_indented, h, toList_indent]

theorem Spells.braced {pieces : List Piece} {text : String} (h : Spells pieces text) :
    Spells (braced pieces) (Layout.braced text) :=
  ((spells_ofText _).append h).append (spells_ofText _)

end BlockScribe
