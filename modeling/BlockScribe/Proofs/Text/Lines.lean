import BlockScribe.Proofs.Naming
import BlockScribe.Proofs.Text.Indentation
import BlockScribe.Text.Numeral

/-! # Texts of one line

A text without line breaks is indented in front of its first character and nowhere else, and so is a
construct of which only the bodies have line breaks: its head gets the tabs, the bodies are indented
as texts of their own, and every closing brace gets the tabs again. Indenting twice is indenting by
the sum, and lines can be indented before they are put below each other. Together these laws turn
the indentation of finished bodies into indentation by depth.

* `OneLine`: a text has no line break.
* `indent_indent`, `indent_stack`, `indent_of_oneLine`, `indent_construct`: the laws.
-/

namespace BlockScribe

/-- A text has no line break. -/
def OneLine (text : String) : Prop := '\n' ∉ text.toList

instance (text : String) : Decidable (OneLine text) := inferInstanceAs (Decidable (¬ _))

/-! ## Which texts have one line -/

theorem oneLine_empty : OneLine "" := by decide

theorem OneLine.append {first second : String} (hfirst : OneLine first) (hsecond : OneLine second) :
    OneLine (first ++ second) := by
  unfold OneLine
  rw [String.toList_append, List.mem_append, not_or]
  exact ⟨hfirst, hsecond⟩

/-- A character that is neither in the texts nor in what stands between them. -/
theorem not_mem_intercalate {c : Char} {separator : String} (hseparator : c ∉ separator.toList)
    {texts : List String} (htexts : ∀ text ∈ texts, c ∉ text.toList) :
    c ∉ (separator.intercalate texts).toList := by
  induction texts with
  | nil => exact List.not_mem_nil
  | cons first rest ih =>
    have hfirst := htexts first List.mem_cons_self
    have hrest := ih fun text htext => htexts text (List.mem_cons_of_mem _ htext)
    cases rest with
    | nil =>
      rw [String.intercalate_singleton]
      exact hfirst
    | cons second others =>
      rw [String.intercalate_cons_cons, String.toList_append, String.toList_append, List.mem_append,
        List.mem_append, not_or, not_or]
      exact ⟨⟨hfirst, hseparator⟩, hrest⟩

/-- What stands before the first occurrence of something, and what stands behind it, are told by the
whole. -/
theorem append_cons_inj {α : Type} {c : α} {first second rest others : List α} (hfirst : c ∉ first)
    (hsecond : c ∉ second) (h : first ++ c :: rest = second ++ c :: others) :
    first = second ∧ rest = others := by
  induction first generalizing second with
  | nil =>
    cases second with
    | nil => exact ⟨rfl, (List.cons.inj h).2⟩
    | cons d tail =>
      -- the one side is through while the other still has a character, which would be the mark
      have hhead : c = d := (List.cons.inj h).1
      exact absurd (hhead ▸ List.mem_cons_self) hsecond
  | cons d tail ih =>
    cases second with
    | nil =>
      have hhead : d = c := (List.cons.inj h).1
      exact absurd (hhead ▸ List.mem_cons_self) hfirst
    | cons e back =>
      obtain ⟨rfl, htail⟩ := List.cons.inj h
      rw [List.mem_cons, not_or] at hfirst hsecond
      obtain ⟨rfl, hrest⟩ := ih hfirst.2 hsecond.2 htail
      exact ⟨rfl, hrest⟩

theorem OneLine.intercalate {separator : String} (hseparator : OneLine separator)
    {texts : List String} (htexts : ∀ text ∈ texts, OneLine text) :
    OneLine (separator.intercalate texts) :=
  not_mem_intercalate hseparator htexts

/-- A bare word has no line break, since a line break is no part of one. -/
theorem oneLine_of_isBare {name : String} (h : Identifier.IsBare name) : OneLine name := by
  intro hbreak
  have hpart := h.isPart '\n' hbreak
  revert hpart
  decide

theorem oneLine_quote {text : String} (h : OneLine text) : OneLine (Quoted.quote text) := by
  intro hbreak
  unfold Quoted.quote Quoted.encode at hbreak
  rw [String.toList_ofList, List.mem_cons, List.mem_append, List.mem_singleton] at hbreak
  rcases hbreak with hopening | hinside | hclosing
  · exact absurd hopening (by decide)
  · -- a break between the quotes is one of the text
    unfold Quoted.escape at hinside
    obtain ⟨c, hc, hmem⟩ := List.mem_flatMap.1 hinside
    have hbreak : '\n' = c := by
      split at hmem
      · rcases List.mem_cons.1 hmem with hslash | hown
        · exact absurd hslash (by decide)
        · exact List.mem_singleton.1 hown
      · exact List.mem_singleton.1 hmem
    rw [← hbreak] at hc
    exact h hc
  · exact absurd hclosing (by decide)

theorem mem_of_mem_trimChars {cs : List Char} {c : Char} (h : c ∈ trimChars cs) : c ∈ cs := by
  unfold trimChars at h
  have hback := (List.dropWhile_sublist _).subset (List.mem_reverse.1 h)
  exact (List.dropWhile_sublist _).subset (List.mem_reverse.1 hback)

theorem oneLine_render {raw : String} (h : OneLine raw) : OneLine (Numeral.render raw) := by
  unfold Numeral.render
  dsimp only
  split
  · decide
  · split
    · intro hbreak
      rw [String.toList_ofList] at hbreak
      exact h (mem_of_mem_trimChars hbreak)
    · exact oneLine_quote h

namespace Layout

/-- Tabs up to a depth. -/
def tabs (depth : Nat) : String := String.ofList (List.replicate depth '\t')

theorem toList_tabs (depth : Nat) : (tabs depth).toList = List.replicate depth '\t' := by
  unfold tabs
  rw [String.toList_ofList]

/-! ## Indenting twice, and line by line -/

theorem indentFrom_true_tabs {c : Char} (hc : c ≠ '\n') (level inner : Nat) (rest : List Char) :
    indentFrom level true (List.replicate inner '\t' ++ c :: rest) =
      List.replicate (level + inner) '\t' ++ c :: indentFrom level false rest := by
  -- within a line nothing is added
  have hinside : ∀ count, indentFrom level false (List.replicate count '\t' ++ c :: rest) =
      List.replicate count '\t' ++ c :: indentFrom level false rest := by
    intro count
    induction count with
    | zero => exact indentFrom_false_cons hc level rest
    | succ count ih =>
      rw [List.replicate_succ, List.cons_append, indentFrom_false_cons (by decide), ih,
        List.cons_append]
  cases inner with
  | zero => exact indentFrom_true_cons hc level rest
  | succ inner =>
    rw [List.replicate_succ, List.cons_append, indentFrom_true_cons (by decide), hinside,
      ← List.cons_append, ← List.replicate_succ, ← List.append_assoc,
      List.replicate_append_replicate]

/-- The tabs of the inner indentation start the lines that the outer one starts. -/
theorem indentFrom_indentFrom (level inner : Nat) (fresh : Bool) (cs : List Char) :
    indentFrom level fresh (indentFrom inner fresh cs) = indentFrom (level + inner) fresh cs := by
  induction cs generalizing fresh with
  | nil => rfl
  | cons c rest ih =>
    by_cases hc : c = '\n'
    · rw [hc, indentFrom_break, indentFrom_break, ih, indentFrom_break]
    · cases fresh with
      | true =>
        rw [indentFrom_true_cons hc, indentFrom_true_tabs hc, ih, indentFrom_true_cons hc]
      | false =>
        rw [indentFrom_false_cons hc, indentFrom_false_cons hc, ih, indentFrom_false_cons hc]

theorem indent_indent (level inner : Nat) (text : String) :
    indent level (indent inner text) = indent (level + inner) text := by
  apply String.toList_injective
  rw [toList_indent, toList_indent, toList_indent, indentFrom_indentFrom]

/-- Every text of a stack starts a line, so each can be indented by itself. -/
theorem indent_stack (level : Nat) (texts : List String) :
    indent level (stack texts) = stack (texts.map (indent level)) := by
  apply String.toList_injective
  rw [toList_indent]
  unfold stack
  induction texts with
  | nil => rfl
  | cons first rest ih =>
    cases rest with
    | nil =>
      rw [List.map_singleton, String.intercalate_singleton, String.intercalate_singleton,
        toList_indent]
    | cons second others =>
      -- each text starts behind a break, so it is indented like the first one
      have hbreak : "\n".toList = ['\n'] := rfl
      rw [List.map_cons, List.map_cons, String.intercalate_cons_cons,
        String.intercalate_cons_cons, ← List.map_cons, String.toList_append, String.toList_append,
        String.toList_append, String.toList_append, hbreak, List.append_assoc, List.append_assoc,
        indentFrom_append, List.singleton_append, indentFrom_break, ih, toList_indent]
      rfl

/-! ## Inside a line -/

/-- Indents a text that stands inside a line. -/
def indentInside (level : Nat) (text : String) : String :=
  String.ofList (indentFrom level false text.toList)

theorem toList_indentInside (level : Nat) (text : String) :
    (indentInside level text).toList = indentFrom level false text.toList := by
  unfold indentInside
  rw [String.toList_ofList]

theorem indentFrom_false_of_not_mem {cs : List Char} (h : '\n' ∉ cs) (level : Nat)
    (rest : List Char) :
    indentFrom level false (cs ++ rest) = cs ++ indentFrom level false rest := by
  induction cs with
  | nil => rfl
  | cons c others ih =>
    rw [List.mem_cons, not_or] at h
    have hc : c ≠ '\n' := fun heq => h.1 heq.symm
    rw [List.cons_append, indentFrom_false_cons hc, ih h.2, List.cons_append]

theorem indentInside_append {first : String} (h : OneLine first) (level : Nat) (rest : String) :
    indentInside level (first ++ rest) = first ++ indentInside level rest := by
  apply String.toList_injective
  rw [toList_indentInside, String.toList_append, String.toList_append,
    indentFrom_false_of_not_mem h, toList_indentInside]

/-- A line that has characters gets its tabs in front of them. -/
theorem indent_append {first : String} (h : OneLine first) (hne : first ≠ "") (level : Nat)
    (rest : String) :
    indent level (first ++ rest) = tabs level ++ first ++ indentInside level rest := by
  obtain ⟨c, others, hchars⟩ : ∃ c others, first.toList = c :: others := by
    cases hchars : first.toList with
    | nil => exact absurd (String.toList_eq_nil_iff.1 hchars) hne
    | cons c others => exact ⟨c, others, rfl⟩
  unfold OneLine at h
  rw [hchars, List.mem_cons, not_or] at h
  have hc : c ≠ '\n' := fun heq => h.1 heq.symm
  apply String.toList_injective
  rw [toList_indent, String.toList_append, String.toList_append, String.toList_append, hchars,
    List.cons_append, indentFrom_true_cons hc, indentFrom_false_of_not_mem h.2, toList_tabs,
    toList_indentInside]
  simp

theorem indentInside_empty (level : Nat) : indentInside level "" = "" := rfl

theorem indent_of_oneLine {text : String} (h : OneLine text) (hne : text ≠ "") (level : Nat) :
    indent level text = tabs level ++ text := by
  have happend := indent_append h hne level ""
  rw [indentInside_empty, String.append_empty, String.append_empty] at happend
  exact happend

/-! ## Constructs -/

/-- A body between braces whose closing brace stands at a depth. -/
def bracedAt (depth : Nat) (body : String) : String :=
  "\x7b\n" ++ body ++ "\n" ++ tabs depth ++ "\x7d"

/-- A body between braces is indented as a text of its own, and so is the closing brace. -/
theorem indentInside_braced (level : Nat) (body rest : String) :
    indentInside level (braced body ++ rest) =
      bracedAt level (indent level body) ++ indentInside level rest := by
  have hopening : "\x7b\n".toList = ['\x7b', '\n'] := rfl
  have hclosing : "\n\x7d".toList = ['\n', '\x7d'] := rfl
  apply String.toList_injective
  unfold braced bracedAt
  rw [toList_indentInside]
  simp only [String.toList_append, List.append_assoc, hopening, hclosing]
  -- behind the opening brace a line starts, and behind the body another one
  rw [List.cons_append, indentFrom_false_cons (by decide), List.cons_append, List.nil_append,
    indentFrom_break, indentFrom_append, List.cons_append, indentFrom_break, List.cons_append,
    List.nil_append, indentFrom_true_cons (by decide), toList_indent, toList_tabs,
    toList_indentInside]
  rfl

theorem indentInside_bodies (level : Nat) (bodies : List String) :
    indentInside level (" ".intercalate (bodies.map braced)) =
      " ".intercalate (bodies.map fun body => bracedAt level (indent level body)) := by
  induction bodies with
  | nil => rfl
  | cons first rest ih =>
    cases rest with
    | nil =>
      -- the last body has nothing behind it
      have hfirst := indentInside_braced level first ""
      rw [indentInside_empty, String.append_empty, String.append_empty] at hfirst
      rw [List.map_singleton, List.map_singleton, String.intercalate_singleton,
        String.intercalate_singleton, hfirst]
    | cons second others =>
      have hblank : OneLine " " := by decide
      rw [List.map_cons, List.map_cons, List.map_cons, List.map_cons,
        String.intercalate_cons_cons, String.intercalate_cons_cons, ← List.map_cons,
        ← List.map_cons (f := fun body => bracedAt level (indent level body)),
        String.append_assoc, indentInside_braced, indentInside_append hblank, ih,
        String.append_assoc]

/-- A construct is indented as its head and its bodies are. -/
theorem indent_construct {head : String} (h : OneLine head) (hne : head ≠ "") (level : Nat)
    (bodies : List String) :
    indent level (head ++ " " ++ " ".intercalate (bodies.map braced)) =
      tabs level ++ head ++ " " ++
        " ".intercalate (bodies.map fun body => bracedAt level (indent level body)) := by
  have hblank : OneLine " " := by decide
  rw [String.append_assoc, indent_append h hne, indentInside_append hblank, indentInside_bodies,
    ← String.append_assoc]

end Layout

end BlockScribe
