import BlockScribe.Proofs.Text.Lines
import Mathlib.Data.List.Forall2

/-! # What indentation changes

The lines of a text are what stands between its line breaks, and a text is told by its lines
(`lines_injective`). Indentation is a rule for each line alone: a line without characters stays as
it is, any other one gets the tabs in front of it (`IndentsLine`). So the lines of an indented text
are the lines of the text, each of them indented (`lines_indent`), and there are as many line breaks
in it as before (`length_lines`).
-/

namespace BlockScribe.Layout

/-! ## Lines -/

/-- What stands between the line breaks of a text. -/
def lines (text : String) : List (List Char) := text.toList.splitOn '\n'

/-- The rest of a text starts in the middle of its first line. -/
theorem splitOn_break_cons (c : Char) (rest : List Char) :
    (c :: rest).splitOn '\n' =
      if c = '\n' then [] :: rest.splitOn '\n'
      else (rest.splitOn '\n').modifyHead (c :: ·) := by
  rw [List.splitOn_eq_splitOnP, List.splitOn_eq_splitOnP, List.splitOnP_cons_eq_if_modifyHead]
  simp

theorem splitOn_break_ne_nil (cs : List Char) : cs.splitOn '\n' ≠ [] := by
  rw [List.splitOn_eq_splitOnP]
  exact List.splitOnP_ne_nil _ cs

/-- A line has no line break in it. -/
theorem break_not_mem_of_mem_splitOn {cs line : List Char} (h : line ∈ cs.splitOn '\n') :
    '\n' ∉ line := by
  induction cs generalizing line with
  | nil =>
    have hline : line = [] := by simpa using h
    rw [hline]
    exact List.not_mem_nil
  | cons c rest ih =>
    rw [splitOn_break_cons] at h
    by_cases hc : c = '\n'
    · rw [if_pos hc, List.mem_cons] at h
      rcases h with rfl | hrest
      · exact List.not_mem_nil
      · exact ih hrest
    · -- the character joins the first line, the others stay as they were
      rw [if_neg hc] at h
      obtain ⟨first, others, hsplit⟩ := List.exists_cons_of_ne_nil (splitOn_break_ne_nil rest)
      rw [hsplit, List.modifyHead_cons, List.mem_cons] at h
      rcases h with rfl | hother
      · have hfirst : '\n' ∉ first := ih (by rw [hsplit]; exact List.mem_cons_self)
        rw [List.mem_cons, not_or]
        exact ⟨fun heq => hc heq.symm, hfirst⟩
      · exact ih (by rw [hsplit]; exact List.mem_cons_of_mem _ hother)

/-- There is one line more than there are line breaks. -/
theorem length_lines (text : String) : (lines text).length = text.toList.count '\n' + 1 := by
  unfold lines
  induction text.toList with
  | nil => rfl
  | cons c rest ih =>
    rw [splitOn_break_cons]
    by_cases hc : c = '\n'
    · rw [if_pos hc, hc, List.length_cons, List.count_cons_self, ih]
    · rw [if_neg hc, List.length_modifyHead, List.count_cons_of_ne hc, ih]

/-- A text is told by its lines. -/
theorem lines_injective : Function.Injective lines := by
  intro text other h
  apply String.toList_injective
  calc text.toList = ['\n'].intercalate (lines text) := (List.intercalate_splitOn '\n').symm
    _ = ['\n'].intercalate (lines other) := by rw [h]
    _ = other.toList := List.intercalate_splitOn '\n'

/-! ## Indentation line by line -/

/-- How a line is indented: if it has characters, with tabs in front of them. -/
inductive IndentsLine (level : Nat) : (line indented : List Char) → Prop
  | blank : IndentsLine level [] []
  | filled {line : List Char} (h : line ≠ []) :
    IndentsLine level line (List.replicate level '\t' ++ line)

theorem indentsLine_iff {level : Nat} {line indented : List Char} :
    IndentsLine level line indented ↔ indentLine level line = indented := by
  constructor
  · intro h
    cases h with
    | blank => rfl
    | filled hne => simp [indentLine, hne]
  · rintro rfl
    by_cases hne : line = []
    · rw [hne]
      exact .blank
    · have hfilled : indentLine level line = List.replicate level '\t' ++ line := by
        simp [indentLine, hne]
      rw [hfilled]
      exact .filled hne

theorem break_not_mem_indentLine {line : List Char} (h : '\n' ∉ line) (level : Nat) :
    '\n' ∉ indentLine level line := by
  unfold indentLine
  split
  · exact List.not_mem_nil
  · rw [List.mem_append, not_or]
    refine ⟨?_, h⟩
    intro htab
    exact absurd (List.eq_of_mem_replicate htab) (by decide)

/-- The lines of an indented text are the lines of the text, each of them indented. -/
theorem lines_indent (level : Nat) (text : String) :
    lines (indent level text) = (lines text).map (indentLine level) := by
  unfold lines indent
  by_cases hlevel : level = 0
  · -- nothing is put in front of any line
    have hsame : indentLine 0 = id := by
      funext line
      cases line with
      | nil => rfl
      | cons c rest => rfl
    rw [if_pos hlevel, hlevel, hsame, List.map_id]
  · rw [if_neg hlevel, String.toList_ofList, indentChars]
    apply List.splitOn_intercalate
    · intro indented hindented
      obtain ⟨line, hline, rfl⟩ := List.mem_map.1 hindented
      exact break_not_mem_indentLine (break_not_mem_of_mem_splitOn hline) level
    · intro hnil
      exact splitOn_break_ne_nil _ (List.map_eq_nil_iff.1 hnil)

/-- An indented text is the one whose lines are those of the text, indented one by one. -/
theorem forall₂_indentsLine_iff (level : Nat) (text result : String) :
    List.Forall₂ (IndentsLine level) (lines text) (lines result) ↔ result = indent level text := by
  -- the rule gives one line for each line, so it relates two lists if one is the other, indented
  have hrule : IndentsLine level = fun line indented => indentLine level line = indented := by
    funext line indented
    exact propext indentsLine_iff
  have hmap : List.Forall₂ (IndentsLine level) (lines text) (lines result) ↔
      (lines text).map (indentLine level) = lines result := by
    rw [hrule, ← List.forall₂_map_left_iff, List.forall₂_eq_eq_eq]
  rw [hmap, ← lines_indent]
  exact ⟨fun h => (lines_injective h).symm, fun h => by rw [h]⟩

/-- Indenting twice is indenting by the sum, and texts that stand below each other can be indented
one by one. An indented text has as many line breaks as before, and it is the only text that has the
same lines in the same order, with the tabs in front of those that have characters. -/
theorem indentation_adds_up_line_by_line (level inner : Nat) (text : String)
    (texts : List String) :
    indent level (indent inner text) = indent (level + inner) text ∧
    indent level (stack texts) = stack (texts.map (indent level)) ∧
    (indent level text).toList.count '\n' = text.toList.count '\n' ∧
    ∀ result, List.Forall₂ (IndentsLine level) (lines text) (lines result) ↔
      result = indent level text := by
  refine ⟨indent_indent level inner text, indent_stack level texts, ?_,
    forall₂_indentsLine_iff level text⟩
  -- there are as many line breaks as there are lines, less one
  have hlength : (lines (indent level text)).length = (lines text).length := by
    rw [lines_indent, List.length_map]
  rw [length_lines, length_lines] at hlength
  omega

example : indent 2 "a\n\n\tb\n" = "\t\ta\n\n\t\t\tb\n" := by
  decide

end BlockScribe.Layout
