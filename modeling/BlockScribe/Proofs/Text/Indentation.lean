import BlockScribe.Text.Layout
import BlockScribe.Text.Quoted

/-! # Indentation from left to right

Indentation is defined on the lines of a text. Read from left to right it needs one bit of
memory, whether a line starts here, so the indentation of a text in two parts is that of its
parts (`indentFrom_append`), and it can be followed through a text that is put together from
pieces.

* `indentFrom`: indentation with that bit; `toList_indent` says that it is the same.
* `shifted`: what indentation makes of characters that stand inside a line, such as those of a
  text literal. They change exactly when one of them is a line break (`shifted_eq_self_iff`).
-/

namespace BlockScribe.Layout

/-! ## One character after the other -/

/-- Indents characters; `fresh` says whether a line starts in front of them. -/
def indentFrom (level : Nat) : (fresh : Bool) → List Char → List Char
  | _, [] => []
  | fresh, c :: rest =>
    if c = '\n' then '\n' :: indentFrom level true rest
    else (if fresh then List.replicate level '\t' else []) ++ c :: indentFrom level false rest

/-- Whether a line starts behind the characters. -/
def endsFresh (fresh : Bool) : List Char → Bool
  | [] => fresh
  | c :: rest => endsFresh (c == '\n') rest

@[simp]
theorem indentFrom_nil (level : Nat) (fresh : Bool) : indentFrom level fresh [] = [] := rfl

@[simp]
theorem indentFrom_break (level : Nat) (fresh : Bool) (rest : List Char) :
    indentFrom level fresh ('\n' :: rest) = '\n' :: indentFrom level true rest := by
  simp [indentFrom]

theorem indentFrom_true_cons {c : Char} (hc : c ≠ '\n') (level : Nat) (rest : List Char) :
    indentFrom level true (c :: rest) =
      List.replicate level '\t' ++ c :: indentFrom level false rest := by
  simp [indentFrom, hc]

theorem indentFrom_false_cons {c : Char} (hc : c ≠ '\n') (level : Nat) (rest : List Char) :
    indentFrom level false (c :: rest) = c :: indentFrom level false rest := by
  simp [indentFrom, hc]

theorem indentFrom_append (level : Nat) (fresh : Bool) (first second : List Char) :
    indentFrom level fresh (first ++ second) =
      indentFrom level fresh first ++ indentFrom level (endsFresh fresh first) second := by
  induction first generalizing fresh with
  | nil => rfl
  | cons c rest ih =>
    by_cases hc : c = '\n'
    · simp [indentFrom, endsFresh, hc, ih]
    · have hfresh : (c == '\n') = false := by simpa using hc
      simp [indentFrom, endsFresh, hc, hfresh, ih]

theorem indentFrom_zero (fresh : Bool) (cs : List Char) : indentFrom 0 fresh cs = cs := by
  induction cs generalizing fresh with
  | nil => rfl
  | cons c rest ih =>
    by_cases hc : c = '\n'
    · simp [hc, ih]
    · simp [indentFrom, hc, ih]

/-- Cut into lines, characters have a first line and others; the others are indented, and the
first one if it starts where the characters do. -/
theorem intercalate_splitOn_eq_indentFrom (level : Nat) (cs : List Char) :
    ∃ first others, cs.splitOn '\n' = first :: others ∧
      ['\n'].intercalate (indentLine level first :: others.map (indentLine level)) =
        indentFrom level true cs ∧
      ['\n'].intercalate (first :: others.map (indentLine level)) =
        indentFrom level false cs := by
  induction cs with
  | nil => exact ⟨[], [], rfl, rfl, rfl⟩
  | cons c rest ih =>
    obtain ⟨first, others, hsplit, htrue, hfalse⟩ := ih
    rw [List.splitOn_eq_splitOnP] at hsplit ⊢
    rw [List.splitOnP_cons_eq_if_modifyHead, hsplit]
    by_cases hc : c = '\n'
    · -- an empty first line: what follows starts a line of its own
      subst hc
      refine ⟨[], first :: others, by simp, ?_, ?_⟩
      · simpa [indentLine, List.intercalate_cons_cons] using htrue
      · simpa [List.intercalate_cons_cons] using htrue
    · -- the character joins the first line, behind the tabs of that line
      have hsame : ∀ front : List Char,
          ['\n'].intercalate ((front ++ first) :: others.map (indentLine level)) =
            front ++ indentFrom level false rest := by
        intro front
        rw [← hfalse]
        cases others with
        | nil => simp
        | cons line lines => simp [List.intercalate_cons_cons]
      refine ⟨c :: first, others, by simp [hc], ?_, ?_⟩
      · have hline := hsame (List.replicate level '\t' ++ [c])
        rw [indentFrom_true_cons hc]
        simpa [indentLine] using hline
      · have hline := hsame [c]
        rw [indentFrom_false_cons hc]
        simpa using hline

/-- Indentation line by line is indentation from left to right. -/
theorem toList_indent (level : Nat) (code : String) :
    (indent level code).toList = indentFrom level true code.toList := by
  unfold indent
  split
  · rename_i hzero
    rw [hzero, indentFrom_zero]
  · obtain ⟨first, others, hsplit, htrue, -⟩ :=
      intercalate_splitOn_eq_indentFrom level code.toList
    rw [String.toList_ofList, indentChars, hsplit]
    exact htrue

/-! ## Inside a line -/

/-- What indentation makes of characters that stand inside a line, with more of the line in front
of them and behind: the tabs go behind each line break, unless the next line is empty. -/
def shifted (level : Nat) : List Char → List Char
  | [] => []
  | c :: rest =>
    if c = '\n' ∧ rest.head? ≠ some '\n' then
      '\n' :: (List.replicate level '\t' ++ shifted level rest)
    else c :: shifted level rest

@[simp]
theorem shifted_nil (level : Nat) : shifted level [] = [] := rfl

theorem shifted_of_ne {c : Char} (hc : c ≠ '\n') (level : Nat) (rest : List Char) :
    shifted level (c :: rest) = c :: shifted level rest := by
  simp [shifted, hc]

theorem shifted_break {rest : List Char} (hrest : rest.head? ≠ some '\n') (level : Nat) :
    shifted level ('\n' :: rest) = '\n' :: (List.replicate level '\t' ++ shifted level rest) := by
  simp [shifted, hrest]

theorem shifted_double_break {rest : List Char} (hrest : rest.head? = some '\n') (level : Nat) :
    shifted level ('\n' :: rest) = '\n' :: shifted level rest := by
  simp [shifted, hrest]

/-- Where a line starts with a character of its own, it starts with the tabs. -/
theorem indentFrom_true_of_ne {cs : List Char} {c : Char} (hhead : cs.head? = some c)
    (hc : c ≠ '\n') (level : Nat) :
    indentFrom level true cs = List.replicate level '\t' ++ indentFrom level false cs := by
  cases cs with
  | nil => cases hhead
  | cons first rest =>
    have hfirst : first = c := by simpa using hhead
    rw [hfirst, indentFrom_true_cons hc, indentFrom_false_cons hc]

theorem indentFrom_true_of_break {cs : List Char} (hhead : cs.head? = some '\n') (level : Nat) :
    indentFrom level true cs = indentFrom level false cs := by
  cases cs with
  | nil => cases hhead
  | cons first rest =>
    have hfirst : first = '\n' := by simpa using hhead
    rw [hfirst, indentFrom_break, indentFrom_break]

/-- Inside a line, indentation shifts the characters. -/
theorem indentFrom_inside {next : Char} (hnext : next ≠ '\n') (level : Nat)
    (cs rest : List Char) :
    indentFrom level false (cs ++ next :: rest) =
      shifted level cs ++ next :: indentFrom level false rest := by
  induction cs with
  | nil => exact indentFrom_false_cons hnext level rest
  | cons c others ih =>
    by_cases hc : c = '\n'
    · subst hc
      rw [List.cons_append, indentFrom_break]
      by_cases hbreak : others.head? = some '\n'
      · have hhead : (others ++ next :: rest).head? = some '\n' := by simp [hbreak]
        rw [indentFrom_true_of_break hhead, ih, shifted_double_break hbreak]
        rfl
      · -- the next line has a character, if only the one behind all of them
        obtain ⟨first, hhead, hne⟩ :
            ∃ first, (others ++ next :: rest).head? = some first ∧ first ≠ '\n' := by
          cases others with
          | nil => exact ⟨next, rfl, hnext⟩
          | cons first more => exact ⟨first, rfl, by simpa using hbreak⟩
        rw [indentFrom_true_of_ne hhead hne, ih, shifted_break hbreak]
        simp
    · rw [List.cons_append, indentFrom_false_cons hc, ih, shifted_of_ne hc]
      rfl

theorem head?_shifted (level : Nat) (cs : List Char) : (shifted level cs).head? = cs.head? := by
  cases cs with
  | nil => rfl
  | cons c rest =>
    by_cases hc : c = '\n'
    · by_cases hrest : rest.head? = some '\n'
      · simp [shifted, hrest]
      · simp [shifted, hc, hrest]
    · simp [shifted, hc]

theorem shifted_zero (cs : List Char) : shifted 0 cs = cs := by
  induction cs with
  | nil => rfl
  | cons c rest ih =>
    by_cases hbreak : c = '\n' ∧ rest.head? ≠ some '\n'
    · simp [shifted, hbreak, ih]
    · rw [shifted, if_neg hbreak, ih]

theorem shifted_tabs (level count : Nat) (cs : List Char) :
    shifted level (List.replicate count '\t' ++ cs) =
      List.replicate count '\t' ++ shifted level cs := by
  induction count with
  | zero => rfl
  | succ count ih =>
    rw [List.replicate_succ, List.cons_append, shifted_of_ne (by decide), ih, List.cons_append]

/-- Shifting twice is shifting by the sum. -/
theorem shifted_shifted (level inner : Nat) (cs : List Char) :
    shifted level (shifted inner cs) = shifted (level + inner) cs := by
  induction cs with
  | nil => rfl
  | cons c rest ih =>
    by_cases hc : c = '\n'
    · subst hc
      by_cases hrest : rest.head? = some '\n'
      · have hhead : (shifted inner rest).head? = some '\n' := by
          rw [head?_shifted]
          exact hrest
        rw [shifted_double_break hrest, shifted_double_break hhead, ih,
          shifted_double_break hrest]
      · -- behind the break stand the inner tabs, or what stood there before
        have hhead : (List.replicate inner '\t' ++ shifted inner rest).head? ≠ some '\n' := by
          cases inner with
          | zero => simpa [head?_shifted] using hrest
          | succ inner => simp [List.replicate_succ]
        rw [shifted_break hrest, shifted_break hhead, shifted_tabs, ih, shifted_break hrest,
          ← List.append_assoc, List.replicate_append_replicate]
    · rw [shifted_of_ne hc, shifted_of_ne hc, ih, shifted_of_ne hc]

theorem length_le_length_shifted (level : Nat) (cs : List Char) :
    cs.length ≤ (shifted level cs).length := by
  induction cs with
  | nil => exact Nat.le_refl 0
  | cons c rest ih =>
    rw [shifted]
    split
    · simp only [List.length_cons, List.length_append]
      omega
    · simp only [List.length_cons]
      omega

/-- Of the line breaks among some characters, one is not followed by another. -/
theorem length_add_le_length_shifted (level : Nat) {cs : List Char} (h : '\n' ∈ cs) :
    cs.length + level ≤ (shifted level cs).length := by
  induction cs with
  | nil => exact absurd h List.not_mem_nil
  | cons c rest ih =>
    by_cases hrest : '\n' ∈ rest
    · have hlong := ih hrest
      rw [shifted]
      split
      · simp only [List.length_cons, List.length_append]
        omega
      · simp only [List.length_cons]
        omega
    · -- the last line break of all: what follows it starts a line
      have hc : c = '\n' := by
        rcases List.mem_cons.1 h with heq | hmem
        · exact heq.symm
        · exact absurd hmem hrest
      have hhead : rest.head? ≠ some '\n' := by
        intro hhead
        exact hrest (List.mem_of_head? hhead)
      have hlong := length_le_length_shifted level rest
      rw [hc, shifted_break hhead]
      simp only [List.length_cons, List.length_append, List.length_replicate]
      omega

theorem shifted_of_not_mem {cs : List Char} (h : '\n' ∉ cs) (level : Nat) :
    shifted level cs = cs := by
  induction cs with
  | nil => rfl
  | cons c rest ih =>
    rw [List.mem_cons, not_or] at h
    rw [shifted_of_ne (fun hc => h.1 hc.symm), ih h.2]

/-- Indentation leaves the characters inside a line as they are if and only if it adds no tabs or
there is no line break among them. -/
theorem shifted_eq_self_iff (level : Nat) (cs : List Char) :
    shifted level cs = cs ↔ level = 0 ∨ '\n' ∉ cs := by
  constructor
  · intro hsame
    by_cases hbreak : '\n' ∈ cs
    · have hlong := length_add_le_length_shifted level hbreak
      rw [hsame] at hlong
      exact .inl (by omega)
    · exact .inr hbreak
  · rintro (rfl | hnone)
    · exact shifted_zero cs
    · exact shifted_of_not_mem hnone level

end BlockScribe.Layout

namespace BlockScribe.Quoted

open Layout

/-! ## Text literals -/

theorem escape_append (first second : List Char) :
    escape (first ++ second) = escape first ++ escape second := by
  simp [escape]

theorem escape_tabs (count : Nat) :
    escape (List.replicate count '\t') = List.replicate count '\t' := by
  induction count with
  | zero => rfl
  | succ count ih => simp [List.replicate_succ, escape_cons, ih]

theorem escape_break (rest : List Char) : escape ('\n' :: rest) = '\n' :: escape rest := by
  simp [escape_cons]

theorem head?_escape_eq_break_iff (cs : List Char) :
    (escape cs).head? = some '\n' ↔ cs.head? = some '\n' := by
  cases cs with
  | nil => exact Iff.rfl
  | cons c rest =>
    by_cases hc : c = '\\' ∨ c = '"'
    · rcases hc with rfl | rfl
      · simp [escape_cons]
      · simp [escape_cons]
    · simp [escape_cons, hc]

/-- Escaping leaves line breaks alone, so a literal is shifted as its text is. -/
theorem shifted_escape (level : Nat) (cs : List Char) :
    shifted level (escape cs) = escape (shifted level cs) := by
  induction cs with
  | nil => rfl
  | cons c rest ih =>
    by_cases hc : c = '\n'
    · subst hc
      by_cases hrest : rest.head? = some '\n'
      · have hhead := (head?_escape_eq_break_iff rest).2 hrest
        rw [escape_break, shifted_double_break hhead, ih, shifted_double_break hrest,
          escape_break]
      · have hhead := fun h => hrest ((head?_escape_eq_break_iff rest).1 h)
        rw [escape_break, shifted_break hhead, ih, shifted_break hrest, escape_break,
          escape_append, escape_tabs]
    · rw [shifted_of_ne hc, escape_cons, escape_cons, ← ih]
      -- a character is written as it is, or with a backslash in front; neither is a break
      by_cases hescaped : c = '\\' ∨ c = '"'
      · rw [if_pos hescaped, List.cons_append, List.cons_append, List.nil_append,
          shifted_of_ne (by decide), shifted_of_ne hc]
        rfl
      · rw [if_neg hescaped, List.cons_append, List.nil_append, shifted_of_ne hc]
        rfl

end BlockScribe.Quoted
