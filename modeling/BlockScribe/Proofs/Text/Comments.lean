import BlockScribe.Proofs.Text.Lexical

/-! # Comments

A comment runs from `/*` to the first `*/` behind it, and nothing is escaped in between. So what was
put between the two is read back if and only if it has no `*/` in it (`read_encode_iff`).
Indentation does to a comment what it does to a literal: tabs go behind the line breaks of the
content (`indentFrom_encode`). They neither make an end of a comment nor undo one
(`endsComment_shifted`).
-/

namespace BlockScribe

namespace Lexical

theorem endsComment_cons (c : Char) (rest : List Char) :
    endsComment (c :: rest) =
      (decide (c = '*' ∧ rest.head? = some '/') || endsComment rest) := by
  have hhere : "*/".toList.isPrefixOf (c :: rest) =
      decide (c = '*' ∧ rest.head? = some '/') := by
    rw [Bool.eq_iff_iff, decide_eq_true_iff, List.isPrefixOf_iff_prefix]
    cases rest with
    | nil => simp
    | cons next others => simp [List.cons_prefix_cons, eq_comm]
  rw [← hhere]
  rfl

/-- Without an asterisk, characters in front neither end a comment nor start to. -/
theorem endsComment_append_of_not_mem {front : List Char} (h : '*' ∉ front) (cs : List Char) :
    endsComment (front ++ cs) = endsComment cs := by
  induction front with
  | nil => rfl
  | cons c rest ih =>
    rw [List.mem_cons, not_or] at h
    have hc : ¬ (c = '*' ∧ (rest ++ cs).head? = some '/') := fun hend => h.1 hend.1.symm
    rw [List.cons_append, endsComment_cons, decide_eq_false hc, Bool.false_or, ih h.2]

/-- A last character that is not a slash does not end a comment. -/
theorem endsComment_concat {last : Char} (hlast : last ≠ '/') (cs : List Char) :
    endsComment (cs ++ [last]) = endsComment cs := by
  induction cs with
  | nil =>
    rw [List.nil_append, endsComment_cons]
    simp
  | cons c rest ih =>
    have hhead : (rest ++ [last]).head? = some '/' ↔ rest.head? = some '/' := by
      cases rest with
      | nil => simp [hlast]
      | cons next others => exact Iff.rfl
    simp only [List.cons_append, endsComment_cons, ih, hhead]

/-- Tabs behind line breaks neither part an asterisk from a slash nor bring the two together. -/
theorem endsComment_shifted (level : Nat) (cs : List Char) :
    endsComment (Layout.shifted level cs) = endsComment cs := by
  induction cs with
  | nil => rfl
  | cons c rest ih =>
    by_cases hc : c = '\n'
    · subst hc
      have htabs : '*' ∉ List.replicate level '\t' := by
        intro hmem
        cases List.eq_of_mem_replicate hmem
      have hskip : ∀ cs : List Char, endsComment ('\n' :: cs) = endsComment cs := by
        intro cs
        rw [endsComment_cons]
        simp
      by_cases hbreak : rest.head? = some '\n'
      · rw [Layout.shifted_double_break hbreak, hskip, hskip, ih]
      · rw [Layout.shifted_break hbreak, hskip, hskip, endsComment_append_of_not_mem htabs, ih]
    · rw [Layout.shifted_of_ne hc, endsComment_cons, endsComment_cons, Layout.head?_shifted, ih]

end Lexical

namespace Comment

open Lexical

/-- A comment with its content. -/
def encode (content : List Char) : List Char := '/' :: '*' :: (content ++ ['*', '/'])

/-- Reads a comment from behind its opening: the content up to the first `*/`, and what follows. -/
def readBody : List Char → Option (List Char × List Char)
  | [] => none
  | c :: rest =>
    if c = '*' ∧ rest.head? = some '/' then some ([], rest.tail)
    else (readBody rest).map fun p => (c :: p.1, p.2)

/-- Reads a comment at the start of the characters. -/
def read : List Char → Option (List Char × List Char)
  | '/' :: '*' :: rest => readBody rest
  | _ => none

/-- Reading stops at the `*/` that follows the content if and only if there is none in it. -/
theorem readBody_append_iff (content rest : List Char) :
    readBody (content ++ '*' :: '/' :: rest) = some (content, rest) ↔
      endsComment content = false := by
  induction content with
  | nil => simp [readBody, endsComment, containsChars]
  | cons c more ih =>
    -- the first of the two characters behind the content is no slash
    have hhead : (more ++ '*' :: '/' :: rest).head? = some '/' ↔ more.head? = some '/' := by
      cases more with
      | nil => simp
      | cons next others => exact Iff.rfl
    simp only [List.cons_append, readBody, hhead, endsComment_cons]
    by_cases hend : c = '*' ∧ more.head? = some '/'
    · rw [if_pos hend, decide_eq_true hend]
      simp
    · rw [if_neg hend, decide_eq_false hend, Bool.false_or, ← ih]
      constructor
      · intro h
        obtain ⟨⟨inner, after⟩, hinner, heq⟩ := Option.map_eq_some_iff.1 h
        cases heq
        exact hinner
      · intro h
        rw [h]
        rfl

/-- A comment is read as its content, up to its own end, if and only if the content does not end
it earlier. -/
theorem read_encode_iff (content rest : List Char) :
    read (encode content ++ rest) = some (content, rest) ↔ endsComment content = false := by
  have hchars : encode content ++ rest = '/' :: '*' :: (content ++ '*' :: '/' :: rest) := by
    simp [encode]
  rw [hchars]
  exact readBody_append_iff content rest

/-- A comment behind a given text is read from its start. -/
theorem read_behind (front rest : String) :
    read ((front ++ rest).toList.drop front.length) = read rest.toList := by
  rw [String.toList_append, List.drop_left' String.length_toList]

/-- Indentation puts its tabs in front of a comment that starts a line, and shifts the content. -/
theorem indentFrom_encode (level : Nat) (fresh : Bool) (lead : Nat) (content : List Char) :
    Layout.indentFrom level fresh (List.replicate lead '\t' ++ encode content) =
      List.replicate ((if fresh then level else 0) + lead) '\t' ++
        encode (Layout.shifted level content) := by
  -- the tabs in front and the signs of the comment itself have no line breaks
  have hinside : Layout.indentFrom level false (List.replicate lead '\t' ++ encode content) =
      List.replicate lead '\t' ++ encode (Layout.shifted level content) := by
    have hchars : List.replicate lead '\t' ++ encode content =
        (List.replicate lead '\t' ++ '/' :: '*' :: content) ++ '*' :: ['/'] := by
      simp [encode]
    rw [hchars, Layout.indentFrom_inside (by decide), Layout.shifted_tabs,
      Layout.shifted_of_ne (by decide), Layout.shifted_of_ne (by decide),
      Layout.indentFrom_false_cons (by decide)]
    simp [encode]
  cases fresh with
  | false => simpa using hinside
  | true =>
    obtain ⟨first, hhead, hne⟩ :
        ∃ first, (List.replicate lead '\t' ++ encode content).head? = some first ∧
          first ≠ '\n' := by
      cases lead with
      | zero => exact ⟨'/', rfl, by decide⟩
      | succ lead => exact ⟨'\t', rfl, by decide⟩
    rw [Layout.indentFrom_true_of_ne hhead hne, hinside, ← List.append_assoc,
      List.replicate_append_replicate]
    rfl

end Comment

end BlockScribe
