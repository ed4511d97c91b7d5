import BlockScribe.Text.Blank
import Mathlib.Data.List.DropRight

/-! # What trimming leaves

Of a text, trimming leaves the part between blanks that neither begins nor ends with one. There is
only one such part (`trims_iff`), whichever end is looked at first.

* `span_front`: of a class of characters, those at the front are taken, up to the first other one.
* `trimChars_eq_nil_iff`: nothing is left of blanks alone.
-/

namespace BlockScribe

/-- Of characters of a class and something behind them that does not begin with one, the characters
of the class are taken. -/
theorem span_front {p : Char → Bool} {front rest : List Char} (hfront : ∀ c ∈ front, p c = true)
    (hrest : ∀ c ∈ rest.head?, p c = false) :
    (front ++ rest).takeWhile p = front ∧ (front ++ rest).dropWhile p = rest := by
  rw [List.takeWhile_append_of_pos hfront, List.dropWhile_append_of_pos hfront]
  cases rest with
  | nil => simp
  | cons first others =>
    have hfirst : p first = false := hrest first rfl
    simp [hfirst]

/-- What is left of characters without the blanks at both ends. -/
structure Trims (cs core : List Char) : Prop where
  around : ∃ front back, cs = front ++ (core ++ back) ∧ (∀ c ∈ front, isBlank c = true) ∧
    ∀ c ∈ back, isBlank c = true
  first : ∀ c ∈ core.head?, isBlank c = false
  last : ∀ c ∈ core.getLast?, isBlank c = false

theorem isBlank_head_dropWhile {cs rest : List Char} {c : Char}
    (h : cs.dropWhile isBlank = c :: rest) : isBlank c = false := by
  have hfirst := List.head?_dropWhile_not isBlank cs
  rw [h] at hfirst
  exact hfirst

/-- Of blanks alone nothing is left. -/
theorem trimChars_eq_nil_iff {cs : List Char} :
    trimChars cs = [] ↔ ∀ c ∈ cs, isBlank c = true := by
  have hends : trimChars cs = [] ↔ ∀ c ∈ cs.dropWhile isBlank, isBlank c = true :=
    List.rdropWhile_eq_nil_iff
  rw [hends]
  constructor
  · intro h
    -- what is not dropped would begin with a character that is no blank
    have hnone : cs.dropWhile isBlank = [] := by
      cases hdrop : cs.dropWhile isBlank with
      | nil => rfl
      | cons first rest =>
        have hblank : isBlank first = true := by
          apply h
          rw [hdrop]
          exact List.mem_cons_self
        rw [isBlank_head_dropWhile hdrop] at hblank
        cases hblank
    exact List.dropWhile_eq_nil_iff.1 hnone
  · intro h c hc
    exact h c ((List.dropWhile_suffix isBlank).subset hc)

theorem trims_trimChars (cs : List Char) : Trims cs (trimChars cs) := by
  have hback : trimChars cs ++ (cs.dropWhile isBlank).rtakeWhile isBlank =
      cs.dropWhile isBlank := List.rdropWhile_append_rtakeWhile
  refine ⟨⟨cs.takeWhile isBlank, (cs.dropWhile isBlank).rtakeWhile isBlank, ?_, ?_, ?_⟩, ?_, ?_⟩
  · rw [hback, List.takeWhile_append_dropWhile]
  · exact List.all_eq_true.1 List.all_takeWhile
  · intro c hc
    exact List.mem_rtakeWhile_imp hc
  · intro c hc
    obtain ⟨rest, hrest⟩ := List.head?_eq_some_iff.1 hc
    rw [hrest, List.cons_append] at hback
    exact isBlank_head_dropWhile hback.symm
  · intro c hc
    obtain ⟨hne, rfl⟩ := List.mem_getLast?_eq_getLast hc
    have hlast := List.rdropWhile_last_not isBlank (cs.dropWhile isBlank) hne
    exact Bool.eq_false_iff.2 hlast

/-- The part between blanks that neither begins nor ends with one is what trimming leaves. -/
theorem trims_iff {cs core : List Char} : Trims cs core ↔ trimChars cs = core := by
  constructor
  · rintro ⟨⟨front, back, rfl, hfront, hback⟩, hfirst, hlast⟩
    by_cases hnone : core = []
    · rw [hnone, trimChars_eq_nil_iff, List.nil_append, List.forall_mem_append]
      exact ⟨hfront, hback⟩
    · have hhead : (core ++ back).head? = core.head? := List.head?_append_of_ne_nil _ hnone
      have hdrop := (span_front hfront (by rwa [hhead])).2
      -- the same at the other end, read backwards
      have hrest : ∀ c ∈ back.reverse, isBlank c = true := by
        intro c hc
        exact hback c (List.mem_reverse.1 hc)
      have hrdrop := (span_front hrest (by rwa [List.head?_reverse])).2
      unfold trimChars
      rw [hdrop, List.reverse_append, hrdrop, List.reverse_reverse]
  · rintro rfl
    exact trims_trimChars cs

/-- A text without blanks has none at its ends. -/
theorem trimChars_of_not_blank {cs : List Char} (h : ∀ c ∈ cs, isBlank c = false) :
    trimChars cs = cs := by
  rw [← trims_iff]
  have hnone : ∀ c ∈ ([] : List Char), isBlank c = true := by
    intro c hc
    cases hc
  refine ⟨⟨[], [], by simp, hnone, hnone⟩, ?_, ?_⟩
  · intro c hc
    exact h c (List.mem_of_head? hc)
  · intro c hc
    exact h c (List.mem_of_getLast? hc)

end BlockScribe
