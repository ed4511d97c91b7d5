import BlockScribe.Text.Quoted
import Mathlib.Logic.Function.Basic

/-! # Literals that end where they should

A literal holds any text at all, so only the escaping keeps it apart from what follows. Escaping can
be done by two replacements, one after the other: the second one passes over the backslashes of the
first, since it looks for quotes (`replaceEach_replaceEach`). In the other order the backslash in
front of a quote would be doubled, and the quote would end the literal.

* `decode_append`: a reader that has met the end of a literal looks no further.
* `quote_append_inj`: a literal and what follows it are told by the whole.
* `eq_empty_of_decode_front`: nothing shorter than a literal reads as one.
-/

namespace BlockScribe.Quoted

/-! ## Two replacements -/

/-- Puts `replacement` in the place of each occurrence of a character. -/
def replaceEach (c : Char) (replacement cs : List Char) : List Char :=
  cs.flatMap fun d => if d = c then replacement else [d]

theorem replaceEach_cons (c d : Char) (replacement cs : List Char) :
    replaceEach c replacement (d :: cs) =
      (if d = c then replacement else [d]) ++ replaceEach c replacement cs := by
  simp [replaceEach]

/-- First the backslashes are doubled, then the quotes get one in front: together this escapes. -/
theorem replaceEach_replaceEach (cs : List Char) :
    replaceEach '"' ['\\', '"'] (replaceEach '\\' ['\\', '\\'] cs) = escape cs := by
  induction cs with
  | nil => rfl
  | cons c rest ih =>
    rw [replaceEach_cons, escape_cons, ← ih]
    by_cases hslash : c = '\\'
    · -- neither of the two backslashes is a quote
      simp [hslash, replaceEach_cons]
    · by_cases hquote : c = '"'
      · simp [hquote, replaceEach_cons]
      · simp [hslash, hquote, replaceEach_cons]

example :
    decodeBody (replaceEach '\\' ['\\', '\\'] (replaceEach '"' ['\\', '"'] ['"', 'a']) ++ ['"']) =
      some (['\\'], ['a', '"']) := by
  decide

/-! ## Where a literal ends -/

/-- A character that neither ends the literal nor takes the next one along is read as it is. -/
theorem decodeBody_cons {c : Char} {rest : List Char} (hquote : c ≠ '"')
    (hescape : c = '\\' → rest.head? ≠ some '\\' ∧ rest.head? ≠ some '"') :
    decodeBody (c :: rest) = (decodeBody rest).map fun p => (c :: p.1, p.2) := by
  apply decodeBody.eq_5
  · exact hquote
  · rintro tail hslash rfl
    exact (hescape hslash).1 rfl
  · rintro tail hslash rfl
    exact (hescape hslash).2 rfl

/-- Behind the closing quote nothing is read. -/
theorem decodeBody_append {cs text rest : List Char} (h : decodeBody cs = some (text, rest))
    (following : List Char) : decodeBody (cs ++ following) = some (text, rest ++ following) := by
  fun_induction decodeBody cs generalizing text rest with
  | case1 => cases h
  | case2 tail =>
    cases h
    simp [decodeBody]
  | case3 tail ih | case4 tail ih =>
    obtain ⟨⟨inner, left⟩, hinner, heq⟩ := Option.map_eq_some_iff.1 h
    cases heq
    simp [decodeBody, ih hinner]
  | case5 c tail hquote hslash hescaped ih =>
    obtain ⟨⟨inner, left⟩, hinner, heq⟩ := Option.map_eq_some_iff.1 h
    cases heq
    -- the text is not over, so what follows it does not stand behind the character
    have hhead : (tail ++ following).head? = tail.head? := by
      cases tail with
      | nil => cases hinner
      | cons d others => rfl
    have hescape : c = '\\' → tail.head? ≠ some '\\' ∧ tail.head? ≠ some '"' := by
      intro hc
      constructor
      · intro hsome
        obtain ⟨others, hothers⟩ := List.head?_eq_some_iff.1 hsome
        exact hslash others hc hothers
      · intro hsome
        obtain ⟨others, hothers⟩ := List.head?_eq_some_iff.1 hsome
        exact hescaped others hc hothers
    rw [List.cons_append, decodeBody_cons hquote (by rwa [hhead]), ih hinner]
    rfl

theorem decode_append {cs text rest : List Char} (h : decode cs = some (text, rest))
    (following : List Char) : decode (cs ++ following) = some (text, rest ++ following) := by
  unfold decode at h
  split at h
  · exact decodeBody_append h following
  · cases h

/-! ## Literals of texts -/

theorem toList_quote (text : String) : (quote text).toList = encode text.toList := by
  rw [quote, String.toList_ofList]

theorem decode_quote_append (text following : String) :
    decode (quote text ++ following).toList = some (text.toList, following.toList) := by
  rw [String.toList_append, toList_quote]
  exact decode_encode text.toList following.toList

/-- A literal and what follows it are told by the whole. -/
theorem quote_append_inj {text other following rest : String}
    (h : quote text ++ following = quote other ++ rest) : text = other ∧ following = rest := by
  have hread := decode_quote_append text following
  rw [h, decode_quote_append] at hread
  obtain ⟨htext, hrest⟩ := Prod.mk.inj (Option.some.inj hread)
  exact ⟨(String.toList_injective htext).symm, (String.toList_injective hrest).symm⟩

theorem quote_injective : Function.Injective quote := by
  intro text other h
  have hwhole : quote text ++ "" = quote other ++ "" := by rw [h]
  exact (quote_append_inj hwhole).1

/-- A front part of a literal that reads as a literal is all of it. -/
theorem eq_empty_of_decode_front {text front back : String} (h : quote text = front ++ back)
    (hfront : (decode front.toList).isSome = true) : back = "" := by
  obtain ⟨⟨found, left⟩, hfound⟩ := Option.isSome_iff_exists.1 hfront
  -- the reader would find the same literal in the whole, and leave at least the back of it
  have hwhole := decode_append hfound back.toList
  have hread := decode_quote_append text ""
  rw [String.append_empty, h, String.toList_append, hwhole] at hread
  obtain ⟨-, hleft⟩ := Prod.mk.inj (Option.some.inj hread)
  exact String.toList_eq_nil_iff.1 (List.append_eq_nil_iff.1 hleft).2

/-- Whatever follows a literal, a reader gets exactly its text and leaves exactly what follows. So
no two texts have the same literal, and no text ends its literal before the closing quote: no proper
front part of a literal reads as one. The literal is made by two replacements. -/
theorem quoted_text_is_self_delimiting (text following : String) :
    decode (quote text ++ following).toList = some (text.toList, following.toList) ∧
    (∀ other rest, quote text ++ following = quote other ++ rest →
      text = other ∧ following = rest) ∧
    Function.Injective quote ∧
    (∀ front back, quote text = front ++ back → (decode front.toList).isSome = true → back = "") ∧
    (quote text).toList = '"' ::
      (replaceEach '"' ['\\', '"'] (replaceEach '\\' ['\\', '\\'] text.toList) ++ ['"']) := by
  refine ⟨decode_quote_append text following, ?_, quote_injective, ?_, ?_⟩
  · intro other rest h
    exact quote_append_inj h
  · intro front back h hfront
    exact eq_empty_of_decode_front h hfront
  · rw [replaceEach_replaceEach, toList_quote, encode]

end BlockScribe.Quoted
