import BlockScribe.Proofs.Target.Draft
import BlockScribe.Proofs.Target.Hygiene
import BlockScribe.Proofs.Text.Numerals

/-! # Initial values and list items

A list writes its items as they stand. The initial value of a variable goes another way: it becomes
a literal of an assignment that no project holds, and as such is written like an input of any
block, where a number has to pass as a decimal numeral to stand bare. Both ways give the same text,
but for null, which is an empty text as an initial value.

* `literalText?_ofValue`: the literal of a value is written as an item.
* `value_is_written_as_item`: so are the declarations, and the lines of a source that hold them.
-/

namespace BlockScribe

open Script

/-- The initial value of a variable is written as an item of a list, if it is not null. -/
theorem valueText_eq_itemText {value : Json} (h : value ≠ .null) :
    valueText value = itemText value := by
  cases value with
  | null => exact absurd rfl h
  | number n => exact render_number n
  | text s => rfl
  | bool b => rfl
  | list items => rfl
  | object members => rfl

/-- The literal of a value other than null is written as an item of a list. -/
theorem literalText?_ofValue {value : Json} (h : value ≠ .null) (scope : Scope) :
    literalText? scope (Literal.ofValue value) = some (itemText value) := by
  rw [← valueText_eq_itemText h]
  cases value with
  | _ => rfl

theorem renderDeclaration_of_value {value : Json} (h : value ≠ .null) (nested : Nested)
    (id name : String) (session : Session) :
    renderDeclaration nested (initialAssignment id ⟨name, value⟩) session =
      .ok (declarationWord session.scope.isStage ++ (session.scope.bind id name).1 ++ " = " ++
          itemText value)
        { session with scope := (session.scope.bind id name).2 } := by
  have hliteral := renderLiteral_run (initialAssignment id ⟨name, value⟩) (Literal.ofValue value)
    session
  rw [literalText?_ofValue h] at hliteral
  rw [renderDeclaration_initialAssignment, bind_of_ok hliteral, assign_run]
  have hstage := Scope.isStage_bind session.scope id name
  show EStateM.Result.ok
    (declarationWord (session.scope.bind id name).2.isStage ++ _ ++ _ ++ _) _ = _
  rw [hstage]
  rfl

theorem number_is_bare (n : Json.Number) :
    Numeral.isDecimal n.text.toList = true ∧ '"' ∉ n.text.toList := by
  have hdecimal : Numeral.isDecimal n.text.toList = true := by
    unfold Json.Number.text
    rw [String.toList_ofList]
    exact n.isDecimal_chars
  refine ⟨hdecimal, ?_⟩
  intro hquote
  have hpart := Lexical.numeralParts_of_isDecimal hdecimal '"' hquote
  revert hpart
  decide

/-- What belongs to an item of a list stands as far behind in the list of what belongs to the
items. -/
theorem exists_split_of_forall₂ {α β : Type} {related : α → β → Prop} {earlier later : List α}
    {item : α} {list : List β} (h : List.Forall₂ related (earlier ++ item :: later) list) :
    ∃ before found after, list = before ++ found :: after ∧ before.length = earlier.length ∧
      related item found := by
  induction earlier generalizing list with
  | nil =>
    obtain ⟨found, after, hfound, -, rfl⟩ := List.forall₂_cons_left_iff.1 h
    exact ⟨[], found, after, rfl, rfl, hfound⟩
  | cons first rest ih =>
    obtain ⟨head, tail, -, htail, rfl⟩ := List.forall₂_cons_left_iff.1 h
    obtain ⟨before, found, after, rfl, hlength, hfound⟩ := ih htail
    exact ⟨head :: before, found, after, rfl, by simp [hlength], hfound⟩

/-- In the source of a target, the declarations of its variables stand behind the header, in
order. -/
theorem exists_declaration_line {table : SignatureTable} {target : Target}
    {globals : Dict String String} {script : Script}
    (hscript : Script.ofTarget table target globals = .ok script)
    {earlier later : List (String × Variable)} {id : String} {v : Variable}
    (hentries : target.vars.entries = earlier ++ (id, v) :: later) :
    ∃ texts bound rest, texts.length = earlier.length ∧
      ((startScope target.isStage globals).bindAll target.rawNames).name? id = some bound ∧
      script.source = Layout.stack (header :: (texts ++
        (declarationWord target.isStage ++ bound ++ " = " ++ valueText v.value) :: rest)) := by
  obtain ⟨draft, finish, hdraft, hsource⟩ := ofTarget_eq_ok hscript
  obtain ⟨declared, registered, hcourse⟩ := course_of_draftTarget hdraft
  have hphases := hcourse.phases
  have hstage : declared.scope.isStage = target.isStage := by
    rw [hphases.declared_scope, (Scope.growsTo_bindAll _ _).isStage_eq, startScope_eq]
  have hdeclared := hphases.vars_declared
  rw [hentries] at hdeclared
  obtain ⟨before, d, after, hvars, hlength, hdeclares⟩ := exists_split_of_forall₂ hdeclared
  -- as many declarations stand in front of it as variables, so it has the value of this one
  have hvalues := hcourse.values.1
  rw [hvars, hentries, List.map_append, List.map_append] at hvalues
  have hparts := List.append_inj hvalues (by simp [hlength])
  have hvalue : d.value = valueText v.value := by
    simpa using congrArg List.head? hparts.2
  have htext : d.text = declarationWord target.isStage ++ d.name ++ " = " ++ valueText v.value := by
    unfold Declaration.text
    rw [hdeclares.word_eq, hstage, hvalue]
  have hname := hdeclares.name_eq
  rw [hphases.declared_scope] at hname
  refine ⟨before.map Declaration.text, d.name,
    after.map Declaration.text ++ draft.lists.map Declaration.text ++
      draft.procedures.map ProcedureDraft.text ++ draft.entries.map EntryDraft.text,
    by simp [hlength], hname, ?_⟩
  rw [hsource, ← htext]
  simp [Draft.source, Draft.parts, hvars]

/-- A value other than null is written alike as the initial value of a variable and as an item of a
list: in every declaration, and in the source of every target that declares the variable. A number
is written as it prints, as a decimal numeral and without quotes. -/
theorem value_is_written_as_item {value : Json} (hvalue : value ≠ .null) :
    (∀ (nested : Nested) (id name : String) (session : Session),
      renderDeclaration nested (initialAssignment id ⟨name, value⟩) session =
        .ok (declarationWord session.scope.isStage ++ (session.scope.bind id name).1 ++ " = " ++
            itemText value)
          { session with scope := (session.scope.bind id name).2 }) ∧
    (∀ (table : SignatureTable) (target : Target) (globals : Dict String String) (script : Script),
      Script.ofTarget table target globals = .ok script →
      ∀ (earlier later : List (String × Variable)) (id name : String),
        target.vars.entries = earlier ++ (id, ⟨name, value⟩) :: later →
        ∃ texts bound rest, texts.length = earlier.length ∧
          ((startScope target.isStage globals).bindAll target.rawNames).name? id = some bound ∧
          script.source = Layout.stack (header :: (texts ++
            (declarationWord target.isStage ++ bound ++ " = " ++ itemText value) :: rest))) ∧
    (∀ n, value = .number n →
      itemText value = n.text ∧ Numeral.isDecimal n.text.toList = true ∧ '"' ∉ n.text.toList) := by
  refine ⟨renderDeclaration_of_value hvalue, ?_, ?_⟩
  · intro table target globals script hscript earlier later id name hentries
    have hline := exists_declaration_line hscript hentries
    rwa [valueText_eq_itemText hvalue] at hline
  · rintro n rfl
    exact ⟨rfl, number_is_bare n⟩

-- null is an empty text as an initial value, and its name as an item
example : valueText .null = "\"\"" ∧ itemText .null = "\"null\"" := by decide +kernel

/-- Ten to the power of twenty-one, as a double. -/
def sextillion : Json := .number (.real ⟨false, 7629394531250000, 17⟩)

/-- A target that declares a variable with the number of grains in the desert, behind another
one. -/
def desert : Target where
  name := "Desert"
  isStage := false
  blocks := .empty
  vars := Dict.ofList [("d", ⟨"dunes", .null⟩), ("g", ⟨"grains", sextillion⟩)]
  lists := Dict.ofList [("l", ⟨"counts", [sextillion]⟩)]
  costumes := []
  sounds := []

def desertScript : Script :=
  ⟨"Desert", false, Layout.stack [header, "var dunes = \"\"", "var grains = 1e+21",
    "list counts = \x7b", "\t1e+21", "\x7d"], []⟩

/-- The number of grains is declared as the list writes it, with its exponent and bare. -/
theorem grains_are_written_as_item :
    sextillion ≠ .null ∧ Script.ofTarget .empty desert .empty = .ok desertScript ∧
    desert.vars.entries = [("d", ⟨"dunes", .null⟩)] ++ ("g", ⟨"grains", sextillion⟩) :: [] ∧
    itemText sextillion = "1e+21" ∧
    (∃ texts bound rest, texts.length = 1 ∧
      ((startScope false .empty).bindAll desert.rawNames).name? "g" = some bound ∧
      desertScript.source = Layout.stack (header :: (texts ++
        (declarationWord false ++ bound ++ " = " ++ itemText sextillion) :: rest))) := by
  have hvalue : sextillion ≠ .null := by
    intro hnull
    cases hnull
  have hscript : Script.ofTarget .empty desert .empty = .ok desertScript := by
    decide +kernel
  have hentries : desert.vars.entries =
      [("d", ⟨"dunes", .null⟩)] ++ ("g", ⟨"grains", sextillion⟩) :: [] := rfl
  refine ⟨hvalue, hscript, hentries, by decide +kernel, ?_⟩
  exact (value_is_written_as_item hvalue).2.1 .empty desert .empty desertScript hscript _ _ _ _
    hentries

end BlockScribe
