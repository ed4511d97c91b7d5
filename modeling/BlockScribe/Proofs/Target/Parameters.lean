import BlockScribe.Proofs.Target.Predeclaration

/-! # The names of parameters

A parameter gets its name from its raw name alone, so the head of a procedure and the reporters in
its body agree without a scope between them. The price is that no parameter is renamed against
another one: two arguments have one name when their raw names are spelled alike.

* `Identifier.SpelledAlike`: the ways in which two raw names come to the same parameter, told
  character by character (`parameter_eq_iff`).
* `parameters_distinct_iff_spelled_apart`: the parameters of a registered procedure are different
  if and only if no two of its arguments are spelled alike.
-/

namespace BlockScribe

open Script

namespace Identifier

/-! ## Raw names as bare words -/

/-- Whether a masked name gets an underscore in front. -/
def needsLead : List Char → Bool
  | [] => true
  | c :: _ => c.isDigit

theorem lead_eq (cs : List Char) : lead cs = if needsLead cs then '_' :: cs else cs := by
  cases cs with
  | nil => rfl
  | cons c rest => rfl

theorem toList_ofRaw (raw : String) : (ofRaw raw).toList = lead (mask raw.toList) := by
  simp [ofRaw]

/-- A word with an underscore in front needs no other one. -/
theorem needsLead_underscore (cs : List Char) : needsLead ('_' :: cs) = false := rfl

/-- Two masked names come to the same word if they are the same, or if one of them has the
underscore that the other one gets. -/
theorem lead_eq_iff (cs ds : List Char) :
    lead cs = lead ds ↔ cs = ds ∨ needsLead cs = true ∧ ds = '_' :: cs ∨
      needsLead ds = true ∧ cs = '_' :: ds := by
  rw [lead_eq, lead_eq]
  constructor
  · intro h
    -- an underscore in front is added or not, on either side
    split at h
    · split at h
      · exact .inl (List.cons.inj h).2
      · exact .inr (.inl ⟨‹_›, h.symm⟩)
    · split at h
      · exact .inr (.inr ⟨‹_›, h⟩)
      · exact .inl h
  · rintro (rfl | ⟨hneeds, rfl⟩ | ⟨hneeds, rfl⟩)
    · rfl
    · rw [if_pos hneeds, needsLead_underscore]
      rfl
    · rw [if_pos hneeds, needsLead_underscore]
      rfl

/-- A masked name without underscores is the name itself. -/
theorem mask_of_not_mem {cs : List Char} (h : '_' ∉ mask cs) : mask cs = cs := by
  have hpart : ∀ c ∈ cs, isPart c = true := by
    intro c hc
    by_contra hnot
    exact h (List.mem_map.2 ⟨c, hc, if_neg hnot⟩)
  refine (List.map_congr_left fun c hc => ?_).trans (List.map_id cs)
  exact if_pos (hpart c hc)

/-- A word without underscores is the raw name of nothing but itself. -/
theorem eq_of_ofRaw_eq {raw word : String} (hword : '_' ∉ word.toList) (h : ofRaw raw = word) :
    raw = word := by
  have hlist : lead (mask raw.toList) = word.toList := by
    rw [← toList_ofRaw, h]
  rw [lead_eq] at hlist
  split at hlist
  · rw [← hlist] at hword
    exact absurd List.mem_cons_self hword
  · rw [← hlist] at hword
    rw [mask_of_not_mem hword] at hlist
    exact String.toList_injective hlist

/-! ## Reserved words -/

/-- What matters of the reserved words: they are bare and have no underscore, neither in them nor
behind another one. -/
theorem reserved_plain : ∀ word ∈ reserved, ofRaw word = word ∧ '_' ∉ word.toList ∧
    needsLead word.toList = false ∧ word ++ "_" ∉ reserved := by
  decide +kernel

/-- A name spelled as a reserved word is that word. -/
theorem ofRaw_mem_reserved_iff (raw : String) : ofRaw raw ∈ reserved ↔ raw ∈ reserved := by
  constructor
  · intro h
    have hplain := reserved_plain _ h
    rwa [← eq_of_ofRaw_eq hplain.2.1 rfl] at h
  · intro h
    rwa [(reserved_plain raw h).1]

/-- A reserved word gets one underscore behind it, and every other name is a parameter as it is
spelled. -/
theorem parameter_eq (raw : String) :
    parameter raw = if raw ∈ reserved then raw ++ "_" else ofRaw raw := by
  unfold parameter fresh
  split
  · rename_i hword
    obtain ⟨hself, -, -, hnext⟩ := reserved_plain raw hword
    rw [hself]
    -- the first underscore is enough
    show extend _ 18 raw = raw ++ "_"
    simp [extend, hword, hnext]
  · rename_i hword
    rw [← ofRaw_mem_reserved_iff] at hword
    show extend _ 18 (ofRaw raw) = ofRaw raw
    simp [extend, hword]

/-- The underscore behind a reserved word is met by a name that is spelled with it. -/
theorem ofRaw_eq_append_iff {word : String} (hword : word ∈ reserved) (raw : String) :
    ofRaw raw = word ++ "_" ↔ mask raw.toList = word.toList ++ ['_'] := by
  obtain ⟨-, hplain, hlead, -⟩ := reserved_plain word hword
  have hwhole : needsLead (word.toList ++ ['_']) = false := by
    cases hchars : word.toList with
    | nil => simp [hchars, needsLead] at hlead
    | cons c rest => simpa [hchars, needsLead] using hlead
  have hiff : ofRaw raw = word ++ "_" ↔ lead (mask raw.toList) = word.toList ++ ['_'] := by
    rw [← String.toList_inj, toList_ofRaw, String.toList_append]
    rfl
  rw [hiff, lead_eq]
  constructor
  · intro h
    split at h
    · -- the first character of the word would be an underscore
      cases hchars : word.toList with
      | nil => simp [hchars, needsLead] at hlead
      | cons c rest =>
        rw [hchars] at h hplain
        rw [List.cons_append] at h
        rw [← (List.cons.inj h).1] at hplain
        exact absurd List.mem_cons_self hplain
    · exact h
  · intro h
    rw [h, hwhole]
    rfl

/-! ## Names that are spelled alike -/

/-- The ways in which a raw name comes to the parameter of another one: both are masked alike; or
the first one gets an underscore in front, and the second one has it; or the first one is a
reserved word, and the second one has the underscore that the word gets behind it. -/
inductive ComesTo (first second : String) : Prop
  | masked (h : mask first.toList = mask second.toList)
  | led (hneeds : needsLead (mask first.toList) = true)
    (h : mask second.toList = '_' :: mask first.toList)
  | reserved (hword : first ∈ reserved) (h : mask second.toList = first.toList ++ ['_'])

/-- Two raw names that come to one parameter. -/
def SpelledAlike (first second : String) : Prop := ComesTo first second ∨ ComesTo second first

theorem ofRaw_eq_iff (first second : String) :
    ofRaw first = ofRaw second ↔ mask first.toList = mask second.toList ∨
      needsLead (mask first.toList) = true ∧ mask second.toList = '_' :: mask first.toList ∨
      needsLead (mask second.toList) = true ∧ mask first.toList = '_' :: mask second.toList := by
  rw [← String.toList_inj, toList_ofRaw, toList_ofRaw, lead_eq_iff]

theorem ComesTo.parameter_eq {first second : String} (h : ComesTo first second) :
    parameter first = parameter second := by
  have hsame : ofRaw first = ofRaw second → parameter first = parameter second := by
    intro hraw
    unfold parameter
    rw [hraw]
  cases h with
  | masked h => exact hsame ((ofRaw_eq_iff first second).2 (.inl h))
  | led hneeds h => exact hsame ((ofRaw_eq_iff first second).2 (.inr (.inl ⟨hneeds, h⟩)))
  | reserved hword h =>
    have hsecond := (ofRaw_eq_append_iff hword second).2 h
    have hnot : second ∉ Identifier.reserved := by
      rw [← ofRaw_mem_reserved_iff, hsecond]
      exact (reserved_plain first hword).2.2.2
    rw [Identifier.parameter_eq, Identifier.parameter_eq, if_pos hword, if_neg hnot, hsecond]

/-- Two raw names come to the same parameter if and only if they are spelled alike. -/
theorem parameter_eq_iff (first second : String) :
    parameter first = parameter second ↔ SpelledAlike first second := by
  constructor
  · intro h
    -- without reserved words the two are equal as raw names are
    have hraw : ofRaw first = ofRaw second → SpelledAlike first second := by
      intro hsame
      rcases (ofRaw_eq_iff first second).1 hsame with hmask | ⟨hneeds, hled⟩ | ⟨hneeds, hled⟩
      · exact .inl (.masked hmask)
      · exact .inl (.led hneeds hled)
      · exact .inr (.led hneeds hled)
    rw [parameter_eq, parameter_eq] at h
    -- a reserved word gets one underscore more, which a plain name may have itself
    by_cases hfirst : first ∈ reserved
    · by_cases hsecond : second ∈ reserved
      · rw [if_pos hfirst, if_pos hsecond, String.append_left_inj] at h
        exact hraw (congrArg ofRaw h)
      · rw [if_pos hfirst, if_neg hsecond] at h
        exact .inl (.reserved hfirst ((ofRaw_eq_append_iff hfirst second).1 h.symm))
    · by_cases hsecond : second ∈ reserved
      · rw [if_neg hfirst, if_pos hsecond] at h
        exact .inr (.reserved hsecond ((ofRaw_eq_append_iff hsecond first).1 h))
      · rw [if_neg hfirst, if_neg hsecond] at h
        exact hraw h
  · rintro (h | h)
    · exact h.parameter_eq
    · exact h.parameter_eq.symm

instance (first second : String) : Decidable (SpelledAlike first second) :=
  decidable_of_iff _ (parameter_eq_iff first second)

end Identifier

/-! ## Heads and reporters -/

/-- A block reports the argument with a raw name. -/
structure Block.Reports (block : Block) (raw : String) : Prop where
  isReporter : block.isArgumentReporter = true
  value_eq : block.fieldValue? "VALUE" = some raw

/-- No opcode with a form of its own is that of a reporter. -/
theorem Block.form_of_reports {block : Block} {raw : String} (h : block.Reports raw)
    (table : SignatureTable) (scope : Scope) (headOnly : Bool) :
    block.form table scope headOnly = .parameter raw := by
  have hplain : ∀ word ∈ ["operator_notequal", "procedures_return", "procedures_call",
      "data_setvariableto"], "argument_reporter_".toList.isPrefixOf word.toList = false := by
    decide
  -- reporters are told by a prefix that none of the four opcodes has
  have hne : ∀ word ∈ ["operator_notequal", "procedures_return", "procedures_call",
      "data_setvariableto"], block.opcode ≠ word := by
    intro word hword hopcode
    have hreporter := h.isReporter
    unfold Block.isArgumentReporter at hreporter
    rw [hopcode, hplain word hword] at hreporter
    cases hreporter
  simp only [List.forall_mem_cons] at hne
  obtain ⟨hcomparison, hanswer, hcall, hassignment, -⟩ := hne
  unfold Block.form
  rw [if_neg hcomparison, if_neg hanswer, if_neg hcall, if_neg hassignment, if_pos h.isReporter,
    h.value_eq]
  rfl

/-- A reporter is written as the parameter of its raw name, whatever the scope is. -/
theorem renderBlock_of_reports {block : Block} {raw : String} (h : block.Reports raw)
    (table : SignatureTable) (nested : Nested) (headOnly : Bool) (session : Session) :
    renderBlock table nested headOnly block session = .ok (Identifier.parameter raw) session := by
  show renderForm nested block (block.form table session.scope headOnly) session = _
  rw [Block.form_of_reports h]
  rfl

/-- With as many names as ids, every name is a parameter. -/
theorem parameters_eq_map {procedure : Procedure}
    (hlength : procedure.argumentNames.length = procedure.arguments.length) :
    (parameters procedure).map Prod.snd =
      procedure.argumentNames.map Identifier.parameter := by
  unfold parameters
  rw [List.map_map]
  have hnames : (procedure.arguments.zip procedure.argumentNames).map Prod.snd =
      procedure.argumentNames := List.map_snd_zip hlength.le
  calc (procedure.arguments.zip procedure.argumentNames).map
        (Prod.snd ∘ fun p => (p.1, Identifier.parameter p.2))
      = ((procedure.arguments.zip procedure.argumentNames).map Prod.snd).map
          Identifier.parameter := by rw [List.map_map]; rfl
    _ = procedure.argumentNames.map Identifier.parameter := by rw [hnames]

/-- The head of a written procedure lists its parameters. -/
theorem exists_body_of_renderProcedure {nested : Nested} {procedure : Procedure}
    {definition : Block} {before after : Session} {text : String}
    (h : renderProcedure nested procedure definition before = .ok text after) :
    ∃ body, text = (if procedure.warp then "warp " else "") ++ "fn " ++ procedure.name ++ "(" ++
      ", ".intercalate ((parameters procedure).map Prod.snd) ++ ")" ++ " " ++
      Layout.braced body := by
  unfold renderProcedure at h
  rcases exists_of_bind_eq_ok h with ⟨body, between, -, h⟩
  cases h
  exact ⟨body, rfl⟩

/-- The head of a registered procedure lists the parameters of its arguments in order; they are
different if and only if no two of the arguments are spelled alike. A reporter of an argument is
written as the parameter in the head, so the reporters of two arguments are written alike if and
only if the arguments are spelled alike. -/
theorem parameters_distinct_iff_spelled_apart {blocks : Dict String Block}
    {session registered : Session} (hregisters : predeclare blocks session = .ok () registered)
    (hstart : session.scope.procedures = .empty) {proccode : String} {procedure : Procedure}
    (hprocedure : registered.scope.procedure? proccode = some procedure) :
    (∀ nested definition before text after,
      renderProcedure nested procedure definition before = .ok text after →
      ∃ body, text = (if procedure.warp then "warp " else "") ++ "fn " ++ procedure.name ++ "(" ++
        ", ".intercalate (procedure.argumentNames.map Identifier.parameter) ++ ")" ++ " " ++
        Layout.braced body) ∧
    ((procedure.argumentNames.map Identifier.parameter).Nodup ↔
      procedure.argumentNames.Pairwise fun first second =>
        ¬ Identifier.SpelledAlike first second) ∧
    ∀ first ∈ procedure.argumentNames, ∀ second ∈ procedure.argumentNames,
      ∀ reporter other : Block, reporter.Reports first → other.Reports second →
      ∀ table nested headOnly before, ∃ text twin,
        renderBlock table nested headOnly reporter before = .ok text before ∧
        renderBlock table nested headOnly other before = .ok twin before ∧
        text = Identifier.parameter first ∧
        (text = twin ↔ Identifier.SpelledAlike first second) := by
  rcases registered_from_of_predeclareAll hregisters hstart hprocedure with
    ⟨definition, prototype, -, hread, hfrom⟩
  -- ids and names come from one prototype, so no name is dropped by the pairing
  have hlength := hfrom.length_eq hread
  refine ⟨?_, ?_, ?_⟩
  · intro nested definition before text after htext
    rw [← parameters_eq_map hlength]
    exact exists_body_of_renderProcedure htext
  · unfold List.Nodup
    rw [List.pairwise_map]
    simp only [ne_eq, Identifier.parameter_eq_iff]
  · intro first _ second _ reporter other hreporter hother table nested headOnly before
    exact ⟨_, _, renderBlock_of_reports hreporter table nested headOnly before,
      renderBlock_of_reports hother table nested headOnly before, rfl,
      Identifier.parameter_eq_iff first second⟩

/-- A table with two plain blocks. -/
def speechTable : SignatureTable :=
  Dict.ofList [("looks_say", ⟨["MESSAGE"], .plain⟩), ("looks_think", ⟨["MESSAGE"], .plain⟩)]

/-- The block that reports an argument of the painter. -/
def painterReporter (id raw : String) : Block :=
  ⟨id, "argument_reporter_string_number", none, .empty, Dict.ofList [("VALUE", ⟨raw, none⟩)],
    false, false, none⟩

/-- A target with a procedure whose two arguments are spelled alike, and one whose arguments need
an underscore in front, behind and in between. -/
def painter : Target where
  name := "Painter"
  isStage := false
  blocks := Dict.ofList [
    ("blend", ⟨"blend", "procedures_definition", some "say",
      Dict.ofList [("custom_block", .block "blend type")], .empty, false, true, none⟩),
    ("blend type", ⟨"blend type", "procedures_prototype", none, .empty, .empty, true, false,
      some ⟨some "blend %s %s", some "[\"p\",\"q\"]", some "[\"a b\",\"a-b\"]", false⟩⟩),
    ("say", ⟨"say", "looks_say", some "think", Dict.ofList [("MESSAGE", .block "first")], .empty,
      false, false, none⟩),
    ("first", painterReporter "first" "a b"),
    ("think", ⟨"think", "looks_think", none, Dict.ofList [("MESSAGE", .block "second")], .empty,
      false, false, none⟩),
    ("second", painterReporter "second" "a-b"),
    ("mix", ⟨"mix", "procedures_definition", none,
      Dict.ofList [("custom_block", .block "mix type")], .empty, false, true, none⟩),
    ("mix type", ⟨"mix type", "procedures_prototype", none, .empty, .empty, true, false,
      some ⟨some "mix %s %s %s", some "[\"p\",\"q\",\"r\"]",
        some "[\"3d\",\"if\",\"a b\"]", true⟩⟩)]
  vars := .empty
  lists := .empty
  costumes := []
  sounds := []

def painterScript : Script :=
  ⟨"Painter", false, Layout.stack [header,
    "fn blend(a_b, a_b) \x7b", "\tlooks_say(a_b)", "\tlooks_think(a_b)", "\x7d",
    "warp fn mix(_3d, if_, a_b) \x7b", "", "\x7d"], []⟩

/-- The two arguments of the first procedure have different raw names and one parameter, in the head
and where they are reported. -/
theorem painter_parameters_coincide :
    Script.ofTarget speechTable painter .empty = .ok painterScript ∧
    ∃ registered procedure, predeclare painter.blocks ⟨Scope.new false, []⟩ = .ok () registered ∧
      registered.scope.procedure? "blend %s %s" = some procedure ∧
      procedure.argumentNames.Nodup ∧ ¬ ((parameters procedure).map Prod.snd).Nodup ∧
      "a b" ∈ procedure.argumentNames ∧ "a-b" ∈ procedure.argumentNames ∧
      (painterReporter "first" "a b").Reports "a b" ∧
      (painterReporter "second" "a-b").Reports "a-b" ∧
      ∀ table nested headOnly before,
        renderBlock table nested headOnly (painterReporter "first" "a b") before =
          renderBlock table nested headOnly (painterReporter "second" "a-b") before := by
  have hscript : Script.ofTarget speechTable painter .empty = .ok painterScript := by
    decide +kernel
  have hregisters : (match predeclare painter.blocks ⟨Scope.new false, []⟩ with
      | .ok _ registered => registered.scope.procedure? "blend %s %s"
      | .error _ _ => none) =
      some ⟨"blend", "blend", ["p", "q"], ["a b", "a-b"], false⟩ := by
    decide +kernel
  have hfirst : (painterReporter "first" "a b").Reports "a b" := ⟨by decide, by decide⟩
  have hsecond : (painterReporter "second" "a-b").Reports "a-b" := ⟨by decide, by decide⟩
  -- blanks and dashes are both masked
  have hsame : Identifier.parameter "a b" = Identifier.parameter "a-b" := by
    decide +kernel
  refine ⟨hscript, ?_⟩
  cases hrun : predeclare painter.blocks ⟨Scope.new false, []⟩ with
  | error error after =>
    rw [hrun] at hregisters
    cases hregisters
  | ok _ registered =>
    rw [hrun] at hregisters
    refine ⟨registered, _, rfl, hregisters, by decide, by decide +kernel, by decide, by decide,
      hfirst, hsecond, ?_⟩
    intro table nested headOnly before
    rw [renderBlock_of_reports hfirst, renderBlock_of_reports hsecond, hsame]

/-- The arguments of the second procedure are spelled apart, so its parameters are different. -/
theorem mix_parameters_are_distinct :
    (Scope.new false).procedures = .empty ∧
    ∃ registered procedure, predeclare painter.blocks ⟨Scope.new false, []⟩ = .ok () registered ∧
      registered.scope.procedure? "mix %s %s %s" = some procedure ∧
      procedure.argumentNames = ["3d", "if", "a b"] ∧
      procedure.argumentNames.map Identifier.parameter = ["_3d", "if_", "a_b"] ∧
      (procedure.argumentNames.map Identifier.parameter).Nodup := by
  have hregisters : (match predeclare painter.blocks ⟨Scope.new false, []⟩ with
      | .ok _ registered => registered.scope.procedure? "mix %s %s %s"
      | .error _ _ => none) =
      some ⟨"mix", "mix", ["p", "q", "r"], ["3d", "if", "a b"], true⟩ := by
    decide +kernel
  cases hrun : predeclare painter.blocks ⟨Scope.new false, []⟩ with
  | error error after =>
    rw [hrun] at hregisters
    cases hregisters
  | ok _ registered =>
    rw [hrun] at hregisters
    have happart : ["3d", "if", "a b"].Pairwise fun first second =>
        ¬ Identifier.SpelledAlike first second := by
      decide +kernel
    have hdistinct := (parameters_distinct_iff_spelled_apart hrun rfl hregisters).2.1
    exact ⟨rfl, registered, _, rfl, hregisters, rfl, by decide +kernel, hdistinct.2 happart⟩

end BlockScribe
