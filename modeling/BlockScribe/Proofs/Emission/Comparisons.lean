import BlockScribe.Proofs.Emission.Bindings
import BlockScribe.Proofs.Emission.Sequence
import BlockScribe.Proofs.Text.Lines
import BlockScribe.Proofs.Text.Numerals

/-! # What the text of a comparison tells

A comparison is written with its sign between its two values and without parentheses, so a
comparison in a value of another one is written like its neighbours. The text of a tree of
comparisons over decimal numerals tells the numerals from left to right, and nothing of how they are
grouped.

* `Comparison`: trees of comparisons, and `Comparison.StandsAt`: where one stands among blocks.
* `Comparison.StandsAt.emitAt_eq`: such a tree is written as its leaves with the sign between them.
* `Comparison.StandsAt.text_eq_iff`: the text of a tree tells its leaves.
* `comparisons_alike_iff_same_leaves`: when two trees are written alike.
-/

namespace BlockScribe

/-- A tree of comparisons over the texts of numerals. -/
inductive Comparison where
  | number (text : String)
  | differ (left right : Comparison)
deriving DecidableEq, Repr

namespace Comparison

/-- The texts at the leaves, from left to right. -/
def leaves : Comparison → List String
  | number text => [text]
  | differ left right => left.leaves ++ right.leaves

/-- The number of comparisons on the longest way to a leaf. -/
def height : Comparison → Nat
  | number _ => 0
  | differ left right => max left.height right.height + 1

/-- The leaves with the sign of the comparison between them. -/
def text (tree : Comparison) : String := " != ".intercalate tree.leaves

theorem leaves_ne_nil (tree : Comparison) : tree.leaves ≠ [] := by
  induction tree with
  | number text => exact List.cons_ne_nil _ _
  | differ left right ihleft _ => exact List.append_ne_nil_of_left_ne_nil ihleft _

/-! ## Trees among blocks -/

/-- A tree stands in an input: a numeral is a literal of a numeric kind that holds a decimal number,
and a comparison is a block with both values. -/
inductive StandsAt (blocks : Dict String Block) : Input → Comparison → Prop
  | number {literal : Literal} (hkind : literal.kind.isNumeric = true)
    (hdecimal : Numeral.isDecimal (trimChars literal.value.toList) = true) :
    StandsAt blocks (.literal literal) (.number (Numeral.render literal.value))
  | differ {id : String} {block : Block} {first second : Input} {left right : Comparison}
    (hget : blocks.get? id = some block) (hopcode : block.opcode = "operator_notequal")
    (hfirst : block.inputs.get? "OPERAND1" = some first)
    (hsecond : block.inputs.get? "OPERAND2" = some second)
    (hleft : StandsAt blocks first left) (hright : StandsAt blocks second right) :
    StandsAt blocks (.block id) (.differ left right)

section Standing

variable {blocks : Dict String Block} {input : Input} {tree : Comparison}

/-- At most one tree stands in an input. -/
theorem StandsAt.unique (h : StandsAt blocks input tree) {other : Comparison}
    (hother : StandsAt blocks input other) : tree = other := by
  induction h generalizing other with
  | number hkind hdecimal =>
    cases hother
    rfl
  -- the block is found under its id, so both trees read the same operands
  | differ hget hopcode hfirst hsecond hleft hright ihleft ihright =>
    cases hother with
    | differ hget' _ hfirst' hsecond' hleft' hright' =>
      rw [hget] at hget'
      cases hget'
      rw [hfirst] at hfirst'
      cases hfirst'
      rw [hsecond] at hsecond'
      cases hsecond'
      rw [ihleft hleft', ihright hright']

/-- The leaves of a tree that stands somewhere are made of parts of numerals. -/
theorem StandsAt.numeralParts (h : StandsAt blocks input tree) :
    ∀ leaf ∈ tree.leaves, ∀ c ∈ leaf.toList, Lexical.isNumeralPart c = true := by
  induction h with
  | number hkind hdecimal =>
    intro leaf hleaf
    rw [List.mem_singleton.1 hleaf, Numeral.render_of_isDecimal hdecimal, String.toList_ofList]
    exact Lexical.numeralParts_of_isDecimal hdecimal
  | differ _ _ _ _ _ _ ihleft ihright =>
    intro leaf hleaf
    rcases List.mem_append.1 hleaf with hmem | hmem
    · exact ihleft leaf hmem
    · exact ihright leaf hmem

end Standing

/-! ## The text of a tree -/

theorem text_differ (left right : Comparison) :
    (differ left right).text = left.text ++ " != " ++ right.text :=
  String.intercalate_append_of_ne_nil left.leaves_ne_nil right.leaves_ne_nil

theorem text_differ_ne_empty (left right : Comparison) : (differ left right).text ≠ "" := by
  intro hempty
  rw [text_differ] at hempty
  have hfront := (String.append_eq_empty_iff.1 hempty).1
  exact absurd (String.append_eq_empty_iff.1 hfront).2 (by decide)

/-! ## Trees are written as their texts -/

/-- Slots that are written without leaving anything behind. -/
theorem renderSlots_of_forall₂ {nested : Nested} {block : Block} {slots : List String}
    {texts : List (Option String)} {session : Session}
    (h : List.Forall₂ (fun slot text => renderSlot nested block slot session = .ok text session)
      slots texts) :
    renderSlots nested block slots session = .ok texts session := by
  induction h with
  | nil => rfl
  | cons hslot _ ih =>
    unfold renderSlots
    rw [bind_of_ok hslot, bind_of_ok ih]
    rfl

theorem renderSlot_of_input {nested : Nested} {block : Block} {slot : String} {input : Input}
    (h : block.inputs.get? slot = some input) :
    renderSlot nested block slot = renderInput nested block input := by
  unfold renderSlot
  rw [h]

/-- A comparison is written with the sign between its values. -/
theorem renderBlock_of_operands {nested : Nested} {block : Block} {first second : Input}
    {left right : String} {session : Session}
    (hopcode : block.opcode = "operator_notequal")
    (hfirst : block.inputs.get? "OPERAND1" = some first)
    (hsecond : block.inputs.get? "OPERAND2" = some second)
    (hleft : renderInput nested block first session = .ok (some left) session)
    (hright : renderInput nested block second session = .ok (some right) session)
    (table : SignatureTable) (headOnly : Bool) :
    renderBlock table nested headOnly block session = .ok (left ++ " != " ++ right) session := by
  -- the opcode is asked for first of all
  have hform : block.form table session.scope headOnly = .comparison := by
    unfold Block.form
    rw [if_pos hopcode]
  have hslots : renderSlots nested block ["OPERAND1", "OPERAND2"] session =
      .ok [some left, some right] session := by
    refine renderSlots_of_forall₂ (.cons ?_ (.cons ?_ .nil))
    · rw [renderSlot_of_input hfirst]
      exact hleft
    · rw [renderSlot_of_input hsecond]
      exact hright
  show renderForm nested block (block.form table session.scope headOnly) session = _
  rw [hform]
  show (renderSlots nested block ["OPERAND1", "OPERAND2"] >>= _) session = _
  rw [bind_of_ok hslots]
  rfl

theorem renderLiteral_of_isNumeric {literal : Literal} (h : literal.kind.isNumeric = true)
    (owner : Block) (session : Session) :
    renderLiteral owner literal session = .ok (some (Numeral.render literal.value)) session := by
  obtain ⟨kind, value, id⟩ := literal
  cases kind with
  | number => rfl
  | positiveNumber => rfl
  | wholeNumber => rfl
  | integer => rfl
  | angle => rfl
  | _ => cases h

/-- A tree that stands in an input is written as its text, if there are as many levels left as it
has, and if the trees at the blocks that are being written are higher. -/
theorem StandsAt.renderInput_eq {sources : Sources} {input : Input} {tree : Comparison}
    (h : StandsAt sources.blocks input tree) {room : Nat} (hroom : tree.height ≤ room)
    {entered : List String}
    (hentered : ∀ id ∈ entered, ∀ outer, StandsAt sources.blocks (.block id) outer →
      tree.height < outer.height) (owner : Block) (session : Session) :
    renderInput (emitAt sources room entered) owner input session =
      .ok (some tree.text) session := by
  induction h generalizing room entered owner with
  | number hkind hdecimal =>
    show renderLiteral owner _ session = _
    rw [renderLiteral_of_isNumeric hkind]
    rfl
  | @differ id block first second left right hget hopcode hfirst hsecond hleft hright ihleft
      ihright =>
    have hself : StandsAt sources.blocks (.block id) (.differ left right) :=
      .differ hget hopcode hfirst hsecond hleft hright
    have hheight : (Comparison.differ left right).height = max left.height right.height + 1 := rfl
    obtain ⟨less, rfl⟩ : ∃ less, room = less + 1 := ⟨room - 1, by omega⟩
    -- a block that is being written has a higher tree, so this one is new
    have hnew : id ∉ entered := by
      intro hmem
      exact lt_irrefl _ (hentered id hmem _ hself)
    have hinner : ∀ part : Comparison, part.height < (Comparison.differ left right).height →
        ∀ other ∈ id :: entered, ∀ outer, StandsAt sources.blocks (.block other) outer →
          part.height < outer.height := by
      intro part hpart other hother outer houter
      rcases List.mem_cons.1 hother with rfl | hmem
      · rw [← hself.unique houter]
        exact hpart
      · exact hpart.trans (hentered other hmem outer houter)
    have hfits : left.height ≤ less ∧ right.height ≤ less := by
      omega
    have hone := ihleft hfits.1 (hinner left (by omega)) block
    have htwo := ihright hfits.2 (hinner right (by omega)) block
    have hblock := renderBlock_of_operands hopcode hfirst hsecond hone htwo sources.table true
    have halone := emitAt_single (List.Subset.refl entered) hget hnew hblock
    show (some <$> emitAt sources (less + 1) entered id 0 .value) session = _
    rw [text_differ]
    exact map_of_ok halone some

/-- A script at a level is the script at the margin, indented. -/
theorem emitAt_eq_indent (sources : Sources) (room : Nat) (entered : List String) (id : String)
    (level : Nat) (mode : Mode) :
    emitAt sources room entered id level mode =
      Layout.indent level <$> emitAt sources room entered id 0 mode := by
  cases room with
  | zero => rfl
  | succ room =>
    unfold emitAt
    rw [map_bind]
    rfl

/-! ## What a text tells -/

/-- Where the first character of what stands between the parts is in none of them, the whole tells
the parts. -/
theorem intercalate_inj {α : Type} {c : α} {separator : List α} {parts others : List (List α)}
    (hparts : ∀ part ∈ parts, c ∉ part) (hothers : ∀ other ∈ others, c ∉ other)
    (hne : parts ≠ []) (hne' : others ≠ [])
    (h : (c :: separator).intercalate parts = (c :: separator).intercalate others) :
    parts = others := by
  induction parts generalizing others with
  | nil => exact absurd rfl hne
  | cons part rest ih =>
    obtain ⟨other, back, rfl⟩ := List.exists_cons_of_ne_nil hne'
    rw [List.forall_mem_cons] at hparts hothers
    cases rest with
    | nil =>
      cases back with
      | nil =>
        rw [List.intercalate_singleton, List.intercalate_singleton] at h
        rw [h]
      | cons next more =>
        -- the separator would be in the only part
        rw [List.intercalate_singleton, List.intercalate_cons_cons] at h
        refine absurd ?_ hparts.1
        rw [h]
        simp
    | cons second tail =>
      cases back with
      | nil =>
        rw [List.intercalate_singleton, List.intercalate_cons_cons] at h
        refine absurd ?_ hothers.1
        rw [← h]
        simp
      | cons next more =>
        rw [List.intercalate_cons_cons, List.intercalate_cons_cons, List.append_assoc,
          List.append_assoc] at h
        obtain ⟨rfl, hback⟩ := append_cons_inj hparts.1 hothers.1 h
        have hrest := ih hparts.2 hothers.2 (List.cons_ne_nil _ _) (List.cons_ne_nil _ _)
          (List.append_cancel_left hback)
        rw [hrest]

section Text

variable {blocks blocks' : Dict String Block} {input input' : Input} {tree tree' : Comparison}

/-- Besides the sign, only parts of numerals are in the text of a tree. -/
theorem StandsAt.not_mem_text (h : StandsAt blocks input tree) {c : Char}
    (hpart : Lexical.isNumeralPart c = false) (hsign : c ∉ " != ".toList) :
    c ∉ tree.text.toList := by
  refine not_mem_intercalate hsign ?_
  intro leaf hleaf hmem
  have htrue := h.numeralParts leaf hleaf c hmem
  rw [hpart] at htrue
  cases htrue

/-- The text of a tree tells its leaves. -/
theorem StandsAt.text_eq_iff (h : StandsAt blocks input tree) (h' : StandsAt blocks' input' tree') :
    tree.text = tree'.text ↔ tree.leaves = tree'.leaves := by
  -- leaves have no blanks, so the signs between them mark where they end
  have hblank : ∀ {blocks : Dict String Block} {input : Input} {tree : Comparison},
      StandsAt blocks input tree → ∀ part ∈ tree.leaves.map String.toList, ' ' ∉ part := by
    intro blocks input tree hstands part hmem hblank
    rcases List.mem_map.1 hmem with ⟨leaf, hleaf, rfl⟩
    exact absurd (hstands.numeralParts leaf hleaf ' ' hblank) (by decide)
  have hsome : ∀ tree : Comparison, tree.leaves.map String.toList ≠ [] := by
    intro tree hnil
    exact tree.leaves_ne_nil (List.map_eq_nil_iff.1 hnil)
  constructor
  · intro htext
    have hchars := congrArg String.toList htext
    unfold text at hchars
    rw [String.toList_intercalate, String.toList_intercalate] at hchars
    have hleaves := intercalate_inj (hblank h) (hblank h') (hsome tree) (hsome tree') hchars
    have hinjective : Function.Injective String.toList := fun _ _ => String.toList_injective
    exact List.map_injective_iff.2 hinjective hleaves
  · intro hleaves
    unfold text
    rw [hleaves]

/-- A tree that stands at a block is written as its text behind the tabs of its level. -/
theorem StandsAt.emitAt_eq {sources : Sources} {id : String}
    (h : StandsAt sources.blocks (.block id) tree) {room : Nat} (hroom : tree.height ≤ room)
    (level : Nat) (session : Session) :
    emitAt sources room [] id level .value session =
      .ok (Layout.tabs level ++ tree.text) session := by
  -- no block is being written yet, so no comparison can be met again
  have hnone : ∀ other ∈ ([] : List String), ∀ outer,
      StandsAt sources.blocks (.block other) outer → tree.height < outer.height :=
    fun other hnil => absurd hnil List.not_mem_nil
  have hline : OneLine tree.text := h.not_mem_text (by decide) (by decide)
  have hindent : Layout.indent level tree.text = Layout.tabs level ++ tree.text := by
    cases h with
    | differ => exact Layout.indent_of_oneLine hline (text_differ_ne_empty _ _) level
  -- at the margin the comparison is what an input of any block would be written as
  have hmargin : emitAt sources room [] id 0 .value session = .ok tree.text session := by
    obtain ⟨block, -⟩ : ∃ block, sources.blocks.get? id = some block := by
      cases h with
      | differ hget => exact ⟨_, hget⟩
    have hvalue := h.renderInput_eq hroom hnone block session
    obtain ⟨text, hrun, htext⟩ := exists_of_map_eq_ok hvalue
    rw [← Option.some.inj htext]
    exact hrun
  rw [emitAt_eq_indent, map_of_ok hmargin, hindent]

/-- Behind the tabs of a level, the text of a tree tells the level, too. -/
theorem StandsAt.tabs_text_eq_iff (h : StandsAt blocks input tree)
    (h' : StandsAt blocks' input' tree') (level level' : Nat) :
    Layout.tabs level ++ tree.text = Layout.tabs level' ++ tree'.text ↔
      level = level' ∧ tree.leaves = tree'.leaves := by
  constructor
  · intro heq
    -- the texts have no tabs of their own, so the tabs in front tell the level
    have hcount := congrArg (fun text : String => text.toList.count '\t') heq
    have hnone : tree.text.toList.count '\t' = 0 :=
      List.count_eq_zero.2 (h.not_mem_text (by decide) (by decide))
    have hnone' : tree'.text.toList.count '\t' = 0 :=
      List.count_eq_zero.2 (h'.not_mem_text (by decide) (by decide))
    simp only [String.toList_append, List.count_append, Layout.toList_tabs,
      List.count_replicate_self, hnone, hnone', Nat.add_zero] at hcount
    rw [hcount, String.append_right_inj] at heq
    exact ⟨hcount, (h.text_eq_iff h').1 heq⟩
  · rintro ⟨rfl, hleaves⟩
    rw [(h.text_eq_iff h').2 hleaves]

end Text

/-! ## Trees with few leaves -/

theorem length_leaves_differ (left right : Comparison) :
    (differ left right).leaves.length = left.leaves.length + right.leaves.length :=
  List.length_append

theorem length_leaves_pos (tree : Comparison) : 0 < tree.leaves.length :=
  List.length_pos_iff.2 tree.leaves_ne_nil

theorem exists_number_of_length_leaves {tree : Comparison} (h : tree.leaves.length ≤ 1) :
    ∃ text, tree = .number text := by
  cases tree with
  | number text => exact ⟨text, rfl⟩
  | differ left right =>
    rw [length_leaves_differ] at h
    have hleft := left.length_leaves_pos
    have hright := right.length_leaves_pos
    omega

theorem exists_numbers_of_length_leaves {left right : Comparison}
    (h : (differ left right).leaves.length ≤ 2) :
    ∃ first second, left = .number first ∧ right = .number second := by
  rw [length_leaves_differ] at h
  have hleft := left.length_leaves_pos
  have hright := right.length_leaves_pos
  -- each side has at least one leaf, so neither can have two
  have hone : left.leaves.length ≤ 1 := by
    omega
  have htwo : right.leaves.length ≤ 1 := by
    omega
  obtain ⟨first, hfirst⟩ := exists_number_of_length_leaves hone
  obtain ⟨second, hsecond⟩ := exists_number_of_length_leaves htwo
  exact ⟨first, second, hfirst, hsecond⟩

/-- At most two leaves can be grouped in one way only. -/
theorem eq_of_leaves_eq {tree tree' : Comparison} (h : tree.leaves = tree'.leaves)
    (hlength : tree.leaves.length ≤ 2) : tree = tree' := by
  have hlength' : tree'.leaves.length ≤ 2 := by
    rw [← h]
    exact hlength
  cases tree with
  | number text =>
    have hsingle : tree'.leaves.length ≤ 1 := by
      rw [← h]
      exact Nat.le_refl 1
    obtain ⟨other, rfl⟩ := exists_number_of_length_leaves hsingle
    cases h
    rfl
  | differ left right =>
    -- with two leaves there is only one way to put them together
    obtain ⟨first, second, rfl, rfl⟩ := exists_numbers_of_length_leaves hlength
    cases tree' with
    | number text => cases h
    | differ left' right' =>
      obtain ⟨first', second', rfl, rfl⟩ := exists_numbers_of_length_leaves hlength'
      cases h
      rfl

/-! ## Calls of an emitter -/

section Calls

variable {emitter : Emitter} {id : String} {tree : Comparison}
  (h : StandsAt emitter.sources.blocks (.block id) tree)
include h

/-- An emitter that is writing nothing writes a tree that has no more levels than are left. -/
theorem StandsAt.emit_of_height (hentered : emitter.entered = [])
    (hheight : emitter.depth + tree.height ≤ maxNesting) (scope : Scope) (level : Nat) :
    (emitter.emit scope id level .value).result = .ok (Layout.tabs level ++ tree.text) := by
  have hroom : tree.height ≤ maxNesting - emitter.depth := by
    omega
  have hrun : emitter.nested id level .value ⟨scope, emitter.diagnostics⟩ =
      .ok (Layout.tabs level ++ tree.text) ⟨scope, emitter.diagnostics⟩ := by
    unfold Emitter.nested
    rw [hentered]
    exact h.emitAt_eq hroom level _
  rw [Emitter.emit_of_ok hrun]

/-- Whatever an emitter is writing, what it writes for a tree is the text of the tree. -/
theorem StandsAt.eq_of_emit {scope : Scope} {level : Nat} {text : String}
    (hresult : (emitter.emit scope id level .value).result = .ok text) :
    text = Layout.tabs level ++ tree.text := by
  obtain ⟨after, hrun, -⟩ := Emitter.run_eq_ok hresult
  unfold Emitter.nested at hrun
  -- with more levels and no block being written the text is the same
  have hroomy := endsAlike_emitAt emitter.sources
    (Nat.le_max_left (maxNesting - emitter.depth) tree.height) (List.nil_subset _) id level .value
    _ _ _ hrun
  rw [h.emitAt_eq (Nat.le_max_right _ _)] at hroomy
  cases hroomy
  rfl

end Calls

end Comparison

/-- A tree of comparisons over decimal numerals is written if there are levels enough for it, as its
leaves with the sign between them behind the tabs of its level. So two trees are written alike if
and only if they are written at one level and have the same leaves from left to right; with at most
two leaves they are then the same tree. -/
theorem comparisons_alike_iff_same_leaves (emitter emitter' : Emitter) {id id' : String}
    {tree tree' : Comparison} (h : tree.StandsAt emitter.sources.blocks (.block id))
    (h' : tree'.StandsAt emitter'.sources.blocks (.block id')) (scope scope' : Scope)
    (level level' : Nat) :
    (emitter.entered = [] → emitter.depth + tree.height ≤ maxNesting →
      ∃ text, (emitter.emit scope id level .value).result = .ok text) ∧
    ∀ text text', (emitter.emit scope id level .value).result = .ok text →
      (emitter'.emit scope' id' level' .value).result = .ok text' →
      text = Layout.tabs level ++ " != ".intercalate tree.leaves ∧
      (text = text' ↔ level = level' ∧ tree.leaves = tree'.leaves) ∧
      (tree.leaves.length ≤ 2 → text = text' → tree = tree') := by
  constructor
  · intro hentered hheight
    exact ⟨_, h.emit_of_height hentered hheight scope level⟩
  · intro text text' hresult hresult'
    have htext := h.eq_of_emit hresult
    have htext' := h'.eq_of_emit hresult'
    have hiff : text = text' ↔ level = level' ∧ tree.leaves = tree'.leaves := by
      rw [htext, htext']
      exact h.tabs_text_eq_iff h' level level'
    refine ⟨htext, hiff, ?_⟩
    intro hlength hsame
    exact Comparison.eq_of_leaves_eq (hiff.1 hsame).2 hlength

/-- A block that compares two values. -/
def comparisonBlock (id : String) (first second : Input) : Block :=
  ⟨id, "operator_notequal", none, Dict.ofList [("OPERAND1", first), ("OPERAND2", second)], .empty,
    false, false, none⟩

/-- A numeral in a slot. -/
def numeralInput (value : String) : Input := .literal ⟨.number, value, none⟩

/-- Three numerals, compared from the left and from the right. -/
def leaningBlocks : Dict String Block :=
  Dict.ofList [
    ("left", comparisonBlock "left" (.block "left pair") (numeralInput "3")),
    ("left pair", comparisonBlock "left pair" (numeralInput "1") (numeralInput "2")),
    ("right", comparisonBlock "right" (numeralInput "1") (.block "right pair")),
    ("right pair", comparisonBlock "right pair" (numeralInput "2") (numeralInput "3"))]

def leftTree : Comparison := .differ (.differ (.number "1") (.number "2")) (.number "3")

def rightTree : Comparison := .differ (.number "1") (.differ (.number "2") (.number "3"))

theorem standsAt_leaningBlocks :
    leftTree.StandsAt leaningBlocks (.block "left") ∧
      rightTree.StandsAt leaningBlocks (.block "right") := by
  have hnumber : ∀ digit ∈ ["1", "2", "3"],
      (Comparison.number digit).StandsAt leaningBlocks (numeralInput digit) := by
    have hdigits : ∀ digit ∈ ["1", "2", "3"],
        Numeral.isDecimal (trimChars digit.toList) = true ∧ Numeral.render digit = digit := by
      decide +kernel
    intro digit hdigit
    obtain ⟨hdecimal, hrender⟩ := hdigits digit hdigit
    have hstands : (Comparison.number (Numeral.render digit)).StandsAt leaningBlocks
        (numeralInput digit) := .number rfl hdecimal
    rw [hrender] at hstands
    exact hstands
  simp only [List.forall_mem_cons] at hnumber
  obtain ⟨hone, htwo, hthree, -⟩ := hnumber
  -- the one tree leans to the left and the other one to the right
  refine ⟨.differ rfl rfl rfl rfl (.differ rfl rfl rfl rfl hone htwo) hthree, ?_⟩
  exact .differ rfl rfl rfl rfl hone (.differ rfl rfl rfl rfl htwo hthree)

/-- An emitter for the two trees. -/
def leaningEmitter : Emitter := Emitter.new .empty leaningBlocks

/-- Two trees of different shapes are written alike. -/
theorem leaning_comparisons_lose_grouping :
    leftTree.StandsAt leaningBlocks (.block "left") ∧
    rightTree.StandsAt leaningBlocks (.block "right") ∧ leftTree ≠ rightTree ∧
    (leaningEmitter.emit (Scope.new false) "left" 0 .value).result = .ok "1 != 2 != 3" ∧
    (leaningEmitter.emit (Scope.new false) "right" 0 .value).result = .ok "1 != 2 != 3" := by
  obtain ⟨hleft, hright⟩ := standsAt_leaningBlocks
  exact ⟨hleft, hright, by decide, by decide +kernel, by decide +kernel⟩

/-- The two trees have the same leaves, so they are written alike at every level. -/
theorem leaning_comparisons_have_same_leaves :
    leftTree.StandsAt leaningBlocks (.block "left") ∧
    rightTree.StandsAt leaningBlocks (.block "right") ∧
    leftTree.leaves = rightTree.leaves ∧
    ∀ level, ∃ text,
      (leaningEmitter.emit (Scope.new false) "left" level .value).result = .ok text ∧
      (leaningEmitter.emit (Scope.new false) "right" level .value).result = .ok text := by
  obtain ⟨hleft, hright⟩ := standsAt_leaningBlocks
  refine ⟨hleft, hright, by decide, ?_⟩
  intro level
  obtain ⟨hwritten, halike⟩ := comparisons_alike_iff_same_leaves leaningEmitter leaningEmitter
    hleft hright (Scope.new false) (Scope.new false) level level
  obtain ⟨hwritten', -⟩ := comparisons_alike_iff_same_leaves leaningEmitter leaningEmitter
    hright hleft (Scope.new false) (Scope.new false) level level
  -- each is written with some text, and the same leaves make it the same text
  obtain ⟨text, htext⟩ := hwritten rfl (by decide)
  obtain ⟨text', htext'⟩ := hwritten' rfl (by decide)
  have hsame : text = text' := (halike text text' htext htext').2.1.2 ⟨rfl, by decide⟩
  rw [← hsame] at htext'
  exact ⟨text, htext, htext'⟩

end BlockScribe
