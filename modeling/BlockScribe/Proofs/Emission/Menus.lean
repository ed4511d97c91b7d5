import BlockScribe.Proofs.Emission.Sequence
import BlockScribe.Proofs.Signature.Overlay

/-! # Menus and calls

A menu stands for the value that is selected in it. Whether a block is a menu is told by its opcode,
before the table of signatures is asked, so a block that an extension announces under the name of a
menu is written as a menu, without its arguments. Every other block of the table, unless it has a
rule of its own, is written as a call with the slots of its signature, in order.

* `NamedAsMenu`: the names by which a block that is no shadow is taken for a menu.
* `SignatureTable.IsExtended`: the palette, with extensions added one after the other. No opcode of
  the palette is the name of a menu.
* `registered_block_is_call_unless_menu`: what is written for a block of such a table.
-/

namespace BlockScribe

/-! ## Names of menus -/

theorem containsChars_iff_isInfix (part whole : List Char) :
    containsChars part whole = true ↔ part <:+: whole := by
  induction whole with
  | nil => simp [containsChars]
  | cons c rest ih => simp [containsChars, ih, List.infix_cons_iff]

/-- An opcode names a menu: `_menu_` stands in it, or it is one of three that the palette's blocks
have for their menus. -/
def NamedAsMenu (opcode : String) : Prop :=
  "_menu_".toList <:+: opcode.toList ∨
    opcode ∈ ["looks_costume", "looks_backdrops", "sensing_keyoptions"]

instance (opcode : String) : Decidable (NamedAsMenu opcode) :=
  inferInstanceAs (Decidable (_ ∨ _))

/-- There is one more name of a menu, but it has no underscore, which all opcodes of blocks have. -/
theorem isMenu_iff_namedAsMenu {opcode : String} (hunderscore : '_' ∈ opcode.toList) :
    isMenu opcode false = true ↔ NamedAsMenu opcode := by
  have hnote : opcode ≠ "note" := by
    rintro rfl
    exact absurd hunderscore (by decide)
  unfold isMenu NamedAsMenu plainMenus
  rw [Bool.false_and, Bool.or_false, Bool.or_eq_true, containsChars_iff_isInfix]
  simp [hnote]

/-! ## Tables with extensions -/

/-- The palette, and what it becomes when extensions are added to it one after the other. -/
inductive SignatureTable.IsExtended : SignatureTable → Prop
  | palette : IsExtended SignatureTable.palette
  | extension {table : SignatureTable} (htable : IsExtended table) (id : String)
    (blocks : List ExtensionBlock) : IsExtended (table.extendWith id blocks)

/-- An opcode that is given by its characters is checked through these. -/
theorem opcode_of_chars {cs : List Char}
    (h : '_' ∈ cs ∧ containsChars ['_', 'm', 'e', 'n', 'u', '_'] cs = false) :
    '_' ∈ (String.ofList cs).toList ∧
      containsChars "_menu_".toList (String.ofList cs).toList = false := by
  have hpart : "_menu_".toList = ['_', 'm', 'e', 'n', 'u', '_'] := by decide
  rw [String.toList_ofList, hpart]
  exact h

/-- The opcodes of the palette have an underscore, and none is the name of a menu. -/
theorem opcode_of_palette {opcode : String} (h : opcode ∈ SignatureTable.palette.keys) :
    '_' ∈ opcode.toList ∧ isMenu opcode false = false := by
  have hchars : ∀ e ∈ Palette.entries,
      '_' ∈ e.1.toList ∧ containsChars "_menu_".toList e.1.toList = false := by
    -- the palette is a chain of ten groups, checked one entry after the other
    simp only [Palette.entries, List.forall_mem_append]
    refine ⟨⟨⟨⟨⟨⟨⟨⟨⟨?_, ?_⟩, ?_⟩, ?_⟩, ?_⟩, ?_⟩, ?_⟩, ?_⟩, ?_⟩, ?_⟩
    all_goals
      repeat refine List.forall_mem_cons.2 ⟨opcode_of_chars (by decide +kernel), ?_⟩
      exact List.forall_mem_nil _
  have hplain : ∀ e ∈ Palette.entries, plainMenus.contains e.1 = false := by
    decide +kernel
  obtain ⟨e, he, rfl⟩ := List.mem_map.1 (Dict.mem_of_mem_keys_ofList h)
  obtain ⟨hunderscore, hname⟩ := hchars e he
  refine ⟨hunderscore, ?_⟩
  unfold isMenu
  rw [hname, hplain e he]
  rfl

theorem SignatureTable.IsExtended.underscore_mem {table : SignatureTable} (h : table.IsExtended)
    {opcode : String} {signature : Signature} (hget : table.get? opcode = some signature) :
    '_' ∈ opcode.toList := by
  induction h with
  | palette =>
    have hkey : opcode ∈ SignatureTable.palette.keys :=
      List.mem_map.2 ⟨_, Dict.mem_entries_of_get? hget, rfl⟩
    exact (opcode_of_palette hkey).1
  | @extension table _ id blocks ih =>
    rw [get?_extendWith table ⟨id, blocks⟩ opcode, Option.or_eq_some_iff] at hget
    rcases hget with hannounced | ⟨-, hbefore⟩
    · -- an announced opcode has the underscore behind the id of the extension
      obtain ⟨extension, -, hin⟩ := exists_of_lastAnnounced? hannounced
      refine (Extension.isPrefix_of_mem_announcements hin).subset ?_
      rw [String.toList_append]
      exact List.mem_append_right _ (by decide)
    · exact ih hbefore

/-! ## What is written for a block -/

section Written

variable {table : SignatureTable} {nested : Nested} {block : Block}
  (hshadow : block.shadow = false) (hrule : block.hasOwnRule = false)
include hshadow hrule

/-- A menu is written as its selected value, and its slots are not looked at. -/
theorem renderBlock_of_menu (hmenu : isMenu block.opcode false = true) (headOnly : Bool) :
    renderBlock table nested headOnly block =
      pure (Quoted.quote ((block.firstField?.map Field.value).getD "")) := by
  unfold renderBlock
  simp only [Block.form_of_not_hasOwnRule hrule, hshadow, hmenu, if_true]
  rfl

/-- A block of the table that is no menu is written as a call. -/
theorem renderBlock_of_registered (hmenu : isMenu block.opcode false = false)
    {signature : Signature} (hsignature : table.get? block.opcode = some signature) :
    renderBlock table nested true block =
      renderCall nested block block.opcode signature.slots := by
  unfold renderBlock
  simp only [Block.form_of_not_hasOwnRule hrule, hshadow, hmenu, Bool.false_eq_true, if_false,
    Block.signatureForm_of_value hsignature]
  rfl

end Written

/-! ## Calls of an emitter -/

/-- The emitter while it is writing one more block, one level deeper. -/
def Emitter.inside (emitter : Emitter) (key : String) : Emitter :=
  { emitter with entered := key :: emitter.entered, depth := emitter.depth + 1 }

/-- What a call for one block is made of: what its form gives inside of the block, behind the tabs
of its level. -/
theorem Emitter.nested_of_new {emitter : Emitter} {key : String} {block : Block}
    (hget : emitter.sources.blocks.get? key = some block) (hnew : key ∉ emitter.entered)
    (hdepth : emitter.depth < maxNesting) (level : Nat) (headOnly : Bool) :
    emitter.nested key level ⟨headOnly, false⟩ =
      Layout.indent level <$>
        renderBlock emitter.sources.table (emitter.inside key).nested headOnly block := by
  have hroom : maxNesting - emitter.depth = maxNesting - (emitter.depth + 1) + 1 := by
    omega
  unfold Emitter.nested
  rw [hroom, emitAt_of_new hget hnew]
  rfl

/-- A call that ends well has a level left for the block, which was not being written. -/
theorem Emitter.new_of_nested {emitter : Emitter} {key : String} {block : Block}
    (hget : emitter.sources.blocks.get? key = some block) {level : Nat} {mode : Mode}
    {session after : Session} {text : String}
    (h : emitter.nested key level mode session = .ok text after) :
    key ∉ emitter.entered ∧ emitter.depth < maxNesting := by
  unfold Emitter.nested at h
  have hdepth : emitter.depth < maxNesting := by
    -- without a level left the emission stops at once
    by_contra hdeep
    rw [Nat.sub_eq_zero_of_le (Nat.le_of_not_lt hdeep)] at h
    cases h
  -- with one left, it stops at a block that is being written
  obtain ⟨room, hroom⟩ := Nat.exists_eq_succ_of_ne_zero (Nat.sub_ne_zero_of_lt hdepth)
  refine ⟨?_, hdepth⟩
  intro hmem
  rw [hroom, emitAt, renderChain_of_entered hget hmem] at h
  cases h

/-- Slots are written one after the other, each from what the one before it left. A literal of an
unknown kind leaves no text. -/
inductive Block.SlotsInTurn (nested : Nested) (block : Block) :
    Session → List String → List (Option String) → Session → Prop
  | nil (session : Session) : SlotsInTurn nested block session [] [] session
  | cons {slot : String} {slots : List String} {text : Option String}
    {texts : List (Option String)} {before between after : Session}
    (hslot : renderSlot nested block slot before = .ok text between)
    (hrest : SlotsInTurn nested block between slots texts after) :
    SlotsInTurn nested block before (slot :: slots) (text :: texts) after

theorem slotsInTurn_of_renderSlots {nested : Nested} {block : Block} {slots : List String}
    {before after : Session} {texts : List (Option String)}
    (h : renderSlots nested block slots before = .ok texts after) :
    block.SlotsInTurn nested before slots texts after := by
  induction slots generalizing before texts with
  | nil =>
    cases h
    exact .nil _
  | cons slot rest ih =>
    unfold renderSlots at h
    obtain ⟨text, between, hslot, h⟩ := exists_of_bind_eq_ok h
    obtain ⟨others, finish, hrest, h⟩ := exists_of_bind_eq_ok h
    cases h
    exact .cons hslot (ih hrest)

/-- A block that is no shadow, whose opcode is in the palette or was announced by an extension, and
that has no rule of its own, is written as a value in one of two ways. Unless its opcode names a
menu, it is a call with the slots of its signature, written in order inside of the block. If it
does, which no opcode of the palette does, the block is its selected value, and nothing else
changes. -/
theorem registered_block_is_call_unless_menu {emitter : Emitter}
    (htable : emitter.sources.table.IsExtended) {key : String} {block : Block}
    (hget : emitter.sources.blocks.get? key = some block) (hshadow : block.shadow = false)
    (hrule : block.hasOwnRule = false) {signature : Signature}
    (hsignature : emitter.sources.table.get? block.opcode = some signature) {scope : Scope}
    {level : Nat} {text : String}
    (h : (emitter.emit scope key level .value).result = .ok text) :
    (¬ NamedAsMenu block.opcode →
      ∃ arguments after,
        block.SlotsInTurn (emitter.inside key).nested ⟨scope, emitter.diagnostics⟩
          signature.slots arguments after ∧
        text = Layout.indent level
          (block.opcode ++ "(" ++ ", ".intercalate (arguments.filterMap id) ++ ")") ∧
        emitter.emit scope key level .value =
          ⟨.ok text, after.scope, { emitter with diagnostics := after.diagnostics }⟩) ∧
    (NamedAsMenu block.opcode →
      text = Layout.indent level
        (Quoted.quote ((block.firstField?.map Field.value).getD "")) ∧
      emitter.emit scope key level .value = ⟨.ok text, scope, emitter⟩) ∧
    (block.opcode ∈ SignatureTable.palette.keys → ¬ NamedAsMenu block.opcode) := by
  have hname := isMenu_iff_namedAsMenu (htable.underscore_mem hsignature)
  obtain ⟨after, hrun, -⟩ := Emitter.run_eq_ok h
  have hemit := Emitter.emit_of_ok hrun
  obtain ⟨hnew, hdepth⟩ := Emitter.new_of_nested hget hrun
  rw [Mode.value, Emitter.nested_of_new hget hnew hdepth] at hrun
  obtain ⟨written, hwritten, rfl⟩ := exists_of_map_eq_ok hrun
  refine ⟨?_, ?_, ?_⟩
  · intro hcall
    have hmenu : isMenu block.opcode false = false := by
      rw [← Bool.not_eq_true, hname]
      exact hcall
    -- no rule and no menu: the form is the call that the table describes
    rw [renderBlock_of_registered hshadow hrule hmenu hsignature] at hwritten
    obtain ⟨arguments, hslots, rfl⟩ := exists_of_map_eq_ok hwritten
    exact ⟨arguments, after, slotsInTurn_of_renderSlots hslots, rfl, hemit⟩
  · intro hmenu
    -- menus come before the table, so the entry is not looked at
    rw [renderBlock_of_menu hshadow hrule (hname.2 hmenu)] at hwritten
    cases hwritten
    exact ⟨rfl, hemit⟩
  · intro hpalette hmenu
    rw [← hname, (opcode_of_palette hpalette).2] at hmenu
    cases hmenu

/-- An extension with a block whose opcode has the name of a menu in it, and one whose opcode only
ends like one. -/
def dinerBlocks : List ExtensionBlock :=
  [⟨"set_menu_price", ["DISH", "PRICE"], "command"⟩, ⟨"submenu", ["DISH"], "reporter"⟩]

/-- Sets a price. -/
def priceBlock : Block :=
  ⟨"price", "diner_set_menu_price", none,
    Dict.ofList
      [("DISH", .literal ⟨.text, "soup", none⟩), ("PRICE", .literal ⟨.number, "3", none⟩)],
    .empty, false, false, none⟩

/-- Asks for a part of the menu. -/
def submenuBlock : Block :=
  ⟨"submenu", "diner_submenu", none, Dict.ofList [("DISH", .literal ⟨.text, "soup", none⟩)],
    .empty, false, false, none⟩

/-- An emitter for both blocks. -/
def diner : Emitter :=
  .new (SignatureTable.palette.extendWith "diner" dinerBlocks)
    (Dict.ofList [("price", priceBlock), ("submenu", submenuBlock)])

theorem diner_isExtended : diner.sources.table.IsExtended :=
  .extension .palette "diner" dinerBlocks

theorem get?_diner_of_announced {opcode : String} {signature : Signature}
    (h : lastAnnounced? [⟨"diner", dinerBlocks⟩] opcode = some signature) :
    diner.sources.table.get? opcode = some signature := by
  have hlookup := get?_extendWith SignatureTable.palette ⟨"diner", dinerBlocks⟩ opcode
  rw [h, Option.some_or] at hlookup
  exact hlookup

/-- The first block is in the table, but it is written as a menu in which nothing is selected: the
dish and the price are lost, without any diagnostic. -/
theorem menu_price_is_no_call :
    diner.sources.table.IsExtended ∧
    diner.sources.blocks.get? "price" = some priceBlock ∧
    priceBlock.shadow = false ∧ priceBlock.hasOwnRule = false ∧
    diner.sources.table.get? priceBlock.opcode = some ⟨["DISH", "PRICE"], .plain⟩ ∧
    (diner.emit (.new false) "price" 0 .value).result = .ok "\"\"" ∧
    (diner.emit (.new false) "price" 0 .value).emitter.diagnostics = [] ∧
    ∀ arguments, callText "diner_set_menu_price" arguments ≠ "\"\"" := by
  have hget : diner.sources.blocks.get? "price" = some priceBlock := rfl
  have hrule : priceBlock.hasOwnRule = false := by decide
  have hrun : diner.nested "price" 0 .value ⟨.new false, diner.diagnostics⟩ =
      .ok "\"\"" ⟨.new false, []⟩ := by
    rw [Mode.value, Emitter.nested_of_new hget List.not_mem_nil (by decide),
      renderBlock_of_menu rfl hrule (by decide +kernel)]
    rfl
  rw [Emitter.emit_of_ok hrun]
  refine ⟨diner_isExtended, hget, rfl, hrule, get?_diner_of_announced (by decide +kernel), rfl, rfl,
    ?_⟩
  intro arguments h
  -- any call of this name is longer than an empty text in quotes
  have hlength := congrArg String.length h
  rw [callText, String.length_append, String.length_append, String.length_append] at hlength
  have hname : "diner_set_menu_price".length = 20 := by decide
  have hquotes : "\"\"".length = 2 := by decide
  omega

/-- The second block is written with its argument. -/
theorem submenu_is_call :
    diner.sources.table.get? submenuBlock.opcode = some ⟨["DISH"], .plain⟩ ∧
    ¬ NamedAsMenu submenuBlock.opcode ∧
    (diner.emit (.new false) "submenu" 0 .value).result = .ok "diner_submenu(\"soup\")" ∧
    ∃ arguments after,
      submenuBlock.SlotsInTurn (diner.inside "submenu").nested ⟨.new false, []⟩ ["DISH"] arguments
        after ∧
      "diner_submenu(\"soup\")" = Layout.indent 0
        (submenuBlock.opcode ++ "(" ++ ", ".intercalate (arguments.filterMap id) ++ ")") := by
  have hget : diner.sources.blocks.get? "submenu" = some submenuBlock := rfl
  have hrule : submenuBlock.hasOwnRule = false := by decide
  have hsignature : diner.sources.table.get? submenuBlock.opcode = some ⟨["DISH"], .plain⟩ :=
    get?_diner_of_announced (by decide +kernel)
  have hname : ¬ NamedAsMenu submenuBlock.opcode := by decide +kernel
  have hemit : (diner.emit (.new false) "submenu" 0 .value).result =
      .ok "diner_submenu(\"soup\")" := by
    unfold Emitter.emit Mode.value
    rw [Emitter.nested_of_new hget List.not_mem_nil (by decide),
      renderBlock_of_registered rfl hrule (by decide +kernel) hsignature]
    decide +kernel
  obtain ⟨arguments, after, hslots, htext, -⟩ :=
    (registered_block_is_call_unless_menu diner_isExtended hget rfl hrule hsignature hemit).1 hname
  exact ⟨hsignature, hname, hemit, arguments, after, hslots, htext⟩

end BlockScribe
