import BlockScribe.Emission.Form
import Mathlib.Tactic.SplitIfs

/-! # What a form says about its block

The form of a block is decided in an order: some opcodes have rules of their own, then come the
menus, and what is left is written as its signature says. So a form can be read backwards.

* `Block.hasOwnRule`, `Block.IsMenu`: the blocks for which the table is not asked.
* `Block.form_eq_branch_iff`: exactly the blocks that are written with bodies, and when.
* `Block.form_eq_assignment`: only an assignment has the form of one.
-/

namespace BlockScribe

namespace Block

variable {table : SignatureTable} {scope : Scope} {headOnly : Bool} {block : Block}

/-! ## Blocks without a rule of their own -/

/-- Whether a block is written by a rule of its own, whatever the table says about its opcode: a
comparison, an answer, a call of a procedure, an assignment or a reporter of an argument. -/
def hasOwnRule (block : Block) : Bool :=
  ["operator_notequal", "procedures_return", "procedures_call", "data_setvariableto"].contains
      block.opcode ||
    block.isArgumentReporter

/-- A block stands for the value that is selected in it. -/
def IsMenu (block : Block) : Prop :=
  block.hasOwnRule = false ∧ isMenu block.opcode block.shadow = true

instance (block : Block) : Decidable block.IsMenu :=
  inferInstanceAs (Decidable (_ ∧ _))

/-- Without such a rule, a block is a menu or what its signature says. -/
theorem form_of_not_hasOwnRule (h : block.hasOwnRule = false) (table : SignatureTable)
    (scope : Scope) (headOnly : Bool) :
    block.form table scope headOnly =
      if isMenu block.opcode block.shadow then
        .choice ((block.firstField?.map Field.value).getD "")
      else block.signatureForm table headOnly := by
  unfold hasOwnRule at h
  simp only [Bool.or_eq_false_iff, List.contains_eq_mem, decide_eq_false_iff_not, List.mem_cons,
    List.not_mem_nil, or_false, not_or] at h
  obtain ⟨⟨hcomparison, hanswer, hcall, hassignment⟩, hreporter⟩ := h
  unfold form
  rw [if_neg hcomparison, if_neg hanswer, if_neg hcall, if_neg hassignment, hreporter,
    if_neg Bool.false_ne_true]

/-- The table is not asked about a menu: it is written as the value of its first field. -/
theorem IsMenu.form_eq (h : block.IsMenu) (table : SignatureTable) (scope : Scope)
    (headOnly : Bool) :
    block.form table scope headOnly = .choice ((block.firstField?.map Field.value).getD "") := by
  rw [form_of_not_hasOwnRule h.1, if_pos h.2]

/-- As a value, a block is a call with the slots of its signature, even if it has bodies. -/
theorem signatureForm_of_value {signature : Signature}
    (h : table.get? block.opcode = some signature) :
    block.signatureForm table true = .call block.opcode signature.slots := by
  obtain ⟨slots, category⟩ := signature
  unfold signatureForm
  rw [h]
  cases category with
  | plain => rfl
  | branch sockets => rfl
  | hat => rfl

/-! ## Constructs -/

theorem signatureForm_eq_branch_iff {slots sockets : List String} :
    block.signatureForm table headOnly = .branch slots sockets ↔
      headOnly = false ∧ table.get? block.opcode = some ⟨slots, .branch sockets⟩ := by
  cases hget : table.get? block.opcode with
  | none => simp [signatureForm, hget]
  | some signature =>
    obtain ⟨own, category⟩ := signature
    -- bodies are written for the signature of a construct, and not where heads alone are written
    cases category with
    | plain => simp [signatureForm, hget]
    | hat => simp [signatureForm, hget]
    | branch declared => cases headOnly <;> simp [signatureForm, hget]

/-- A call of a procedure has no bodies, and it is no assignment. -/
theorem callForm_cases (scope : Scope) (block : Block) :
    block.callForm scope = .logging ∨ (∃ proccode, block.callForm scope = .unknownCall proccode) ∨
      ∃ name slots, block.callForm scope = .call name slots := by
  unfold callForm
  dsimp only
  split
  · exact .inl rfl
  · split
    · exact .inr (.inr ⟨_, _, rfl⟩)
    · exact .inr (.inl ⟨_, rfl⟩)

/-- No block with a rule of its own is written with bodies. -/
theorem form_ne_branch_of_hasOwnRule (h : block.hasOwnRule = true) {slots sockets : List String} :
    block.form table scope headOnly ≠ .branch slots sockets := by
  have hcall : block.callForm scope ≠ .branch slots sockets := by
    rcases callForm_cases scope block with heq | ⟨_, heq⟩ | ⟨_, _, heq⟩ <;> simp [heq]
  simp only [hasOwnRule, Bool.or_eq_true, List.contains_eq_mem, decide_eq_true_eq, List.mem_cons,
    List.not_mem_nil, or_false] at h
  unfold form
  -- the first five branches are the rules; the last two are not reached
  split_ifs with hcomparison hanswer hslot hcalls hassignment hreporter hmenu
  · exact Form.noConfusion
  · exact Form.noConfusion
  · exact Form.noConfusion
  · exact hcall
  · cases block.fields.get? variableSlot with
    | some field => exact Form.noConfusion
    | none => exact Form.noConfusion
  · exact Form.noConfusion
  · simp [hcomparison, hanswer, hcalls, hassignment, hreporter] at h
  · simp [hcomparison, hanswer, hcalls, hassignment, hreporter] at h

/-- A block is written with bodies if it is to be written in full, no rule of its own and no menu
comes first, and its signature is that of a construct; its slots and sockets are those that the
signature declares. -/
theorem form_eq_branch_iff {slots sockets : List String} :
    block.form table scope headOnly = .branch slots sockets ↔
      headOnly = false ∧ block.hasOwnRule = false ∧ isMenu block.opcode block.shadow = false ∧
        table.get? block.opcode = some ⟨slots, .branch sockets⟩ := by
  cases hrule : block.hasOwnRule with
  | true => simp [form_ne_branch_of_hasOwnRule hrule]
  | false =>
    rw [form_of_not_hasOwnRule hrule]
    cases isMenu block.opcode block.shadow with
    | true => simp
    | false => simp [signatureForm_eq_branch_iff]

/-! ## Assignments -/

/-- Only an assignment block with a variable has the form of an assignment. -/
theorem form_eq_assignment {field : Field}
    (h : block.form table scope headOnly = .assignment field) :
    block.opcode = "data_setvariableto" ∧ block.fields.get? variableSlot = some field := by
  have hcall : block.callForm scope ≠ .assignment field := by
    rcases callForm_cases scope block with heq | ⟨_, heq⟩ | ⟨_, _, heq⟩ <;> simp [heq]
  unfold form at h
  -- the branches in front of the assignment and behind it give other forms
  split_ifs at h with _ _ _ hopcode _ _
  · exact absurd h hcall
  · refine ⟨hopcode, ?_⟩
    cases hfield : block.fields.get? variableSlot with
    | some found =>
      rw [hfield] at h
      exact congrArg some (Form.assignment.inj h)
    | none =>
      rw [hfield] at h
      cases h
  · unfold signatureForm at h
    split at h
    · cases h
    · split at h <;> cases h

/-- A block that sets a variable has the form of an assignment, whatever the scope. -/
theorem form_of_assignment {field : Field} (hopcode : block.opcode = "data_setvariableto")
    (hfield : block.fields.get? variableSlot = some field) (table : SignatureTable)
    (scope : Scope) (headOnly : Bool) :
    block.form table scope headOnly = .assignment field := by
  unfold form
  rw [hopcode, hfield]
  simp

/-! ## Scopes -/

/-- The form of a block depends on the procedures of the scope, not on its bindings. -/
theorem form_congr (table : SignatureTable) (headOnly : Bool) (block : Block)
    {scope scope' : Scope} (h : scope'.procedures = scope.procedures) :
    block.form table scope' headOnly = block.form table scope headOnly := by
  have hcall : block.callForm scope' = block.callForm scope := by
    unfold callForm Scope.procedure?
    rw [h]
  unfold form
  rw [hcall]

end Block

end BlockScribe
