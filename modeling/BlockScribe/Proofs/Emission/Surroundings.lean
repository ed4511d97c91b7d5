import BlockScribe.Proofs.Emission.Bookkeeping
import BlockScribe.Proofs.Emission.Dependence

/-! # Scripts and their surroundings

A call of an emitter stands somewhere: inside of blocks that are being written, some levels deep,
behind diagnostics of earlier calls. These surroundings decide whether a script can be written,
since no block may be met again and the levels run out. What is written they do not decide.

* `Emitter.Writes`: how a call ends well, with its text, the scope behind it and its own notes.
* `Emitter.emit_eq`: what was noted before does not matter.
* `Emitter.Writes.of_roomier`: neither do the blocks that are being written and the depth, for a
  script that can be written with more of both.
-/

namespace BlockScribe

namespace Emitter

/-- An emitter over the same blocks and signatures, with no other blocks being written than those of
`emitter` and no more levels in use. -/
structure Roomier (other emitter : Emitter) : Prop where
  sources_eq : other.sources = emitter.sources
  entered_subset : other.entered ⊆ emitter.entered
  depth_le : other.depth ≤ emitter.depth

/-- No emitter has more room than a new one. -/
theorem roomier_new (emitter : Emitter) :
    (new emitter.sources.table emitter.sources.blocks).Roomier emitter where
  sources_eq := rfl
  entered_subset := List.nil_subset _
  depth_le := Nat.zero_le _

/-- A call ends well with a text, leaves a scope and adds notes to those that are there. Everything
else of the emitter is as before. -/
def Writes (emitter : Emitter) (scope : Scope) (id : String) (level : Nat) (mode : Mode)
    (text : String) (after : Scope) (added : List Diagnostic) : Prop :=
  emitter.emit scope id level mode =
    ⟨.ok text, after, { emitter with diagnostics := emitter.diagnostics ++ added }⟩

section Calls

variable {emitter other : Emitter} {scope after : Scope} {id text : String} {level : Nat}
  {mode : Mode} {added : List Diagnostic}

/-- A script is written behind earlier notes as it is without any, and its own notes come behind
them. -/
theorem emit_eq (emitter : Emitter) (scope : Scope) (id : String) (level : Nat) (mode : Mode) :
    emitter.emit scope id level mode =
      match emitter.nested id level mode ⟨scope, []⟩ with
      | .ok text clean =>
        ⟨.ok text, clean.scope,
          { emitter with diagnostics := emitter.diagnostics ++ clean.diagnostics }⟩
      | .error failure clean =>
        ⟨.error failure.fault, clean.scope,
          { emitter with
            diagnostics := emitter.diagnostics ++ clean.diagnostics
            entered := failure.entered }⟩ := by
  -- older notes stand in front and are never looked at
  have hnotes : AddsNotes (emitter.nested id level mode) := addsNotes_emitAt _ _ _ _ _ _
  have hstart : (⟨scope, emitter.diagnostics⟩ : Session) =
      (⟨scope, []⟩ : Session).behind emitter.diagnostics := by
    simp [Session.behind]
  unfold emit
  rw [run_eq, hstart, hnotes emitter.diagnostics]
  cases emitter.nested id level mode ⟨scope, []⟩ with
  | ok text clean => rfl
  | error failure clean => rfl

theorem writes_iff :
    emitter.Writes scope id level mode text after added ↔
      emitter.nested id level mode ⟨scope, []⟩ = .ok text ⟨after, added⟩ := by
  unfold Writes
  rw [emit_eq]
  cases emitter.nested id level mode ⟨scope, []⟩ with
  | ok found clean =>
    obtain ⟨behind, notes⟩ := clean
    simp
  | error failure clean => simp

/-- A call with a result ends well. -/
theorem exists_writes (h : (emitter.emit scope id level mode).result = .ok text) :
    ∃ after added, emitter.Writes scope id level mode text after added := by
  rw [emit_eq] at h
  cases hclean : emitter.nested id level mode ⟨scope, []⟩ with
  | ok found clean =>
    rw [hclean] at h
    cases h
    exact ⟨clean.scope, clean.diagnostics, writes_iff.2 hclean⟩
  | error failure clean =>
    rw [hclean] at h
    cases h

/-- What can be written with little room is written the same with more of it. -/
theorem Writes.of_roomier (h : emitter.Writes scope id level mode text after added)
    (hroom : other.Roomier emitter) : other.Writes scope id level mode text after added := by
  rw [writes_iff] at h ⊢
  unfold nested at h ⊢
  rw [hroom.sources_eq]
  have hlevels : maxNesting - emitter.depth ≤ maxNesting - other.depth := by
    have hdepth := hroom.depth_le
    omega
  exact endsAlike_emitAt emitter.sources hlevels hroom.entered_subset id level mode _ _ _ h

/-- Two calls that both end well write the same, wherever they stand. -/
theorem Writes.unique {text' : String} {after' : Scope} {added' : List Diagnostic}
    (hsources : other.sources = emitter.sources)
    (h : emitter.Writes scope id level mode text after added)
    (h' : other.Writes scope id level mode text' after' added') :
    text = text' ∧ after = after' ∧ added = added' := by
  have hnew : (new other.sources.table other.sources.blocks).Roomier emitter := by
    rw [hsources]
    exact roomier_new emitter
  -- a new emitter writes what either of the two writes, and it writes one thing only
  have hfirst := writes_iff.1 (h.of_roomier hnew)
  have hsecond := writes_iff.1 (h'.of_roomier (roomier_new other))
  rw [hfirst] at hsecond
  injection hsecond with htext hsession
  injection hsession with hscope hadded
  exact ⟨htext, hscope, hadded⟩

end Calls

end Emitter

/-- The blocks that are being written and the depth decide only whether a call fails. If it ends
well, then so does every call for the same script over the same blocks and signatures while fewer
blocks are being written and fewer levels are in use, with the same text, the same scope and the
same notes behind those that were there. And wherever else a call for it ends well, it gives the
same. -/
theorem surroundings_decide_only_failure {emitter : Emitter} {scope : Scope} {id : String}
    {level : Nat} {mode : Mode} {text : String}
    (h : (emitter.emit scope id level mode).result = .ok text) :
    ∃ after added, emitter.Writes scope id level mode text after added ∧
      (∀ other : Emitter, other.Roomier emitter →
        other.Writes scope id level mode text after added) ∧
      (∀ (other : Emitter) (found : String), other.sources = emitter.sources →
        (other.emit scope id level mode).result = .ok found →
          other.Writes scope id level mode text after added) := by
  obtain ⟨after, added, hwrites⟩ := Emitter.exists_writes h
  refine ⟨after, added, hwrites, ?_, ?_⟩
  · intro other hroom
    exact hwrites.of_roomier hroom
  · intro other found hsources hfound
    obtain ⟨after', added', hother⟩ := Emitter.exists_writes hfound
    -- from the same sources there is only one way to end well
    obtain ⟨rfl, rfl, rfl⟩ := hwrites.unique hsources hother
    exact hother

/-- A loop that counts, and goes on with a block that nothing describes. -/
def orchard : Sources where
  table := Dict.ofList [("repeat", ⟨["TIMES"], .branch ["BODY"]⟩)]
  blocks := Dict.ofList
    [("loop", ⟨"loop", "repeat", none,
        Dict.ofList [("TIMES", .literal ⟨.number, "3", none⟩), ("BODY", .block "count")],
        .empty, false, false, none⟩),
      ("count", ⟨"count", "data_setvariableto", some "pick",
        Dict.ofList [("VALUE", .literal ⟨.number, "1", none⟩)],
        Dict.ofList [("VARIABLE", ⟨"apples", some "v"⟩)], false, false, none⟩),
      ("pick", ⟨"pick", "pick", none, .empty, .empty, false, false, none⟩)]

/-- The loop inside of two blocks that are being written, and behind a note. -/
def orchardInside : Emitter :=
  ⟨orchard, ["tree", "hat"], 2, [⟨some "tree", .undefinedOpcode "tree"⟩]⟩

/-- The loop inside of one of them. -/
def orchardOutside : Emitter := ⟨orchard, ["hat"], 1, []⟩

/-- What the loop is written as. -/
def orchardText : String :=
  "repeat(3) \x7b\n\tvar apples = 1\n\t/* undefined definition for pick */\n\x7d"

/-- The loop is written the same in both places, with a note on its last block. Inside of that block
it could not be written. -/
theorem orchard_is_written_alike :
    (orchardInside.emit (.new false) "loop" 0 .chain).result = .ok orchardText ∧
    orchardOutside.Roomier orchardInside ∧
    (∃ after, orchardOutside.Writes (.new false) "loop" 0 .chain orchardText after
      [⟨some "pick", .undefinedOpcode "pick"⟩]) ∧
    (Emitter.emit ⟨orchard, ["pick"], 1, []⟩ (.new false) "loop" 0 .chain).result =
      .error (.cyclic "pick") := by
  have hresult : (orchardInside.emit (.new false) "loop" 0 .chain).result = .ok orchardText := by
    decide +kernel
  have hnotes : (orchardInside.emit (.new false) "loop" 0 .chain).emitter.diagnostics =
      orchardInside.diagnostics ++ [⟨some "pick", .undefinedOpcode "pick"⟩] := by
    decide +kernel
  -- outside there is one level more, and the hat alone is being written
  have hroom : orchardOutside.Roomier orchardInside :=
    ⟨rfl, List.subset_cons_self "tree" ["hat"], by decide⟩
  obtain ⟨after, added, hinside, houtside, -⟩ := surroundings_decide_only_failure hresult
  rw [hinside] at hnotes
  have hadded := List.append_cancel_left hnotes
  rw [hadded] at houtside
  exact ⟨hresult, hroom, ⟨after, houtside orchardOutside hroom⟩, by decide +kernel⟩

end BlockScribe
