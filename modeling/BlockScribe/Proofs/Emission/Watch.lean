import BlockScribe.Proofs.Emission.SideBySide

/-! # Watching an emission

To say that a property holds all the time while blocks are written, and not only when the writing
is over, the emission is written once more with looks in it: in front of every block and behind it,
those nested in others included, the session is checked, and where it lacks the property the writing
stops with an alarm. Nothing catches an alarm, so an emission that is the same with and without the
looks, whatever the alarm is, goes through sessions with the property only.

* `Render.watched`: a look in front of a rendering and one behind it.
* `watchedAt`: the emission with looks around every block.
* `agreesKeeping_watchedAt`: if notes and bindings keep the property, no look finds anything.
-/

namespace BlockScribe

section Watch

variable (p : Session → Prop) [DecidablePred p]

/-- Runs a rendering if the session has a property in front of it and behind it, however it ends,
and else stops with an alarm. -/
def Render.watched (alarm : Failure) {α : Type} (r : Render α) : Render α := fun session =>
  if p session ∧ p (endOf r session) then r session else .error alarm session

/-- Writes the script that starts at a block as `emitAt` does, with looks around every block. -/
def watchedAt (alarm : Failure) (sources : Sources) :
    (room : Nat) → (entered : List String) → Nested
  | 0, entered, id, _, _ => Render.stop (.tooDeep id) entered
  | room + 1, entered, id, level, mode => do
    let lines ← renderChain sources.blocks
      (fun entered block => Render.watched p alarm
        (renderBlock sources.table (watchedAt alarm sources room entered) mode.headOnly block))
      mode.followNext entered id
    return Layout.indent level (Layout.stack lines)

end Watch

/-! ## Renderings that agree -/

/-- From a session with the property, both renderings do the same, however they end, and leave a
session that has it, too. -/
def AgreesKeeping (p : Session → Prop) {α : Type} (r r' : Render α) : Prop :=
  ∀ session, p session → r' session = r session ∧ p (endOf r session)

section Agrees

variable {p : Session → Prop}

theorem renderRelation_agreesKeeping (htouched : ∀ {a b : Session}, a.Touched b → p a → p b) :
    RenderRelation (AgreesKeeping p) where
  refl := by
    intro α r hr session hsession
    obtain ⟨value, after, hrun, hafter⟩ := hr session
    rw [endOf_of_ok hrun]
    exact ⟨rfl, htouched hafter hsession⟩
  bind := by
    intro α β r r' f f' hr hf session hsession
    obtain ⟨hsame, hbetween⟩ := hr session hsession
    cases hrun : r session with
    | ok value between =>
      rw [endOf_of_ok hrun] at hbetween
      obtain ⟨hrest, hend⟩ := hf value between hbetween
      have hfirst := bind_of_ok hrun f
      have hend' : p (endOf (r >>= f) session) := by
        unfold endOf at hend ⊢
        rw [hfirst]
        exact hend
      rw [bind_of_ok (hsame.trans hrun) f', hfirst]
      exact ⟨hrest, hend'⟩
    | error failure between =>
      -- neither second part runs
      have hfirst := bind_of_error hrun f
      rw [endOf_of_error hrun] at hbetween
      rw [bind_of_error (hsame.trans hrun) f', endOf_of_error hfirst]
      exact ⟨hfirst.symm, hbetween⟩

theorem agreesKeeping_stop {α : Type} (fault : BlockFault) (entered : List String) :
    AgreesKeeping p (Render.stop fault entered : Render α) (Render.stop fault entered) :=
  fun _ hsession => ⟨rfl, hsession⟩

/-- A look finds nothing around a rendering that keeps the property. -/
theorem AgreesKeeping.watched [DecidablePred p] {α : Type} {r r' : Render α}
    (h : AgreesKeeping p r r') (alarm : Failure) :
    AgreesKeeping p r (Render.watched p alarm r') := by
  intro session hsession
  obtain ⟨hsame, hend⟩ := h session hsession
  have hend' : p (endOf r' session) := by
    unfold endOf at hend ⊢
    rw [hsame]
    exact hend
  refine ⟨?_, hend⟩
  unfold Render.watched
  rw [if_pos ⟨hsession, hend'⟩]
  exact hsame

/-- From a session with a property that notes and bindings keep, the looks find nothing. -/
theorem agreesKeeping_watchedAt [DecidablePred p]
    (htouched : ∀ {a b : Session}, a.Touched b → p a → p b) (alarm : Failure) (sources : Sources)
    (room : Nat) (entered : List String) (id : String) (level : Nat) (mode : Mode) :
    AgreesKeeping p (emitAt sources room entered id level mode)
      (watchedAt p alarm sources room entered id level mode) := by
  have hrel := renderRelation_agreesKeeping htouched
  induction room generalizing entered id level mode with
  | zero => exact agreesKeeping_stop _ _
  | succ room ih =>
    unfold emitAt watchedAt
    refine hrel.bind ?_ fun _ => hrel.pure _
    refine hrel.renderChain agreesKeeping_stop (fun inner block => ?_) _ _ _ _
    -- within the level the looks are around blocks that the level below agrees on
    exact (hrel.renderBlock (ih inner) sources.table mode.headOnly block).watched alarm

end Agrees

end BlockScribe
