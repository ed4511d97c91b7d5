import BlockScribe.Proofs.Emission.Scopes
import BlockScribe.Proofs.Target.Draft

/-! # What holds all over the draft of a target

The body of a procedure starts from the registered scope with the parameters of the procedure on
top, and the hats share what the registered scope grows into. So what every drafting of a single
statement guarantees, from scopes with a property that every step of a rendering keeps, holds of
all statements in a body if the body starts in such a scope (`Draft.Course.allWithin_body`), and of
all statements of the hats if the registered scope is one (`Draft.Course.allWithin_entries`).
-/

namespace BlockScribe

open Script

/-- All statements of an entry have a property. -/
def EntryDraft.AllWithin (q : Statement → Prop) : EntryDraft → Prop
  | .hat head body => BlockScribe.AllWithin q [head] ∧ BlockScribe.AllWithin q body
  | .placeholder _ => True

section Drafted

variable {sources : Sources} {p : Scope → Prop} {q : Statement → Prop}
  (hstep : ∀ {a b : Session}, Session.Step sources.blocks a b → p a.scope → p b.scope)
  (hown : DraftsAs sources.blocks p q)
  {drafting : Drafting}
  (hdrafting : ∀ id mode, StepsBy (Session.Step sources.blocks) (drafting id mode))
  (hnested : ∀ {id mode} {session after : Session} {lines : List Statement},
    drafting id mode session = .ok lines after → p session.scope → AllWithin q lines)
include hnested

/-- All statements in the body of a procedure have what the scope with the parameters brings. -/
theorem allWithin_of_draftProcedures {list : List Block} {session after : Session}
    {drafts : List ProcedureDraft}
    (h : draftProcedures drafting list session = .ok drafts after) :
    ∀ draft ∈ drafts, p (inherited (parameters draft.procedure) session.scope) →
      AllWithin q draft.body := by
  induction list generalizing session drafts with
  | nil =>
    cases h
    exact fun _ hnil => absurd hnil List.not_mem_nil
  | cons definition rest ih =>
    unfold draftProcedures at h
    rcases exists_of_bind_eq_ok h with ⟨_, _, hget, h⟩
    cases hget
    cases hdefined : session.scope.definedBy? definition.id with
    | none =>
      rw [hdefined] at h
      exact ih h
    | some procedure =>
      rw [hdefined] at h
      rcases exists_of_bind_eq_ok h with ⟨body, between, hbody, h⟩
      rcases exists_of_bind_eq_ok h with ⟨others, finish, hrest, h⟩
      cases h
      -- the body was drafted in the copy, which is where the property is asked for
      rcases onFork_eq_ok hbody with ⟨inner, hinner, rfl⟩
      intro draft hdraft hstart
      rcases List.mem_cons.1 hdraft with rfl | hother
      · exact allWithin_draftLink hnested hinner hstart
      · exact ih hrest draft hother hstart

include hstep hown hdrafting

theorem allWithin_of_draftHat {block : Block} {slots : List String} {session after : Session}
    {draft : EntryDraft} (h : draftHat drafting block slots session = .ok draft after)
    (hsession : p session.scope) : draft.AllWithin q := by
  rcases draftHat_eq_ok h with ⟨head, between, body, hhead, hbody, rfl⟩
  have hbetween := (stepsBy_draftCall hdrafting block block.opcode slots).keeps_scope hstep hhead
    hsession
  refine ⟨?_, allWithin_draftLink hnested hbody hbetween⟩
  exact allWithin_draftForm hstep hdrafting hnested hhead hsession (hown hdrafting hhead hsession)

theorem allWithin_of_draftEntries {list : List Block} {session after : Session}
    {drafts : List EntryDraft}
    (h : draftEntries sources.table drafting list session = .ok drafts after)
    (hsession : p session.scope) : ∀ draft ∈ drafts, draft.AllWithin q := by
  induction list generalizing session drafts with
  | nil =>
    cases h
    exact fun _ hnil => absurd hnil List.not_mem_nil
  | cons block rest ih =>
    unfold draftEntries at h
    cases hentry : entry sources.table block with
    | hat slots =>
      rw [hentry] at h
      rcases exists_of_bind_eq_ok h with ⟨hat, between, hhat, h⟩
      rcases exists_of_bind_eq_ok h with ⟨others, finish, hothers, h⟩
      cases h
      -- a hat leaves a scope in which the next one may start
      have hbetween := (stepsBy_draftHat hdrafting block slots).keeps_scope hstep hhat hsession
      intro draft hdraft
      rcases List.mem_cons.1 hdraft with rfl | hother
      · exact allWithin_of_draftHat hstep hown hdrafting hnested hhat hsession
      · exact ih hothers hbetween draft hother
    | undefined =>
      rw [hentry] at h
      rcases exists_of_bind_eq_ok h with ⟨others, finish, hothers, h⟩
      cases h
      intro draft hdraft
      rcases List.mem_cons.1 hdraft with rfl | hother
      · trivial
      · exact ih hothers hsession draft hother
    | nothing =>
      rw [hentry] at h
      exact ih h hsession

end Drafted

section Course

variable {table : SignatureTable} {target : Target}
  {start declared registered finish : Session} {draft : Draft}
  (h : draft.Course table target start declared registered finish)
  {p : Scope → Prop} {q : Statement → Prop}
  (hstep : ∀ {a b : Session}, Session.Step target.blocks a b → p a.scope → p b.scope)
  (hown : DraftsAs target.blocks p q)
include h hstep hown

theorem Draft.Course.allWithin_body {procedure : ProcedureDraft}
    (hprocedure : procedure ∈ draft.procedures)
    (hstart : p (inherited (parameters procedure.procedure) registered.scope)) :
    AllWithin q procedure.body := by
  rcases h.scripts_drafted with ⟨forked, hprocedures, -⟩
  refine allWithin_of_draftProcedures (fun hrun hsession => ?_) hprocedures procedure hprocedure
    hstart
  exact allWithin_draftAt hstep hown hrun hsession

theorem Draft.Course.allWithin_entries (hstart : p registered.scope) :
    ∀ e ∈ draft.entries, e.AllWithin q := by
  have hdrafting := stepsBy_draftAt ⟨table, target.blocks⟩ maxNesting []
  rcases h.scripts_drafted with ⟨forked, hprocedures, hentries⟩
  -- the procedures left the scope as they found it
  have hforked := (drafted_of_draftProcedures hdrafting hprocedures).1
  have hscope : p forked.scope := by
    rw [hforked]
    exact hstart
  refine allWithin_of_draftEntries ?_ ?_ hdrafting (fun hrun hsession => ?_) hentries hscope
  · exact hstep
  · exact hown
  · exact allWithin_draftAt hstep hown hrun hsession

end Course

end BlockScribe
