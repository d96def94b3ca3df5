import Typology.Proofs.Reflection

/-!
# Runs of a query

What one step keeps up a whole run keeps up: at its end the state reflects what the steps make of
each language on its own, and a run fails at the first step that meets an obstacle.
-/

namespace Typology

open Standing

namespace Evaluation

variable {e e' : Evaluation} {quorum : Quorum} {n : Nat} {s : Step} {sts : List Standing}
variable {steps : List Step} {error : QueryError}

theorem run_cons_ok (h : e.step quorum n s = .ok e') :
    run quorum n (s :: steps) e = run quorum (n + 1) steps e' := by
  rw [run, h]
  rfl

theorem run_cons_error (h : e.step quorum n s = .error error) :
    run quorum n (s :: steps) e = .error error := by
  rw [run, h]
  rfl

theorem run_eq_chain (quorum : Quorum) : run quorum = chain fun n e s => e.step quorum n s := by
  funext n steps e
  induction steps generalizing n e with
  | nil => rfl
  | cons s rest ih =>
      cases hstep : e.step quorum n s with
      | error error => rw [run_cons_error hstep, chain_cons_error hstep]
      | ok e' => rw [run_cons_ok hstep, chain_cons_ok hstep, ih]

theorem run_cons_eq_ok (h : run quorum n (s :: steps) e = .ok e') :
    ∃ e₁, e.step quorum n s = .ok e₁ ∧ run quorum (n + 1) steps e₁ = .ok e' := by
  rw [run_eq_chain] at h ⊢
  exact chain_cons_eq_ok h

theorem run_append (quorum : Quorum) (n : Nat) (before after : List Step) (e : Evaluation) :
    run quorum n (before ++ after) e =
      (run quorum n before e).bind (run quorum (n + before.length) after) := by
  rw [run_eq_chain]
  exact chain_append _ n before after e

theorem run_append_eq_ok {before after : List Step}
    (h : run quorum n (before ++ after) e = .ok e') :
    ∃ e₁, run quorum n before e = .ok e₁ ∧ run quorum (n + before.length) after e₁ = .ok e' := by
  rw [run_eq_chain] at h ⊢
  exact chain_append_eq_ok h

theorem run_error_iff :
    run quorum n steps e = .error error ↔
      ∃ before s after e₁, steps = before ++ s :: after ∧ run quorum n before e = .ok e₁ ∧
        e₁.step quorum (n + before.length) s = .error error := by
  rw [run_eq_chain]
  exact chain_error_iff

/-- What a run leaves, told language by language. -/
theorem Reflects.after_run (hr : e.Reflects sts) (h : run quorum n steps e = .ok e') :
    e'.Reflects (remaining n steps sts) ∧ e'.noData = e.noData ++ lackingIn n steps sts := by
  induction steps generalizing n e sts with
  | nil =>
      cases h
      rw [remaining_nil, lackingIn_nil, List.append_nil]
      exact ⟨hr, rfl⟩
  | cons s rest ih =>
      obtain ⟨e₁, hstep, hrest⟩ := run_cons_eq_ok h
      have hf := hr.follows hstep
      rw [remaining_cons, lackingIn_cons, ← List.append_assoc, ← hf.noData]
      exact ih hf.reflects hrest

/-- Only languages are in hand as long as no transformation has run. -/
theorem Reflects.run_fresh (hr : e.Reflects sts) (h : run quorum n steps e = .ok e') :
    e'.results.areLanguages = true ↔
      e.results.areLanguages = true ∧ ∀ t, .transform t ∉ steps := by
  induction steps generalizing n e sts with
  | nil => cases h; simp
  | cons s rest ih =>
      obtain ⟨e₁, hstep, hrest⟩ := run_cons_eq_ok h
      have hf := hr.follows hstep
      rw [ih hf.reflects hrest, hf.fresh]
      cases s with
      | transform t =>
          constructor
          · rintro ⟨hfalse, -⟩
            cases hfalse
          · rintro ⟨-, hnone⟩
            exact absurd List.mem_cons_self (hnone t)
      | directive d => simp [Step.leavesFresh]

/-- Without extractors, steps on values go through if no language makes them fail. -/
theorem Reflects.run_ok (hr : e.Reflects sts) (hvalues : e.results.areLanguages = false)
    (hkind : ∀ t, .transform t ∈ steps → t.kind ≠ .extractor)
    (hfault : ∀ st ∈ sts, ∀ error, st.course n steps ≠ .error (.failed error)) :
    ∃ e', run quorum n steps e = .ok e' := by
  induction steps generalizing n e sts with
  | nil => exact ⟨e, rfl⟩
  | cons s rest ih =>
      have hnone : firstFault? n s sts = none := by
        refine firstFault?_eq_none fun st hst => ?_
        refine Option.eq_none_iff_forall_ne_some.2 fun error hf => ?_
        exact hfault st hst error (course_cons_error (faultOf_eq_some.1 hf) rest)
      obtain ⟨e₁, hstep⟩ : ∃ e₁, e.step quorum n s = .ok e₁ := by
        refine hr.step_ok fun error hobstacle => ?_
        cases hobstacle with
        | fault hf => rw [hnone] at hf; cases hf
        | shortfall _ hk _ _ => exact hkind _ List.mem_cons_self hk
        | context hfresh => rw [hvalues] at hfresh; cases hfresh
      have hf := hr.follows hstep
      rw [run_cons_ok hstep]
      refine ih hf.reflects ?_ (fun t ht => hkind t (List.mem_cons_of_mem _ ht)) ?_
      · rw [hf.fresh, hvalues]
        cases s <;> rfl
      · intro st' hst' error hfail
        obtain ⟨st, hst, hp⟩ := mem_survivors.1 hst'
        exact hfault st hst error ((course_cons_ok hp rest).trans hfail)

end Evaluation

namespace Query

/-- The step with the given number is the first that fails, with the error. -/
def FailsAt (q : Query) (s : LanguageSet) (number : Nat) (error : QueryError) : Prop :=
  ∃ before step after e, q.steps = before ++ step :: after ∧ before.length = number ∧
    Query.evaluate ⟨before, q.quorum⟩ s = .ok e ∧ e.step q.quorum number step = .error error

variable {q : Query} {s : LanguageSet} {e : Evaluation} {error : QueryError}

theorem evaluate_error_iff_failsAt :
    q.evaluate s = .error error ↔ ∃ number, q.FailsAt s number error := by
  show Evaluation.run q.quorum 0 q.steps (.start s) = _ ↔ _
  rw [Evaluation.run_error_iff]
  constructor
  · rintro ⟨before, step, after, e, hsteps, he, hfail⟩
    rw [Nat.zero_add] at hfail
    exact ⟨before.length, before, step, after, e, hsteps, rfl, he, hfail⟩
  · rintro ⟨number, before, step, after, e, hsteps, rfl, he, hfail⟩
    rw [← Nat.zero_add before.length] at hfail
    exact ⟨before, step, after, e, hsteps, he, hfail⟩

theorem reflects (h : q.evaluate s = .ok e) :
    e.Reflects (remaining 0 q.steps (s.languages.map .start)) :=
  ((Evaluation.Reflects.start s).after_run h).1

theorem noData_eq (h : q.evaluate s = .ok e) :
    e.noData = lackingIn 0 q.steps (s.languages.map .start) :=
  ((Evaluation.Reflects.start s).after_run h).2

theorem languages_eq (h : q.evaluate s = .ok e) :
    e.languageSet.languages =
      s.languages.filter fun l => ((start l).course 0 q.steps).toBool := by
  rw [(reflects h).languages, remaining_language, List.filter_map, List.map_map]
  exact List.map_id _

end Query

/-- Asks for the languages without tone, and captures what they have. -/
def toneless : Query where
  steps := [.transform (Extractor.get "tone").toTransformation, .directive .extractContext,
    .transform Predicate.not.toTransformation, .directive .filter]
  quorum := .half

end Typology
