import Typology.Proofs.Judging
import Typology.Proofs.Run

/-!
# Queries that begin with a field

A question about a field and a query that begins by reading the field set aside the same languages
and ask the quorum about the same numbers. If each language fares alike in both, they agree.
-/

namespace Typology

open Standing

variable {q : FieldQuery} {field : String} {quorum : Quorum} {l : Language} {s : LanguageSet}
variable {rest : List Step} {e : Evaluation} {R : Cause → Standing → Prop}

/-- The step that reads a field, and other steps after it. -/
def Step.ofField (field : String) (rest : List Step) : List Step :=
  .transform (Extractor.get field).toTransformation :: rest

/-- The query that reads a field and goes on with other steps. -/
def Query.ofField (field : String) (rest : List Step) (quorum : Quorum) : Query :=
  ⟨Step.ofField field rest, quorum⟩

@[simp] theorem Query.steps_ofField (field : String) (rest : List Step) (quorum : Quorum) :
    (Query.ofField field rest quorum).steps = Step.ofField field rest := rfl

/-! ## Reading a field -/

theorem Extractor.apply_language (x : Extractor) (l : Language) :
    x.toTransformation.apply (start l).reading = x.extract l := by
  unfold Extractor.toTransformation Transformation.ofExtractor start
  dsimp only

namespace Standing

theorem pass_get_none (h : l.get? field = none) :
    (start l).pass 0 (.transform (Extractor.get field).toTransformation) =
      .error (.missing ⟨0, field, l.name⟩) := by
  have happly := Extractor.apply_language (.get field) l
  rw [Extractor.extract, show l.get? (Extractor.get field).field = none from h] at happly
  exact pass_transform_missing happly rfl

theorem pass_get_some {v : Value} (h : l.get? field = some v) :
    (start l).pass 0 (.transform (Extractor.get field).toTransformation) =
      .ok ((start l).take (Extractor.get field).toTransformation v) := by
  have happly := Extractor.apply_language (.get field) l
  rw [Extractor.extract, show l.get? (Extractor.get field).field = some v from h] at happly
  exact pass_transform_ok happly

theorem firstFault?_get (field : String) (languages : List Language) :
    firstFault? 0 (.transform (Extractor.get field).toTransformation) (languages.map start) =
      none := by
  refine firstFault?_eq_none fun st hst => ?_
  obtain ⟨l, -, rfl⟩ := List.mem_map.1 hst
  cases h : l.get? field with
  | none => rw [pass_get_none h]; rfl
  | some v => rw [pass_get_some h]; rfl

theorem stays_get (field : String) (l : Language) :
    stays 0 (.transform (Extractor.get field).toTransformation) (start l) =
      (l.get? field).isSome := by
  unfold stays
  cases h : l.get? field with
  | none => rw [pass_get_none h]; rfl
  | some v => rw [pass_get_some h]; rfl

theorem length_survivors_get (field : String) (languages : List Language) :
    (survivors 0 (.transform (Extractor.get field).toTransformation)
        (languages.map start)).length =
      languages.countP fun l => (l.get? field).isSome := by
  rw [length_survivors, List.countP_map]
  refine congrArg (List.countP · languages) (funext fun l => ?_)
  rw [Function.comp_apply, stays_get]

theorem datumOf_get (field : String) (l : Language) :
    datumOf ((start l).pass 0 (.transform (Extractor.get field).toTransformation)) =
      if (l.get? field).isNone then some ⟨0, field, l.name⟩ else none := by
  cases h : l.get? field with
  | none => rw [pass_get_none h]; rfl
  | some v => rw [pass_get_some h]; rfl

theorem lacking_get (field : String) (languages : List Language) :
    lacking 0 (.transform (Extractor.get field).toTransformation) (languages.map start) =
      (languages.filter fun l => (l.get? field).isNone).map fun l => ⟨0, field, l.name⟩ := by
  rw [lacking, List.filterMap_map, ← List.filterMap_eq_map, List.filterMap_filter]
  refine congrArg (List.filterMap · languages) (funext fun l => ?_)
  rw [Function.comp_apply, datumOf_get]
  rfl

end Standing

namespace Query

theorem ofField_shortfall {shortfall : Shortfall}
    (h : quorum.check field (s.languages.countP fun l => (l.get? field).isSome) s.size =
      .error shortfall) :
    (ofField field rest quorum).evaluate s = .error (.quorum shortfall) := by
  refine Evaluation.run_cons_error ((Evaluation.Reflects.start s).step_error_iff.2 ?_)
  refine .shortfall (firstFault?_get field s.languages) rfl rfl ?_
  rw [length_survivors_get, List.length_map]
  exact h

/-- With enough values the query is answered, if after the first step nothing can fail. -/
theorem ofField_ok (hkind : ∀ t, .transform t ∈ rest → t.kind ≠ .extractor)
    (hfault : ∀ l ∈ s.languages, ∀ error,
      (start l).course 0 (Step.ofField field rest) ≠ .error (.failed error))
    (h : quorum.check field (s.languages.countP fun l => (l.get? field).isSome) s.size = .ok ()) :
    ∃ e, (ofField field rest quorum).evaluate s = .ok e := by
  have hr := Evaluation.Reflects.start s
  obtain ⟨e₁, hstep⟩ : ∃ e₁, (Evaluation.start s).step quorum 0
      (.transform (Extractor.get field).toTransformation) = .ok e₁ := by
    refine hr.step_ok fun error hobstacle => ?_
    cases hobstacle with
    | fault hf => rw [firstFault?_get] at hf; cases hf
    | shortfall _ _ hfield hcheck =>
        cases hfield
        rw [length_survivors_get, List.length_map] at hcheck
        cases h.symm.trans hcheck
  have hf := hr.follows hstep
  have hrest : ∀ st ∈ survivors 0 (.transform (Extractor.get field).toTransformation)
      (s.languages.map start), ∀ error, st.course 1 rest ≠ .error (.failed error) := by
    intro st hst error hfail
    obtain ⟨first, hfirst, hp⟩ := mem_survivors.1 hst
    obtain ⟨l, hl, rfl⟩ := List.mem_map.1 hfirst
    exact hfault l hl error ((course_cons_ok hp _).trans hfail)
  obtain ⟨e, he⟩ := hf.reflects.run_ok hf.fresh hkind hrest
  exact ⟨e, (Evaluation.run_cons_ok hstep).trans he⟩

theorem noData_ofField (hs : ∀ l ∈ s.languages, ∀ d,
      (start l).course 0 (Step.ofField field rest) = .error (.missing d) → d.step = 0)
    (h : (ofField field rest quorum).evaluate s = .ok e) :
    e.noData = (s.languages.filter fun l => (l.get? field).isNone).map
      fun l => ⟨0, field, l.name⟩ := by
  rw [Query.noData_eq h, ← lacking_get, steps_ofField]
  refine lackingIn_cons_of_first fun st hst d hd => ?_
  obtain ⟨l, hl, rfl⟩ := List.mem_map.1 hst
  exact hs l hl d hd

end Query

/-! ## Agreement -/

namespace FieldQuery

theorem cause?_none (q : FieldQuery) (h : l.get? field = none) : q.cause? field l = none := by
  rw [cause?, h]
  rfl

theorem setsAside_none (q : FieldQuery) (h : l.get? field = none) :
    q.setsAside field l = true := by
  rw [setsAside, h]
  rfl

theorem cause?_matched {v : Value} {cause : Cause} (h : l.get? field = some v)
    (hv : q.judge v = .matched cause) : q.cause? field l = some cause := by
  rw [cause?, h, Option.map_some, hv]

theorem cause?_unmatched {v : Value} (h : l.get? field = some v) (hv : q.judge v = .unmatched) :
    q.cause? field l = none := by
  rw [cause?, h, Option.map_some, hv]

theorem setsAside_some {v : Value} (h : l.get? field = some v) (hv : q.judge v ≠ .unusable) :
    q.setsAside field l = false := by
  rw [setsAside, h, Option.map_some]
  cases hj : q.judge v with
  | unusable => exact absurd hj hv
  | _ => rfl

/-- How a language fares alike in a question and in a query: it lacks the field, it matches and
comes through, or it does not match and is dropped. `R` relates the cause to what comes through. -/
inductive FaresAlike (q : FieldQuery) (field : String) (rest : List Step)
    (R : Cause → Standing → Prop) (l : Language) : Prop where
  | absent : l.get? field = none → FaresAlike q field rest R l
  | matched {v cause st} : l.get? field = some v → q.judge v = .matched cause →
      ((start l).take (Extractor.get field).toTransformation v).course 1 rest = .ok st →
      R cause st → FaresAlike q field rest R l
  | unmatched {v n} : l.get? field = some v → q.judge v = .unmatched →
      ((start l).take (Extractor.get field).toTransformation v).course 1 rest =
        .error (.dropped n) → FaresAlike q field rest R l

namespace FaresAlike

theorem setsAside_eq (h : FaresAlike q field rest R l) :
    q.setsAside field l = (l.get? field).isNone := by
  cases h with
  | absent hnone => rw [setsAside_none q hnone, hnone]; rfl
  | matched hsome hj => rw [setsAside_some hsome (by simp [hj]), hsome]; rfl
  | unmatched hsome hj => rw [setsAside_some hsome (by simp [hj]), hsome]; rfl

/-- What becomes of the language in the query, beside its cause in the question. -/
theorem course_cases (h : FaresAlike q field rest R l) :
    (q.cause? field l = none ∧
      (start l).course 0 (Step.ofField field rest) =
        .error (.missing ⟨0, field, l.name⟩)) ∨
    (∃ n, q.cause? field l = none ∧
      (start l).course 0 (Step.ofField field rest) = .error (.dropped n)) ∨
    ∃ cause st, q.cause? field l = some cause ∧
      (start l).course 0 (Step.ofField field rest) = .ok st ∧ R cause st := by
  cases h with
  | absent hnone =>
      exact .inl ⟨cause?_none q hnone, course_cons_error (pass_get_none hnone) rest⟩
  | @unmatched v n hsome hj hc =>
      refine .inr (.inl ⟨n, cause?_unmatched hsome hj, ?_⟩)
      exact (course_cons_ok (pass_get_some hsome) rest).trans hc
  | @matched v cause st hsome hj hc hR =>
      refine .inr (.inr ⟨cause, st, cause?_matched hsome hj, ?_, hR⟩)
      exact (course_cons_ok (pass_get_some hsome) rest).trans hc

theorem course_ne_failed (h : FaresAlike q field rest R l) (error : QueryError) :
    (start l).course 0 (Step.ofField field rest) ≠ .error (.failed error) := by
  rcases h.course_cases with ⟨-, hc⟩ | ⟨n, -, hc⟩ | ⟨cause, st, -, hc, -⟩ <;>
    simp [hc]

theorem step_eq_zero {d : MissingDatum} (h : FaresAlike q field rest R l)
    (hd : (start l).course 0 (Step.ofField field rest) = .error (.missing d)) :
    d.step = 0 := by
  rcases h.course_cases with ⟨-, hc⟩ | ⟨n, -, hc⟩ | ⟨cause, st, -, hc, -⟩ <;>
    cases hc.symm.trans hd
  rfl

end FaresAlike

/-- If every language fares alike in a question and in a query, both fail with one shortfall, or
they find the same languages and set the same ones aside. -/
theorem agrees_ofField (quorum : Quorum) (hq : q.field? = some field)
    (hkind : ∀ t, .transform t ∈ rest → t.kind ≠ .extractor)
    (hs : ∀ l ∈ s.languages, FaresAlike q field rest R l) :
    (∃ shortfall, q.run s quorum = .error (.quorum shortfall) ∧
      (Query.ofField field rest quorum).evaluate s = .error (.quorum shortfall)) ∨
    ∃ m e, q.run s quorum = .ok m ∧ (Query.ofField field rest quorum).evaluate s = .ok e ∧
      m.languages.languages = e.languageSet.languages ∧
      e.noData = m.noData.map (fun l => ⟨0, field, l.name⟩) ∧
      List.Forall₂ (fun found st => R found.cause st) m.toList
        (remaining 0 (Step.ofField field rest) (s.languages.map start)) := by
  have hcount : (s.languages.countP fun l => !q.setsAside field l) =
      s.languages.countP fun l => (l.get? field).isSome := by
    refine List.countP_congr fun l hl => ?_
    rw [(hs l hl).setsAside_eq, Option.not_isNone]
  have hrun : q.run s quorum = _ := run_eq hq
  rw [hcount] at hrun
  cases hcheck : quorum.check field (s.languages.countP fun l => (l.get? field).isSome) s.size with
  | error shortfall =>
      rw [hcheck] at hrun
      exact .inl ⟨shortfall, hrun, Query.ofField_shortfall hcheck⟩
  | ok u =>
      rw [hcheck] at hrun
      obtain ⟨e, he⟩ := Query.ofField_ok hkind (fun l hl => (hs l hl).course_ne_failed) hcheck
      have hnoData := Query.noData_ofField (fun l hl _ => (hs l hl).step_eq_zero) he
      refine .inr ⟨_, e, hrun, he, ?_, ?_, ?_⟩
      · rw [languages_ofJudged, Query.languages_eq he, Query.steps_ofField]
        refine List.filter_congr fun l hl => ?_
        rcases (hs l hl).course_cases with
          ⟨hc, h⟩ | ⟨n, hc, h⟩ | ⟨c, st, hc, h, -⟩ <;> rw [hc, h] <;> rfl
      · rw [hnoData, noData_ofJudged]
        exact congrArg _ (List.filter_congr fun l hl => (hs l hl).setsAside_eq.symm)
      · rw [toList_ofJudged, remaining, List.filterMap_map]
        refine forall₂_filterMap fun l hl => ?_
        rw [Function.comp_apply]
        rcases (hs l hl).course_cases with
          ⟨hc, h⟩ | ⟨n, hc, h⟩ | ⟨c, st, hc, h, hR⟩ <;> rw [hc, h]
        · exact .none
        · exact .none
        · exact .some hR

end FieldQuery

end Typology
