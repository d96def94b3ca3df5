import Typology.Proofs.Run

/-!
# The first failure of a query

A query fails at the first step that fails on what the steps before it have made. Within a step, a
failure of one language goes before a shortfall of languages, and the first such language is named.
-/

namespace Typology

open Standing

theorem Quorum.check_eq_error {quorum : Quorum} {field : String} {present total : Nat}
    (h : quorum.check field present total ≠ .ok ()) :
    quorum.check field present total = .error ⟨field, present, total, quorum.threshold⟩ := by
  unfold check at h ⊢
  split at h
  · rw [if_pos ‹_›]
  · exact absurd rfl h

namespace Evaluation

/-- The active languages with what is in hand for them. -/
def active (e : Evaluation) : List (Language × Reading) :=
  e.languageSet.languages.zip e.results.toList

/-- How a step fails on the state `e` that the steps `before` it have made. -/
inductive FailsWith (quorum : Quorum) (before : List Step) (e : Evaluation) :
    Step → QueryError → Prop where
  /-- The first language for which a transformation ends the query is named. -/
  | aborted {t earlier l r later source} :
      e.active = earlier ++ (l, r) :: later → (∀ entry ∈ earlier, t.Spares entry.2) →
      t.apply r = .error source → t.Aborts source →
      FailsWith quorum before e (.transform t)
        (.transformation before.length t.name l.name source)
  /-- If there is none, an extractor with a field may have given too little. -/
  | short {t field present} :
      (∀ entry ∈ e.active, t.Spares entry.2) → t.kind = .extractor → t.field = some field →
      present = e.active.countP (fun entry => (t.apply entry.2).isOk) →
      quorum.check field present e.languageSet.size ≠ .ok () →
      FailsWith quorum before e (.transform t)
        (.quorum ⟨field, present, e.languageSet.size, quorum.threshold⟩)
  | nothingToCapture :
      (∀ t, .transform t ∉ before) →
      FailsWith quorum before e (.directive .extractContext) (.contextFromLanguages before.length)
  /-- The first language whose result is not a bool is named. -/
  | notBool {earlier l r later} :
      e.active = earlier ++ (l, r) :: later → (∀ entry ∈ earlier, entry.2.asBool? ≠ none) →
      r.asBool? = none →
      FailsWith quorum before e (.directive .filter)
        (.nonBooleanFilter before.length l.name r.typeName)

variable {e : Evaluation} {quorum : Quorum} {n : Nat} {s : Step} {st : Standing}
variable {sts : List Standing} {before : List Step} {t : Transformation} {error : QueryError}

/-! ## Failures of a step -/

theorem isOk_apply (n : Nat) (t : Transformation) (st : Standing) :
    (t.apply st.reading).isOk = stays n (.transform t) st := by
  have h := congrArg Option.isSome (pass_transform_toOption n t st)
  rw [Option.isSome_map, isSome_toOption, isSome_toOption] at h
  exact h.symm

theorem Reflects.countP_active (hr : e.Reflects sts) (n : Nat) (t : Transformation) :
    e.active.countP (fun entry => (t.apply entry.2).isOk) =
      (survivors n (.transform t) sts).length := by
  rw [active, hr.active_eq, List.countP_map, length_survivors]
  exact congrArg (List.countP · sts) (funext (isOk_apply n t))

theorem Reflects.active_append {earlier later : List Standing}
    (hr : e.Reflects (earlier ++ st :: later)) :
    e.active = earlier.map (fun x => (x.language, x.reading)) ++
      (st.language, st.reading) :: later.map fun x => (x.language, x.reading) := by
  rw [active, hr.active_eq, List.map_append, List.map_cons]

/-- Where the active languages are cut, the standings can be cut. -/
theorem Reflects.split_active (hr : e.Reflects sts) {earlier later : List (Language × Reading)}
    {l : Language} {r : Reading} (h : e.active = earlier ++ (l, r) :: later) :
    ∃ before st after, sts = before ++ st :: after ∧ st.language = l ∧ st.reading = r ∧
      ∀ x ∈ before, (x.language, x.reading) ∈ earlier := by
  rw [active, hr.active_eq, List.map_eq_append_iff] at h
  obtain ⟨before, rest, rfl, rfl, hrest⟩ := h
  obtain ⟨st, after, rfl, hst, -⟩ := List.map_eq_cons_iff.1 hrest
  cases hst
  exact ⟨before, st, after, rfl, rfl, rfl, fun x hx => List.mem_map_of_mem hx⟩

theorem Reflects.failsWith_of_obstacle (hr : e.Reflects sts)
    (hfresh : e.results.areLanguages = true ↔ ∀ t, .transform t ∉ before)
    (h : Obstacle quorum before.length sts e.results.areLanguages s error) :
    FailsWith quorum before e s error := by
  cases h with
  | context hf => exact .nothingToCapture (hfresh.1 hf)
  | @shortfall t field _ hnone hk hfield hcheck =>
      have hne : quorum.check field (survivors before.length (.transform t) sts).length
          sts.length ≠ .ok () := by
        rw [hcheck]
        exact fun h => nomatch h
      rw [Quorum.check_eq_error hne] at hcheck
      cases hcheck
      rw [← hr.size_eq]
      rw [← hr.size_eq] at hne
      refine .short (fun entry hentry => ?_) hk hfield (hr.countP_active before.length _).symm hne
      rw [active, hr.active_eq] at hentry
      obtain ⟨st, hst, rfl⟩ := List.mem_map.1 hentry
      exact faultOf_transform_eq_none.1 (List.findSome?_eq_none_iff.1 hnone st hst)
  | fault hfault =>
      obtain ⟨earlier, st, later, rfl, hst, hnone⟩ := List.findSome?_eq_some_iff.1 hfault
      cases s with
      | transform t =>
          obtain ⟨source, hs, ha, rfl⟩ := faultOf_transform_eq_some.1 hst
          refine .aborted hr.active_append (fun entry hentry => ?_) hs ha
          obtain ⟨x, hx, rfl⟩ := List.mem_map.1 hentry
          exact faultOf_transform_eq_none.1 (hnone x hx)
      | directive d =>
          cases d with
          | extractContext =>
              obtain ⟨⟨l, hl⟩, rfl⟩ := faultOf_extractContext_eq_some.1 hst
              cases hres : e.results with
              | languages ls => exact .nothingToCapture (hfresh.1 (by rw [hres]; rfl))
              | values vs =>
                  obtain ⟨v, hv⟩ := hr.reading_value hres
                    (List.mem_append_right earlier List.mem_cons_self)
                  rw [hl] at hv
                  cases hv
          | filter =>
              obtain ⟨hb, rfl⟩ := faultOf_filter_eq_some.1 hst
              refine .notBool hr.active_append (fun entry hentry => ?_) hb
              obtain ⟨x, hx, rfl⟩ := List.mem_map.1 hentry
              exact faultOf_filter_eq_none.1 (hnone x hx)

theorem Reflects.obstacle_of_failsWith (hr : e.Reflects sts)
    (hfresh : e.results.areLanguages = true ↔ ∀ t, .transform t ∉ before)
    (h : FailsWith quorum before e s error) :
    Obstacle quorum before.length sts e.results.areLanguages s error := by
  cases h with
  | nothingToCapture hnone => exact .context (hfresh.2 hnone)
  | short hspares hk hfield hpresent hcheck =>
      subst hpresent
      rw [hr.countP_active before.length, hr.size_eq] at hcheck ⊢
      refine .shortfall (firstFault?_eq_none fun st hst => ?_) hk hfield
        (Quorum.check_eq_error hcheck)
      rw [active, hr.active_eq] at hspares
      exact faultOf_transform_eq_none.2 (hspares _ (List.mem_map_of_mem hst))
  | aborted hentries hspares hs ha =>
      obtain ⟨earlier, st, later, rfl, rfl, rfl, hmem⟩ := hr.split_active hentries
      refine .fault (List.findSome?_eq_some_iff.2 ⟨earlier, st, later, rfl, ?_, fun x hx => ?_⟩)
      · exact faultOf_transform_eq_some.2 ⟨_, hs, ha, rfl⟩
      · exact faultOf_transform_eq_none.2 (hspares _ (hmem x hx))
  | notBool hentries hbools hb =>
      obtain ⟨earlier, st, later, rfl, rfl, rfl, hmem⟩ := hr.split_active hentries
      refine .fault (List.findSome?_eq_some_iff.2 ⟨earlier, st, later, rfl, ?_, fun x hx => ?_⟩)
      · exact faultOf_filter_eq_some.2 ⟨hb, rfl⟩
      · exact faultOf_filter_eq_none.2 (hbools _ (hmem x hx))

end Evaluation

open Evaluation

theorem Query.step_error_iff_failsWith {quorum : Quorum} {before : List Step} {s : LanguageSet}
    {e : Evaluation} {step : Step} {error : QueryError}
    (h : Query.evaluate ⟨before, quorum⟩ s = .ok e) :
    e.step quorum before.length step = .error error ↔ FailsWith quorum before e step error := by
  have hr := Query.reflects h
  have hfresh : e.results.areLanguages = true ↔ ∀ t, .transform t ∉ before :=
    ((Reflects.start s).run_fresh h).trans ⟨fun h => h.2, fun h => ⟨rfl, h⟩⟩
  rw [hr.step_error_iff]
  exact ⟨hr.failsWith_of_obstacle hfresh, hr.obstacle_of_failsWith hfresh⟩

/-- A query fails with an error if and only if the steps before some step go through and that step
fails with the error on what they have made. -/
theorem Query.evaluate_error_iff {q : Query} {s : LanguageSet} {error : QueryError} :
    q.evaluate s = .error error ↔
      ∃ before step after e, q.steps = before ++ step :: after ∧
        Query.evaluate ⟨before, q.quorum⟩ s = .ok e ∧
        FailsWith q.quorum before e step error := by
  rw [Query.evaluate_error_iff_failsAt]
  constructor
  · rintro ⟨_, before, step, after, e, hsteps, rfl, he, hfail⟩
    exact ⟨before, step, after, e, hsteps, he, (Query.step_error_iff_failsWith he).1 hfail⟩
  · rintro ⟨before, step, after, e, hsteps, he, hfail⟩
    exact ⟨before.length, before, step, after, e, hsteps, rfl, he,
      (Query.step_error_iff_failsWith he).2 hfail⟩

end Typology
