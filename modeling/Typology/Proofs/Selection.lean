import Typology.Proofs.Rows

/-!
# Queries on some of the languages

What a query says of a language depends on no other language and not on the order of the set. Only
the quorum can keep some of the languages from an answer that all of them have.
-/

namespace Typology

open Standing LanguageSet

/-- The same kind of failure, at the same step; a quorum is missed in the same way. -/
def QueryError.Alike : QueryError → QueryError → Prop
  | .transformation step name _ _, .transformation step' name' _ _ => step = step' ∧ name = name'
  | .contextFromLanguages step, .contextFromLanguages step' => step = step'
  | .nonBooleanFilter step _ _, .nonBooleanFilter step' _ _ => step = step'
  | .quorum shortfall, .quorum shortfall' => shortfall = shortfall'
  | _, _ => False

variable {quorum : Quorum} {n : Nat} {s : Step} {steps : List Step} {st st' : Standing}
variable {sts sts' : List Standing} {error error' : QueryError} {fresh : Bool}

/-! ## Obstacles for other lists of standings -/

namespace Standing

theorem faultOf_alike (h : faultOf (st.pass n s) = some error)
    (h' : faultOf (st'.pass n s) = some error') : error.Alike error' := by
  cases s with
  | transform t =>
      obtain ⟨source, -, -, rfl⟩ := faultOf_transform_eq_some.1 h
      obtain ⟨source', -, -, rfl⟩ := faultOf_transform_eq_some.1 h'
      exact ⟨rfl, rfl⟩
  | directive d =>
      cases d with
      | extractContext =>
          obtain ⟨-, rfl⟩ := faultOf_extractContext_eq_some.1 h
          obtain ⟨-, rfl⟩ := faultOf_extractContext_eq_some.1 h'
          rfl
      | filter =>
          obtain ⟨-, rfl⟩ := faultOf_filter_eq_some.1 h
          obtain ⟨-, rfl⟩ := faultOf_filter_eq_some.1 h'
          rfl

theorem firstFault?_of_mem (hst : st ∈ sts) (h : faultOf (st.pass n s) = some error) :
    ∃ error', firstFault? n s sts = some error' ∧ error.Alike error' := by
  cases hfirst : firstFault? n s sts with
  | none =>
      rw [List.findSome?_eq_none_iff.1 hfirst st hst] at h
      cases h
  | some error' =>
      obtain ⟨other, -, hother⟩ := List.exists_of_findSome?_eq_some hfirst
      exact ⟨error', rfl, faultOf_alike h hother⟩

theorem firstFault?_of_subset (hsub : ∀ st ∈ sts', st ∈ sts)
    (h : firstFault? n s sts' = some error) :
    ∃ error', firstFault? n s sts = some error' ∧ error.Alike error' := by
  obtain ⟨st, hst, hfault⟩ := List.exists_of_findSome?_eq_some h
  exact firstFault?_of_mem (hsub st hst) hfault

end Standing

/-- An obstacle for some of the standings is a shortfall or comes with one for all of them. -/
theorem Obstacle.of_subset (hsub : ∀ st ∈ sts', st ∈ sts)
    (h : Obstacle quorum n sts' fresh s error) :
    (∃ shortfall, error = .quorum shortfall) ∨ ∃ error', Obstacle quorum n sts fresh s error' := by
  cases h with
  | fault hfault =>
      obtain ⟨error', hfirst, -⟩ := firstFault?_of_subset hsub hfault
      exact .inr ⟨error', .fault hfirst⟩
  | shortfall => exact .inl ⟨_, rfl⟩
  | context hfresh => exact .inr ⟨_, .context hfresh⟩

/-- In another order the standings put up an obstacle of the same kind. -/
theorem Obstacle.of_perm (hp : sts'.Perm sts) (h : Obstacle quorum n sts' fresh s error) :
    ∃ error', Obstacle quorum n sts fresh s error' ∧ error.Alike error' := by
  cases h with
  | fault hfault =>
      obtain ⟨error', hfirst, halike⟩ := firstFault?_of_subset (fun _ => hp.mem_iff.1) hfault
      exact ⟨error', .fault hfirst, halike⟩
  | @shortfall t field shortfall hnone hk hfield hcheck =>
      refine ⟨.quorum shortfall, .shortfall ?_ hk hfield ?_, rfl⟩
      · exact firstFault?_eq_none fun st hst =>
          List.findSome?_eq_none_iff.1 hnone st (hp.mem_iff.2 hst)
      · have hsurvivors : (survivors n (.transform t) sts').length =
            (survivors n (.transform t) sts).length := (hp.filterMap _).length_eq
        rw [← hsurvivors, ← hp.length_eq]
        exact hcheck
  | context hfresh => exact ⟨_, .context hfresh, rfl⟩

/-! ## Two runs of the same steps -/

namespace Evaluation

variable {e e' e₁ : Evaluation}

/-- Of two runs of the same steps, the second goes through with the first or fails in an expected
way, if this holds for each step as long as the standings of the two are related. -/
theorem Reflects.run_lockstep (Related : List Standing → List Standing → Prop)
    (Expected : QueryError → Prop)
    (hsurvivors : ∀ {n s sts sts'}, Related sts sts' →
      Related (survivors n s sts) (survivors n s sts'))
    (hobstacle : ∀ {n s sts sts' fresh error}, Related sts sts' →
      Obstacle quorum n sts' fresh s error →
        Expected error ∨ ∃ error', Obstacle quorum n sts fresh s error')
    (hr : e.Reflects sts) (hr' : e'.Reflects sts') (hrel : Related sts sts')
    (hfresh : e.results.areLanguages = e'.results.areLanguages)
    (h : run quorum n steps e = .ok e₁) :
    (∃ error, Expected error ∧ run quorum n steps e' = .error error) ∨
      ∃ e₁', run quorum n steps e' = .ok e₁' ∧
        e₁.results.areLanguages = e₁'.results.areLanguages := by
  induction steps generalizing n e e' sts sts' with
  | nil =>
      cases h
      exact .inr ⟨e', rfl, hfresh⟩
  | cons s rest ih =>
      obtain ⟨e₂, hstep, hrest⟩ := run_cons_eq_ok h
      have hf := hr.follows hstep
      cases hstep' : e'.step quorum n s with
      | error error =>
          refine .inl ⟨error, ?_, run_cons_error hstep'⟩
          rcases hobstacle hrel (hr'.step_error_iff.1 hstep') with hexpected | ⟨error', hobs⟩
          · exact hexpected
          -- the obstacle would have stopped the first run too
          · rw [← hfresh, ← hr.step_error_iff, hstep] at hobs
            cases hobs
      | ok e₂' =>
          have hf' := hr'.follows hstep'
          rw [run_cons_ok hstep']
          refine ih hf.reflects hf'.reflects (hsurvivors hrel) ?_ hrest
          rw [hf.fresh, hf'.fresh, hfresh]

theorem Reflects.run_of_subset (hr : e.Reflects sts) (hr' : e'.Reflects sts')
    (hsub : ∀ st ∈ sts', st ∈ sts) (hfresh : e.results.areLanguages = e'.results.areLanguages)
    (h : run quorum n steps e = .ok e₁) :
    (∃ shortfall, run quorum n steps e' = .error (.quorum shortfall)) ∨
      ∃ e₁', run quorum n steps e' = .ok e₁' := by
  have hsurvivors : ∀ {n s} {sts sts' : List Standing}, (∀ st ∈ sts', st ∈ sts) →
      ∀ st ∈ survivors n s sts', st ∈ survivors n s sts := by
    intro n s sts sts' hsub st hst
    obtain ⟨first, hfirst, hp⟩ := mem_survivors.1 hst
    exact mem_survivors.2 ⟨first, hsub first hfirst, hp⟩
  have hrun := hr.run_lockstep (fun sts sts' => ∀ st ∈ sts', st ∈ sts)
    (fun error => ∃ shortfall, error = .quorum shortfall) hsurvivors Obstacle.of_subset hr' hsub
    hfresh h
  rcases hrun with ⟨error, ⟨shortfall, rfl⟩, hfail⟩ | ⟨e₁', hok, -⟩
  · exact .inl ⟨shortfall, hfail⟩
  · exact .inr ⟨e₁', hok⟩

theorem Reflects.run_of_perm (hr : e.Reflects sts) (hr' : e'.Reflects sts')
    (hp : sts'.Perm sts) (hfresh : e.results.areLanguages = e'.results.areLanguages)
    (h : run quorum n steps e = .ok e₁) :
    ∃ e₁', run quorum n steps e' = .ok e₁' ∧
      e₁.results.areLanguages = e₁'.results.areLanguages := by
  have hrun := hr.run_lockstep (fun sts sts' => sts'.Perm sts) (fun _ => False)
    (fun hp => hp.filterMap _) (fun hp hobs => .inr ((hobs.of_perm hp).imp fun _ h => h.1)) hr'
    hp hfresh h
  exact hrun.resolve_left fun ⟨_, hfalse, _⟩ => hfalse

/-- The row of a language, if it is active. -/
def row? (e : Evaluation) (l : Language) : Option Row :=
  (e.languageSet.languages.findIdx? (·.same l)).bind (e.rows[·]?)

end Evaluation

namespace Query

/-- The datum for which a query leaves a language out. -/
def missing? (q : Query) (l : Language) : Option MissingDatum :=
  datumOf ((start l).course 0 q.steps)

theorem missing?_eq_some {q : Query} {l : Language} {d : MissingDatum}
    (h : q.missing? l = some d) :
    ∃ before t after st source, q.steps = before ++ .transform t :: after ∧
      (start l).course 0 before = .ok st ∧ t.apply st.reading = .error source ∧
      t.lacks? source = some d.field ∧ d.step = before.length ∧ d.language = l.name := by
  obtain ⟨before, t, after, st, source, hsteps, hc, hs, hf, hd, hl⟩ :=
    course_missing (datumOf_eq_some.1 h)
  rw [Nat.zero_add] at hd
  exact ⟨before, t, after, st, source, hsteps, hc, hs, hf, hd, hl⟩

/-- The data for which a query leaves languages out, by step and then in the order of these. -/
def missingAmong (q : Query) (languages : List Language) : List MissingDatum :=
  (List.range q.steps.length).flatMap fun k =>
    languages.filterMap fun l => (q.missing? l).filter (·.step == k)

variable {q : Query} {s s' : LanguageSet} {e : Evaluation} {l : Language}

theorem noData_eq_missingAmong (h : q.evaluate s = .ok e) :
    e.noData = q.missingAmong s.languages := by
  rw [noData_eq h, lackingIn, missingAmong, List.range_eq_range']
  simp only [List.filterMap_map]
  rfl

/-- The row of a language can be told from the language alone. -/
theorem row?_eq (hs : s.Built) (h : q.evaluate s = .ok e) (hl : l ∈ s.languages) :
    e.row? l = ((start l).course 0 q.steps).toOption.map Standing.row := by
  have hr := q.reflects h
  rw [Evaluation.row?, hr.rows_eq (q.remembers hs h), hr.languages, List.findIdx?_map]
  exact (bind_findIdx?_map _ _ _).trans (congrArg _ (find?_remaining hs.coherent hl))

theorem contains_eq (hs : s.Built) (h : q.evaluate s = .ok e) (hl : l ∈ s.languages) :
    e.languageSet.contains l = ((start l).course 0 q.steps).toBool := by
  rw [Bool.eq_iff_iff, LanguageSet.contains, languages_eq h, List.any_eq_true]
  constructor
  · rintro ⟨l', hl', hsame⟩
    obtain ⟨hmem, hstays⟩ := List.mem_filter.1 hl'
    rwa [← hs.coherent l' hmem l hl hsame]
  · intro hstays
    exact ⟨l, List.mem_filter.2 ⟨hl, hstays⟩, l.same_self⟩

theorem rows_of_subset {part : Evaluation} (hs : s.Built) (hs' : s'.Built)
    (hsub : ∀ l ∈ s'.languages, l ∈ s.languages) (h : q.evaluate s = .ok e)
    (hpart : q.evaluate s' = .ok part) :
    part.languageSet.languages = s'.languages.filter e.languageSet.contains ∧
      part.rows = s'.languages.filterMap e.row? := by
  constructor
  · rw [languages_eq hpart]
    exact List.filter_congr fun l hl => (contains_eq hs h (hsub l hl)).symm
  · rw [rows_eq hs' hpart]
    exact List.filterMap_congr fun l hl => (row?_eq hs h (hsub l hl)).symm

/-! ## Fewer languages, and another order -/

theorem evaluate_of_subset (hsub : ∀ l ∈ s'.languages, l ∈ s.languages)
    (h : q.evaluate s = .ok e) :
    (∃ shortfall, q.evaluate s' = .error (.quorum shortfall)) ∨
      ∃ part, q.evaluate s' = .ok part := by
  refine (Evaluation.Reflects.start s).run_of_subset (.start s') (fun st hst => ?_) rfl h
  obtain ⟨l, hl, rfl⟩ := List.mem_map.1 hst
  exact List.mem_map_of_mem (hsub l hl)

theorem evaluate_of_perm (hp : s'.languages.Perm s.languages) (h : q.evaluate s = .ok e) :
    ∃ e', q.evaluate s' = .ok e' ∧ e.results.areLanguages = e'.results.areLanguages :=
  (Evaluation.Reflects.start s).run_of_perm (.start s') (hp.map start) rfl h

theorem failsAt_of_perm {number : Nat} (hp : s'.languages.Perm s.languages)
    (h : q.FailsAt s number error) :
    ∃ error', q.FailsAt s' number error' ∧ error.Alike error' := by
  obtain ⟨before, step, after, e, hsteps, hnumber, he, hfail⟩ := h
  obtain ⟨e', he', hfresh⟩ := evaluate_of_perm hp he
  have hobstacle := (reflects he).step_error_iff.1 hfail
  rw [hfresh] at hobstacle
  -- what is left of the languages before the step is the same up to order
  obtain ⟨error', hobstacle', halike⟩ := hobstacle.of_perm ((hp.map start).symm.filterMap _)
  exact ⟨error', ⟨before, step, after, e', hsteps, hnumber, he',
    (reflects he').step_error_iff.2 hobstacle'⟩, halike⟩

/-- The answer for some languages of a set is what the answer for the set says of them, and in
another order a query answers or fails alike. -/
theorem evaluate_select (hs : s.Built) (positions : List Nat) :
    (∀ e, q.evaluate s = .ok e →
      (∃ shortfall, q.evaluate (s.select positions) = .error (.quorum shortfall)) ∨
      ∃ part, q.evaluate (s.select positions) = .ok part ∧
        part.languageSet.languages =
          (s.select positions).languages.filter e.languageSet.contains ∧
        part.rows = (s.select positions).languages.filterMap e.row? ∧
        e.noData = q.missingAmong s.languages ∧
        part.noData = q.missingAmong (s.select positions).languages) ∧
    (positions.Perm (List.range s.size) →
      ((∃ e, q.evaluate s = .ok e) ↔ ∃ e, q.evaluate (s.select positions) = .ok e) ∧
      ∀ error, q.evaluate s = .error error →
        ∃ number error', q.FailsAt s number error ∧
          q.evaluate (s.select positions) = .error error' ∧
          q.FailsAt (s.select positions) number error' ∧ error.Alike error') := by
  have hmem : ∀ l ∈ (s.select positions).languages, l ∈ s.languages := fun _ => mem_select
  constructor
  · intro e he
    refine (evaluate_of_subset hmem he).imp_right fun ⟨part, hpart⟩ => ?_
    obtain ⟨hlanguages, hrows⟩ := rows_of_subset hs (.select positions hs) hmem he hpart
    exact ⟨part, hpart, hlanguages, hrows, noData_eq_missingAmong he, noData_eq_missingAmong hpart⟩
  · intro hperm
    have hp := perm_select hperm
    refine ⟨⟨?_, ?_⟩, ?_⟩
    · rintro ⟨e, he⟩
      exact (evaluate_of_perm hp he).imp fun e' he' => he'.1
    · rintro ⟨e', he'⟩
      exact (evaluate_of_perm hp.symm he').imp fun e he => he.1
    · intro error herror
      obtain ⟨number, hfails⟩ := evaluate_error_iff_failsAt.1 herror
      obtain ⟨error', hfails', halike⟩ := failsAt_of_perm hp hfails
      exact ⟨number, error', hfails, evaluate_error_iff_failsAt.2 ⟨number, hfails'⟩, hfails',
        halike⟩

set_option maxRecDepth 100000 in
theorem evaluate_select_toneless :
    (ofUnique sampleLanguages).Built ∧
    (∃ e part, toneless.evaluate (.ofUnique sampleLanguages) = .ok e ∧
      toneless.evaluate ((ofUnique sampleLanguages).select [2, 0]) = .ok part ∧
      part.rows = ((ofUnique sampleLanguages).select [2, 0]).languages.filterMap e.row?) ∧
    ∃ error number error', (toneless.withQuorum ⟨1⟩).evaluate (.ofUnique sampleLanguages) =
        .error error ∧
      (toneless.withQuorum ⟨1⟩).FailsAt ((ofUnique sampleLanguages).select [1, 2, 0]) number
        error' ∧
      error.Alike error' := by
  refine ⟨built_sample, ?_, ?_⟩
  · obtain ⟨e, he⟩ : ∃ e, toneless.evaluate (.ofUnique sampleLanguages) = .ok e := ⟨_, rfl⟩
    obtain ⟨part, hpart⟩ :
        ∃ part, toneless.evaluate ((ofUnique sampleLanguages).select [2, 0]) = .ok part := ⟨_, rfl⟩
    have hselect := (evaluate_select built_sample [2, 0]).1 e he
    rcases hselect with ⟨shortfall, h⟩ | ⟨part', h, -, hrows, -⟩
    · rw [hpart] at h
      cases h
    · exact ⟨e, part', he, h, hrows⟩
  · obtain ⟨error, herror⟩ : ∃ error,
        (toneless.withQuorum ⟨1⟩).evaluate (.ofUnique sampleLanguages) = .error error := ⟨_, rfl⟩
    have hperm : List.Perm [1, 2, 0] (List.range (ofUnique sampleLanguages).size) := by decide
    obtain ⟨number, error', -, -, hfails, halike⟩ :=
      ((evaluate_select built_sample [1, 2, 0]).2 hperm).2 error herror
    exact ⟨error, number, error', herror, hfails, halike⟩

end Query

end Typology
