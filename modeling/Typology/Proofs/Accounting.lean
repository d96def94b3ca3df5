import Typology.Proofs.Selection
import Mathlib.Data.List.Induction

/-!
# Accounting for languages

A language leaves a query at most once. It ends up active, or it is left out because an extractor
misses a datapoint of it, or a filter drops it, and the query tells of every language left out.
-/

namespace Typology

open Standing LanguageSet

variable {q : Query} {s : LanguageSet} {e e' : Evaluation} {l : Language} {d d' : MissingDatum}
variable {n i : Nat} {steps : List Step} {st : Standing} {r : Reading}

/-- Exactly one of three propositions holds. -/
def OneOfThree (a b c : Prop) : Prop := (a ∧ ¬b ∧ ¬c) ∨ (¬a ∧ b ∧ ¬c) ∨ (¬a ∧ ¬b ∧ c)

theorem length_eq_of_oneOfThree {α : Type} {xs : List α} {f g h : α → Bool}
    (hone : ∀ x ∈ xs, OneOfThree (f x) (g x) (h x)) :
    xs.length = xs.countP f + xs.countP g + xs.countP h := by
  induction xs with
  | nil => rfl
  | cons x xs ih =>
      have hrest := ih fun y hy => hone y (List.mem_cons_of_mem x hy)
      rw [List.length_cons, hrest]
      rcases hone x List.mem_cons_self with ⟨hf, hg, hh⟩ | ⟨hf, hg, hh⟩ | ⟨hf, hg, hh⟩
      all_goals
        simp only [List.countP_cons, hf, hg, hh, if_true, Bool.false_eq_true, if_false]
        omega

/-! ## One language on its own -/

/-- Whether an outcome is that a filter drops the language. -/
def Standing.wasDropped : Except Departure Standing → Bool
  | .error (.dropped _) => true
  | _ => false

namespace Query

/-- Carried out for the language alone, the steps keep it and leave the reading in hand. -/
inductive Reaches (l : Language) : List Step → Reading → Prop where
  | start : Reaches l [] (.language l)
  | transform {before r t v} : Reaches l before r → t.apply r = .ok v →
      Reaches l (before ++ [.transform t]) (.value v)
  | extractContext {before v} : Reaches l before (.value v) →
      Reaches l (before ++ [.directive .extractContext]) (.value v)
  | filter {before r} : Reaches l before r → r.asBool? = some true →
      Reaches l (before ++ [.directive .filter]) r

/-- On its own the language reaches an extractor that misses a datapoint of it; the datum tells of
this. -/
def LeavesOut (q : Query) (l : Language) (d : MissingDatum) : Prop :=
  ∃ before t after r who, q.steps = before ++ .transform t :: after ∧ Reaches l before r ∧
    t.kind = .extractor ∧ t.apply r = .error (.missingDatapoint who d.field) ∧
    d.step = before.length ∧ d.language = l.name

/-- On its own the language reaches a filter with the value `false`. -/
def Drops (q : Query) (l : Language) : Prop :=
  ∃ before after r, q.steps = before ++ .directive .filter :: after ∧ Reaches l before r ∧
    r.asBool? = some false

end Query

open Query

namespace Standing

theorem course_snoc {s : Step} {st' : Standing} (h : st.course n steps = .ok st') :
    st.course n (steps ++ [s]) = st'.pass (n + steps.length) s := by
  rw [course_append, h]
  show (st'.pass _ s).bind _ = _
  cases st'.pass (n + steps.length) s <;> rfl

theorem course_of_reaches (h : Reaches l steps r) :
    ∃ st, (start l).course 0 steps = .ok st ∧ st.reading = r := by
  induction h with
  | start => exact ⟨start l, rfl, rfl⟩
  | transform _ hv ih =>
      obtain ⟨st, hc, rfl⟩ := ih
      exact ⟨_, (course_snoc hc).trans (pass_transform_ok hv), rfl⟩
  | extractContext _ ih =>
      obtain ⟨st, hc, hr⟩ := ih
      exact ⟨_, (course_snoc hc).trans (pass_extractContext hr), hr⟩
  | filter _ hb ih =>
      obtain ⟨st, hc, rfl⟩ := ih
      exact ⟨st, (course_snoc hc).trans (by rw [pass_filter, hb]), rfl⟩

theorem reaches_of_course (h : (start l).course 0 steps = .ok st) : Reaches l steps st.reading := by
  induction steps using List.reverseRecOn generalizing st with
  | nil => cases h; exact .start
  | append_singleton before s ih =>
      cases hc : (start l).course 0 before with
      | error departure => rw [course_append, hc] at h; cases h
      | ok st₁ =>
          rw [course_snoc hc] at h
          rcases pass_ok_cases h with ⟨t, v, rfl, hv, rfl⟩ | ⟨v, rfl, hv, rfl⟩ | ⟨rfl, hb, rfl⟩
          · exact .transform (ih hc) hv
          · have hreaches := ih hc
            rw [hv] at hreaches
            show Reaches l _ st₁.reading
            rw [hv]
            exact .extractContext hreaches
          · exact .filter (ih hc) hb

end Standing

theorem Transformation.lacks?_eq_some_iff {t : Transformation} {source : TransformError}
    {field : String} : t.lacks? source = some field ↔
      t.kind = .extractor ∧ ∃ who, source = .missingDatapoint who field := by
  unfold lacks?
  cases source <;> simp

namespace Query

theorem leavesOut_iff : q.LeavesOut l d ↔ (start l).course 0 q.steps = .error (.missing d) := by
  constructor
  · rintro ⟨before, t, after, r, who, hsteps, hreaches, hk, hs, hstep, hname⟩
    obtain ⟨st, hc, rfl⟩ := course_of_reaches hreaches
    refine course_error_iff.2 ⟨before, _, after, st, hsteps, hc, ?_⟩
    have hf : t.lacks? (.missingDatapoint who d.field) = some d.field :=
      Transformation.lacks?_eq_some_iff.2 ⟨hk, who, rfl⟩
    rw [pass_transform_missing hs hf, Nat.zero_add, ← hstep, course_language hc, start_language,
      ← hname]
  · intro h
    obtain ⟨before, t, after, st, source, hsteps, hc, hs, hf, hstep, hname⟩ :=
      missing?_eq_some (datumOf_eq_some.2 h)
    obtain ⟨hk, who, rfl⟩ := Transformation.lacks?_eq_some_iff.1 hf
    exact ⟨before, t, after, st.reading, who, hsteps, reaches_of_course hc, hk, hs, hstep, hname⟩

theorem drops_iff : q.Drops l ↔ ∃ k, (start l).course 0 q.steps = .error (.dropped k) := by
  constructor
  · rintro ⟨before, after, r, hsteps, hreaches, hb⟩
    obtain ⟨st, hc, rfl⟩ := course_of_reaches hreaches
    exact ⟨_, course_error_iff.2 ⟨before, _, after, st, hsteps, hc, by rw [pass_filter, hb]⟩⟩
  · rintro ⟨k, h⟩
    obtain ⟨before, s, after, st, hsteps, hc, hp⟩ := course_error_iff.1 h
    obtain ⟨rfl, hb⟩ := pass_dropped hp
    exact ⟨before, after, st.reading, hsteps, reaches_of_course hc, hb⟩

end Query

/-! ## A step and a run -/

namespace Evaluation

variable {quorum : Quorum} {step : Step} {sts : List Standing}

theorem Reflects.pass_ne_failed (hr : e.Reflects sts) (h : e.step quorum n step = .ok e')
    (hst : st ∈ sts) (error : QueryError) : st.pass n step ≠ .error (.failed error) := by
  intro hp
  obtain ⟨error', hfirst, -⟩ := firstFault?_of_mem hst (faultOf_eq_some.2 hp)
  have hobstacle : Obstacle quorum n sts e.results.areLanguages step error' := .fault hfirst
  have hfail := hr.step_error_iff.2 hobstacle
  rw [h] at hfail
  cases hfail

/-- In a run that goes through no language fails on its own. -/
theorem Reflects.course_ne_failed (hr : e.Reflects sts) (h : run quorum n steps e = .ok e')
    (hst : st ∈ sts) (error : QueryError) : st.course n steps ≠ .error (.failed error) := by
  induction steps generalizing n e sts st with
  | nil => rintro ⟨⟩
  | cons s rest ih =>
      obtain ⟨e₁, hstep, hrest⟩ := run_cons_eq_ok h
      cases hp : st.pass n s with
      | error departure =>
          rw [course_cons_error hp]
          rintro ⟨⟩
          exact hr.pass_ne_failed hstep hst error hp
      | ok st' =>
          rw [course_cons_ok hp]
          exact ih (hr.follows hstep).reflects hrest (mem_survivors.2 ⟨st, hst, hp⟩)

end Evaluation

namespace Query

theorem course_cases (h : q.evaluate s = .ok e) (hl : l ∈ s.languages) :
    (∃ st, (start l).course 0 q.steps = .ok st) ∨
    (∃ d, (start l).course 0 q.steps = .error (.missing d)) ∨
    ∃ k, (start l).course 0 q.steps = .error (.dropped k) := by
  cases hc : (start l).course 0 q.steps with
  | ok st => exact .inl ⟨st, rfl⟩
  | error departure =>
      cases departure with
      | missing d => exact .inr (.inl ⟨d, rfl⟩)
      | dropped k => exact .inr (.inr ⟨k, rfl⟩)
      | failed error =>
          exact absurd hc ((Evaluation.Reflects.start s).course_ne_failed h
            (List.mem_map_of_mem hl) error)

theorem oneOfThree (hs : s.Built) (h : q.evaluate s = .ok e) (hl : l ∈ s.languages) :
    OneOfThree (e.languageSet.contains l) (∃ d, q.LeavesOut l d) (q.Drops l) := by
  rw [contains_eq hs h hl, drops_iff]
  simp only [leavesOut_iff]
  rcases course_cases h hl with ⟨st, hc⟩ | ⟨d, hc⟩ | ⟨k, hc⟩
  · exact .inl (by simp [hc, Except.toBool])
  · exact .inr (.inl (by simp [hc, Except.toBool]))
  · exact .inr (.inr (by simp [hc, Except.toBool]))

/-! ## The languages left out -/

theorem missing?_eq_some_iff : q.missing? l = some d ↔ q.LeavesOut l d :=
  datumOf_eq_some.trans leavesOut_iff.symm

theorem LeavesOut.unique (h : q.LeavesOut l d) (h' : q.LeavesOut l d') : d = d' := by
  rw [← missing?_eq_some_iff] at h h'
  exact Option.some.inj (h.symm.trans h')

theorem LeavesOut.step_lt (h : q.LeavesOut l d) : d.step < q.steps.length := by
  obtain ⟨before, t, after, -, -, hsteps, -, -, -, hstep, -⟩ := h
  rw [hsteps, hstep, List.length_append, List.length_cons]
  omega

/-- The positions of the languages left out with what is lacking, by step and then in order. -/
def leftOut (q : Query) (languages : List Language) : List (Nat × MissingDatum) :=
  (List.range q.steps.length).flatMap fun k =>
    languages.zipIdx.filterMap fun entry =>
      ((q.missing? entry.1).filter (·.step == k)).map (entry.2, ·)

theorem leftOut_data (q : Query) (languages : List Language) :
    (q.leftOut languages).map (·.2) = q.missingAmong languages := by
  rw [leftOut, missingAmong, List.map_flatMap]
  refine List.flatMap_congr fun k _ => ?_
  have hdata := congrArg (List.filterMap fun l => (q.missing? l).filter (·.step == k))
    (List.zipIdx_map_fst 0 languages)
  rw [List.filterMap_map] at hdata
  rw [← hdata, List.map_filterMap]
  simp only [Option.map_map]
  refine List.filterMap_congr fun entry _ => ?_
  exact Option.map_id_apply

theorem mem_leftOut {languages : List Language} :
    (i, d) ∈ q.leftOut languages ↔ ∃ l, languages[i]? = some l ∧ q.LeavesOut l d := by
  simp only [leftOut, List.mem_flatMap, List.mem_filterMap, List.mem_range,
    List.mem_zipIdx_iff_getElem?, Option.map_eq_some_iff, Option.filter_eq_some_iff, beq_iff_eq,
    Prod.exists, Prod.mk.injEq, missing?_eq_some_iff]
  constructor
  · rintro ⟨k, -, l, j, hl, datum, ⟨hdatum, -⟩, rfl, rfl⟩
    exact ⟨l, hl, hdatum⟩
  · rintro ⟨l, hl, hd⟩
    exact ⟨d.step, hd.step_lt, l, i, hl, d, ⟨hd, rfl⟩, rfl, rfl⟩

/-- The entries stand by step, and under one step in the order of the languages. -/
theorem pairwise_leftOut (q : Query) (languages : List Language) :
    (q.leftOut languages).Pairwise fun a b =>
      a.2.step < b.2.step ∨ a.2.step = b.2.step ∧ a.1 < b.1 := by
  have hpositions : languages.zipIdx.Pairwise fun a b => a.2 < b.2 := by
    rw [← List.pairwise_map, List.zipIdx_map_snd]
    exact List.pairwise_lt_range'
  rw [leftOut, List.pairwise_flatMap]
  constructor
  · intro k _
    rw [List.pairwise_filterMap]
    refine hpositions.imp fun hlt a ha b hb => ?_
    simp only [Option.map_eq_some_iff, Option.filter_eq_some_iff, beq_iff_eq] at ha hb
    obtain ⟨da, ⟨-, hda⟩, rfl⟩ := ha
    obtain ⟨db, ⟨-, hdb⟩, rfl⟩ := hb
    exact .inr ⟨hda.trans hdb.symm, hlt⟩
  · refine List.pairwise_lt_range.imp fun hlt a ha b hb => ?_
    simp only [List.mem_filterMap, Option.map_eq_some_iff, Option.filter_eq_some_iff,
      beq_iff_eq] at ha hb
    obtain ⟨-, -, da, ⟨-, rfl⟩, rfl⟩ := ha
    obtain ⟨-, -, db, ⟨-, rfl⟩, rfl⟩ := hb
    exact .inl hlt

theorem nodup_leftOut_positions (q : Query) (languages : List Language) :
    ((q.leftOut languages).map (·.1)).Nodup := by
  refine List.pairwise_map.2 ((pairwise_leftOut q languages).imp_of_mem ?_)
  rintro ⟨i, d⟩ ⟨j, d'⟩ hd hd' hlt rfl
  obtain ⟨l, hl, hd⟩ := mem_leftOut.1 hd
  obtain ⟨l', hl', hd'⟩ := mem_leftOut.1 hd'
  cases Option.some.inj (hl.symm.trans hl')
  cases hd.unique hd'
  rcases hlt with hlt | ⟨-, hlt⟩ <;> exact Nat.lt_irrefl _ hlt

theorem mem_leftOut_positions {languages : List Language} :
    i ∈ (q.leftOut languages).map (·.1) ↔ ∃ l, languages[i]? = some l ∧ ∃ d, q.LeavesOut l d := by
  rw [List.mem_map]
  constructor
  · rintro ⟨⟨i, d⟩, hmem, rfl⟩
    obtain ⟨l, hl, hd⟩ := mem_leftOut.1 hmem
    exact ⟨l, hl, d, hd⟩
  · rintro ⟨l, hl, d, hd⟩
    exact ⟨(i, d), mem_leftOut.2 ⟨l, hl, hd⟩, rfl⟩

theorem length_leftOut (q : Query) (languages : List Language) :
    (q.leftOut languages).length = languages.countP fun l => (q.missing? l).isSome := by
  let lacks (entry : Language × Nat) : Bool := (q.missing? entry.1).isSome
  have hnodup : ((languages.zipIdx.filter lacks).map (·.2)).Nodup := by
    refine List.Nodup.sublist (List.filter_sublist.map _) ?_
    rw [List.zipIdx_map_snd]
    exact List.nodup_range'
  have hperm : ((q.leftOut languages).map (·.1)).Perm
      ((languages.zipIdx.filter lacks).map (·.2)) := by
    refine (List.perm_ext_iff_of_nodup (nodup_leftOut_positions q languages) hnodup).2 fun i => ?_
    rw [mem_leftOut_positions]
    simp [lacks, List.mem_zipIdx_iff_getElem?, Option.isSome_iff_exists, missing?_eq_some_iff]
  have hlength := hperm.length_eq
  rw [List.length_map, List.length_map, ← List.countP_eq_length_filter] at hlength
  have hcount := congrArg (List.countP fun l => (q.missing? l).isSome)
    (List.zipIdx_map_fst 0 languages)
  rw [List.countP_map] at hcount
  exact hlength.trans hcount

instance (q : Query) (l : Language) : Decidable (q.Drops l) :=
  decidable_of_iff (wasDropped ((start l).course 0 q.steps) = true) (by
    rw [drops_iff]
    cases (start l).course 0 q.steps with
    | ok st => simp [wasDropped]
    | error departure => cases departure <;> simp [wasDropped])

/-! ## All languages -/

/-- Of the languages that a query is put to each is active at the end, left out or dropped. There
is one datum for each that is left out, by step and then in load order, and so the numbers add
up. -/
theorem evaluate_accounts (hs : s.Built) (h : q.evaluate s = .ok e) :
    (∀ l ∈ s.languages,
      OneOfThree (e.languageSet.contains l) (∃ d, q.LeavesOut l d) (q.Drops l)) ∧
    (∃ entries : List (Nat × MissingDatum), e.noData = entries.map (·.2) ∧
      (entries.map (·.1)).Nodup ∧
      entries.Pairwise (fun a b =>
        a.2.step < b.2.step ∨ a.2.step = b.2.step ∧ a.1 < b.1) ∧
      ∀ i d, (i, d) ∈ entries ↔ ∃ l, s.languages[i]? = some l ∧ q.LeavesOut l d) ∧
    s.size = e.languageSet.size + e.noData.length + s.languages.countP (q.Drops ·) := by
  have hdata : e.noData = (q.leftOut s.languages).map (·.2) := by
    rw [leftOut_data, noData_eq_missingAmong h]
  refine ⟨fun l hl => oneOfThree hs h hl, ⟨q.leftOut s.languages, hdata,
    nodup_leftOut_positions q s.languages, pairwise_leftOut q s.languages,
    fun i d => mem_leftOut⟩, ?_⟩
  have hactive : e.languageSet.size = s.languages.countP e.languageSet.contains := by
    rw [size, (rows_of_subset hs hs (fun _ h => h) h h).1, List.countP_eq_length_filter]
  rw [hactive, hdata, List.length_map, length_leftOut]
  refine length_eq_of_oneOfThree fun l hl => ?_
  have hone := oneOfThree hs h hl
  simpa [Option.isSome_iff_exists, missing?_eq_some_iff] using hone

set_option maxRecDepth 100000 in
theorem evaluate_accounts_toneless :
    (ofUnique sampleLanguages).Built ∧
    ∃ e, toneless.evaluate (.ofUnique sampleLanguages) = .ok e ∧
      e.languageSet.size = 1 ∧ e.noData = [⟨0, "tone", "English"⟩] ∧
      (∀ l ∈ sampleLanguages,
        OneOfThree (e.languageSet.contains l) (∃ d, toneless.LeavesOut l d) (toneless.Drops l)) ∧
      sampleLanguages.countP (toneless.Drops ·) = 1 := by
  obtain ⟨e, h, hactive, hdata⟩ : ∃ e, toneless.evaluate (.ofUnique sampleLanguages) = .ok e ∧
      e.languageSet.size = 1 ∧ e.noData = [⟨0, "tone", "English"⟩] := ⟨_, rfl, rfl, rfl⟩
  obtain ⟨hone, -, hsum⟩ := evaluate_accounts built_sample h
  rw [hactive, hdata] at hsum
  exact ⟨built_sample, e, h, hactive, hdata, hone, (Nat.add_left_cancel hsum).symm⟩

end Query

end Typology
