import Typology.Proofs.BuiltSet
import Typology.Proofs.Run

/-!
# Alignment of languages, results and rationale

Languages leave an evaluation through extractors and filters. Whatever leaves, each position of the
results and of the rationale belongs to the language at the same position.
-/

namespace Typology

/-- The transformation of a step, if it is one. -/
def Step.transformation? : Step → Option Transformation
  | .transform t => some t
  | .directive _ => none

/-- The transformations of a query, in order. -/
def Query.transformations (q : Query) : List Transformation :=
  q.steps.filterMap Step.transformation?

namespace Transformation

/-- Transformations composed in order. -/
def compose : List Transformation → Reading → Except TransformError Reading
  | [], r => .ok r
  | t :: rest, r => (t.apply r).bind fun v => compose rest (.value v)

/-- What the last transformation that is no predicate gives on the way from a reading; nothing if
all are predicates. -/
def IsRationale (ts : List Transformation) (r : Reading) : Option Value → Prop
  | none => ∀ t ∈ ts, t.kind = .predicate
  | some v => ∃ before t after r', ts = before ++ t :: after ∧ t.kind ≠ .predicate ∧
      (∀ u ∈ after, u.kind = .predicate) ∧ compose before r = .ok r' ∧ t.apply r' = .ok v

variable {ts : List Transformation} {t : Transformation} {r r' : Reading} {v : Value}
variable {rationale : Option Value}

theorem compose_cons_ok (h : t.apply r = .ok v) :
    compose (t :: ts) r = compose ts (.value v) := by
  rw [compose, h]
  rfl

theorem compose_snoc (h : compose ts r = .ok r') (hv : t.apply r' = .ok v) :
    compose (ts ++ [t]) r = .ok (.value v) := by
  induction ts generalizing r with
  | nil => cases h; exact compose_cons_ok hv
  | cons u ts ih =>
      cases hu : u.apply r with
      | error source => rw [compose, hu] at h; cases h
      | ok w =>
          rw [compose_cons_ok hu] at h
          rw [List.cons_append, compose_cons_ok hu]
          exact ih h

theorem IsRationale.snoc_predicate (h : IsRationale ts r rationale) (hk : t.kind = .predicate) :
    IsRationale (ts ++ [t]) r rationale := by
  cases rationale with
  | none =>
      intro u hu
      rcases List.mem_append.1 hu with hu | hu
      · exact h u hu
      · rw [List.mem_singleton.1 hu]; exact hk
  | some v =>
      obtain ⟨before, t', after, r', rfl, hk', hafter, hc, hv⟩ := h
      refine ⟨before, t', after ++ [t], r', by simp, hk', fun u hu => ?_, hc, hv⟩
      rcases List.mem_append.1 hu with hu | hu
      · exact hafter u hu
      · rw [List.mem_singleton.1 hu]; exact hk

theorem IsRationale.snoc (h : compose ts r = .ok r') (hk : t.kind ≠ .predicate)
    (hv : t.apply r' = .ok v) : IsRationale (ts ++ [t]) r (some v) :=
  ⟨ts, t, [], r', rfl, hk, fun _ hu => absurd hu List.not_mem_nil, h, hv⟩

end Transformation

open Transformation LanguageSet

namespace Standing

/-- The reading and the rationale come from the language by the given transformations. -/
structure ComesBy (ts : List Transformation) (st : Standing) : Prop where
  reading : compose ts (.language st.language) = .ok st.reading
  rationale : IsRationale ts (.language st.language) st.rationale

variable {n : Nat} {s : Step} {steps : List Step} {st st' : Standing} {ts : List Transformation}

theorem ComesBy.start (l : Language) : (start l).ComesBy [] where
  reading := rfl
  rationale := fun _ ht => absurd ht List.not_mem_nil

theorem ComesBy.pass (hc : st.ComesBy ts) (h : st.pass n s = .ok st') :
    st'.ComesBy (ts ++ s.transformation?.toList) := by
  rcases pass_ok_cases h with ⟨t, v, rfl, hv, rfl⟩ | ⟨v, rfl, -, rfl⟩ | ⟨rfl, -, rfl⟩
  · refine ⟨compose_snoc hc.reading hv, ?_⟩
    show IsRationale (ts ++ [t]) _ (if t.kind = .predicate then st.rationale else some v)
    split
    · exact hc.rationale.snoc_predicate ‹_›
    · exact .snoc hc.reading ‹_› hv
  · rw [Step.transformation?, Option.toList_none, List.append_nil]
    exact ⟨hc.reading, hc.rationale⟩
  · rw [Step.transformation?, Option.toList_none, List.append_nil]
    exact hc

theorem ComesBy.course (hc : st.ComesBy ts) (h : st.course n steps = .ok st') :
    st'.ComesBy (ts ++ steps.filterMap Step.transformation?) := by
  induction steps generalizing n st ts with
  | nil => cases h; rw [List.filterMap_nil, List.append_nil]; exact hc
  | cons s rest ih =>
      obtain ⟨st₁, hp, hrest⟩ := course_cons_eq_ok h
      have hcomes := ih (hc.pass hp) hrest
      rw [List.append_assoc] at hcomes
      rw [List.filterMap_cons]
      cases ht : s.transformation? <;> rwa [ht] at hcomes

end Standing

theorem Readings.length_toList (r : Readings) : r.toList.length = r.size := by
  cases r with
  | languages s => exact List.length_map _
  | values vs => exact List.length_map _

/-- The languages that an evaluation ends with are some of those that it starts with, in their
order, and each has at its position the result and the rationale that the transformations of the
query give for it alone. -/
theorem Query.evaluate_aligned {q : Query} {s : LanguageSet} {e : Evaluation}
    (h : q.evaluate s = .ok e) :
    e.languageSet.languages.Sublist s.languages ∧
    e.results.size = e.languageSet.size ∧
    e.rationale.length = e.languageSet.size ∧
    ∀ (i : Nat) (l : Language), e.languageSet.languages[i]? = some l →
      (∃ r, compose q.transformations (.language l) = .ok r ∧ e.results.toList[i]? = some r) ∧
      ∃ rationale, IsRationale q.transformations (.language l) rationale ∧
        e.rationale[i]? = some rationale := by
  have hr := q.reflects h
  refine ⟨?_, ?_, ?_, ?_⟩
  · rw [hr.languages, Standing.remaining_language]
    have hsub := (List.filter_sublist (p := fun st : Standing => (st.course 0 q.steps).toBool)
      (l := s.languages.map .start)).map Standing.language
    rwa [List.map_map, show Standing.language ∘ Standing.start = id from rfl, List.map_id] at hsub
  · rw [← Readings.length_toList, hr.readings, List.length_map, hr.size_eq]
  · rw [hr.rationale, List.length_map, hr.size_eq]
  · intro i l hl
    rw [hr.languages, List.getElem?_map, Option.map_eq_some_iff] at hl
    obtain ⟨st, hst, rfl⟩ := hl
    obtain ⟨first, hfirst, hcourse⟩ := Standing.mem_remaining.1 (List.mem_of_getElem? hst)
    obtain ⟨l, -, rfl⟩ := List.mem_map.1 hfirst
    have hcomes := (Standing.ComesBy.start l).course hcourse
    rw [hr.readings, hr.rationale, List.getElem?_map, List.getElem?_map, hst]
    exact ⟨⟨st.reading, hcomes.reading, rfl⟩, st.rationale, hcomes.rationale, rfl⟩

set_option maxRecDepth 100000 in
theorem Query.evaluate_aligned_toneless :
    ∃ e, toneless.evaluate (.ofUnique sampleLanguages) = .ok e ∧
      e.languageSet.languages.Sublist sampleLanguages ∧
      e.results.size = e.languageSet.size ∧
      e.rationale.length = e.languageSet.size ∧
      ∀ (i : Nat) (l : Language), e.languageSet.languages[i]? = some l →
        (∃ r, compose toneless.transformations (.language l) = .ok r ∧
          e.results.toList[i]? = some r) ∧
        ∃ rationale, IsRationale toneless.transformations (.language l) rationale ∧
          e.rationale[i]? = some rationale := by
  obtain ⟨e, h⟩ : ∃ e, toneless.evaluate (.ofUnique sampleLanguages) = .ok e := ⟨_, rfl⟩
  exact ⟨e, h, Query.evaluate_aligned h⟩

end Typology
