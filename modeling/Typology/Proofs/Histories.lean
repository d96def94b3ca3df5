import Mathlib.Data.List.Chain
import Typology.Proofs.Alignment

/-!
# Histories

What an evaluation has passed through stays as it is: later steps add to it at the end. Each set of
languages holds some of the languages of the set before it, in their order, and the readings grow by
one with each transformation and with each filter that has values to go by.
-/

namespace Typology

open Standing LanguageSet

/-- The second set holds some of the languages of the first, in their order. -/
def LanguageSet.Narrows (s s' : LanguageSet) : Prop := s'.languages.Sublist s.languages

/-- Whether a step is a filter. -/
def Step.isFilter : Step → Bool
  | .directive .filter => true
  | _ => false

/-- Whether a step adds to the readings, given whether only languages are in hand before it. -/
def Step.addsReadings (fresh : Bool) : Step → Bool
  | .transform _ => true
  | .directive .extractContext => false
  | .directive .filter => !fresh

/-- The filters that have values to go by: those after the first transformation, if only languages
are in hand before it, or else all. -/
def Step.lateFilters (fresh : Bool) (steps : List Step) : List Step :=
  (if fresh then steps.dropWhile (·.transformation?.isNone) else steps).filter isFilter

theorem Step.lateFilters_nil (fresh : Bool) : lateFilters fresh [] = [] := by
  cases fresh <;> rfl

theorem Step.length_lateFilters_cons (s : Step) (fresh : Bool) (rest : List Step) :
    (s.addsReadings fresh).toNat + (rest.filterMap transformation?).length +
        (lateFilters (s.leavesFresh fresh) rest).length =
      ((s :: rest).filterMap transformation?).length + (lateFilters fresh (s :: rest)).length := by
  cases s with
  | transform t =>
      have hcount : ((.transform t :: rest).filterMap transformation?).length =
          (rest.filterMap transformation?).length + 1 := rfl
      have hlate : lateFilters fresh (.transform t :: rest) = lateFilters false rest := by
        cases fresh <;> rfl
      have hadds : ((Step.transform t).addsReadings fresh).toNat = 1 := rfl
      rw [hcount, hlate, hadds, leavesFresh]
      omega
  | directive d =>
      have hcount : ((.directive d :: rest).filterMap transformation?).length =
          (rest.filterMap transformation?).length := rfl
      rw [hcount, leavesFresh]
      cases fresh with
      | true =>
          have hlate : lateFilters true (.directive d :: rest) = lateFilters true rest := rfl
          rw [hlate]
          cases d <;> simp only [addsReadings, Bool.not_true, Bool.toNat_false] <;> omega
      | false =>
          cases d with
          | extractContext =>
              have hlate : lateFilters false (.directive .extractContext :: rest) =
                  lateFilters false rest := rfl
              rw [hlate, addsReadings, Bool.toNat_false]
              omega
          | filter =>
              have hlate : lateFilters false (.directive .filter :: rest) =
                  .directive .filter :: lateFilters false rest := rfl
              rw [hlate, addsReadings, Bool.not_false, Bool.toNat_true, List.length_cons]
              omega

namespace Evaluation

/-- The first evaluation has passed through all that the second has, and perhaps through more. -/
structure Continues (e' e : Evaluation) : Prop where
  snapshots : e.snapshots <+: e'.snapshots
  noData : e.noData <+: e'.noData
  sets : e.sets.toList <+: e'.sets.toList
  readings : e.readings.toList <+: e'.readings.toList

variable {e e' e₁ : Evaluation} {quorum : Quorum} {n : Nat} {s : Step} {t : Transformation}
variable {sts : List Standing} {steps : List Step}

theorem Continues.refl (e : Evaluation) : e.Continues e :=
  ⟨List.prefix_rfl, List.prefix_rfl, List.prefix_rfl, List.prefix_rfl⟩

theorem Continues.trans (h' : e'.Continues e₁) (h : e₁.Continues e) : e'.Continues e where
  snapshots := h.snapshots.trans h'.snapshots
  noData := h.noData.trans h'.noData
  sets := h.sets.trans h'.sets
  readings := h.readings.trans h'.readings

/-! ## One step -/

theorem Reflects.narrows_select (hr : e.Reflects sts) (n : Nat) (s : Step) :
    e.languageSet.Narrows (e.languageSet.select (sts.findIdxs (stays n s))) := by
  rw [Narrows, hr.select_stays, survivors_language, hr.languages]
  exact List.filter_sublist.map _

/-- A step adds at most one set, which narrows the one before. -/
theorem Reflects.sets_step (hr : e.Reflects sts) (h : e.step quorum n s = .ok e') :
    ∃ added, e'.sets.toList = e.sets.toList ++ added ∧
      List.IsChain Narrows (e.languageSet :: added) := by
  have hnone : e.sets.toList = e.sets.toList ++ [] ∧ List.IsChain Narrows [e.languageSet] :=
    ⟨(List.append_nil _).symm, .singleton _⟩
  have hone : List.IsChain Narrows
      [e.languageSet, e.languageSet.select (sts.findIdxs (stays n s))] :=
    .cons_cons (hr.narrows_select n s) (.singleton _)
  rcases hr.step_ok_cases h with
    ⟨t, rfl, rfl⟩ | ⟨vs, -, -, rfl⟩ | ⟨ls, -, -, -, rfl⟩ | ⟨vs, -, -, rfl⟩
  · unfold Evaluation.absorb
    dsimp only
    split
    · exact ⟨_, rfl, hone⟩
    · exact ⟨[], hnone⟩
  · exact ⟨[], hnone⟩
  · exact ⟨[], hnone⟩
  · exact ⟨_, rfl, hone⟩

theorem Reflects.readings_step (hr : e.Reflects sts) (h : e.step quorum n s = .ok e') :
    ∃ added, e'.readings.toList = e.readings.toList ++ added ∧
      added.length = (s.addsReadings e.results.areLanguages).toNat := by
  rcases hr.step_ok_cases h with
    ⟨t, rfl, rfl⟩ | ⟨vs, rfl, -, rfl⟩ | ⟨ls, rfl, hres, -, rfl⟩ | ⟨vs, rfl, hres, rfl⟩
  · exact ⟨_, rfl, rfl⟩
  · exact ⟨[], (List.append_nil _).symm, rfl⟩
  · exact ⟨[], (List.append_nil _).symm, by rw [hres]; rfl⟩
  · exact ⟨_, rfl, by rw [hres]; rfl⟩

theorem Reflects.continues_step (hr : e.Reflects sts) (h : e.step quorum n s = .ok e') :
    e'.Continues e := by
  have hf := hr.follows h
  obtain ⟨sets, hsets, -⟩ := hr.sets_step h
  obtain ⟨readings, hreadings, -⟩ := hr.readings_step h
  exact ⟨⟨_, hf.snapshots.symm⟩, ⟨_, hf.noData.symm⟩, ⟨sets, hsets.symm⟩,
    ⟨readings, hreadings.symm⟩⟩

theorem Reflects.narrowing_step (hr : e.Reflects sts) (h : e.step quorum n s = .ok e')
    (hchain : e.sets.toList.IsChain Narrows) : e'.sets.toList.IsChain Narrows := by
  obtain ⟨added, hsets, hadded⟩ := hr.sets_step h
  rw [hsets, History.toList, List.append_assoc]
  exact List.isChain_split.2 ⟨hchain, hadded⟩

/-! ## A run -/

theorem Reflects.continues_run (hr : e.Reflects sts) (h : run quorum n steps e = .ok e') :
    e'.Continues e := by
  induction steps generalizing n e sts with
  | nil => cases h; exact .refl e'
  | cons s rest ih =>
      obtain ⟨e₁, hstep, hrest⟩ := run_cons_eq_ok h
      exact (ih (hr.follows hstep).reflects hrest).trans (hr.continues_step hstep)

theorem Reflects.narrowing_run (hr : e.Reflects sts) (h : run quorum n steps e = .ok e')
    (hchain : e.sets.toList.IsChain Narrows) : e'.sets.toList.IsChain Narrows := by
  induction steps generalizing n e sts with
  | nil => cases h; exact hchain
  | cons s rest ih =>
      obtain ⟨e₁, hstep, hrest⟩ := run_cons_eq_ok h
      exact ih (hr.follows hstep).reflects hrest (hr.narrowing_step hstep hchain)

/-- A run adds readings for its transformations, and for its filters once there are values. -/
theorem Reflects.length_readings_run (hr : e.Reflects sts) (h : run quorum n steps e = .ok e') :
    e'.readings.toList.length = e.readings.toList.length +
      (steps.filterMap Step.transformation?).length +
      (Step.lateFilters e.results.areLanguages steps).length := by
  induction steps generalizing n e sts with
  | nil => cases h; rw [Step.lateFilters_nil]; rfl
  | cons s rest ih =>
      obtain ⟨e₁, hstep, hrest⟩ := run_cons_eq_ok h
      have hf := hr.follows hstep
      obtain ⟨added, hadded, hlength⟩ := hr.readings_step hstep
      have hcons := s.length_lateFilters_cons e.results.areLanguages rest
      rw [ih hf.reflects hrest, hf.fresh, hadded, List.length_append, hlength]
      omega

end Evaluation

open Evaluation

/-- What an evaluation of a query has passed through stands first in what an evaluation of any
continuation of the query passes through. The sets of languages narrow down to the one at the end,
and the readings are those of the languages, of each transformation and of each filter that follows
a transformation. -/
theorem Query.evaluate_append {before after : List Step} {quorum : Quorum} {s : LanguageSet}
    {e : Evaluation} (h : Query.evaluate ⟨before ++ after, quorum⟩ s = .ok e) :
    (∃ e₁, Query.evaluate ⟨before, quorum⟩ s = .ok e₁ ∧ e.Continues e₁) ∧
    e.sets.toList.IsChain Narrows ∧
    e.sets.toList.getLast? = some e.languageSet ∧
    e.readings.toList.length = 1 +
      ((before ++ after).filterMap Step.transformation?).length +
      (Step.lateFilters true (before ++ after)).length := by
  refine ⟨?_, ?_, ?_, ?_⟩
  · obtain ⟨e₁, hbefore, hafter⟩ := run_append_eq_ok h
    exact ⟨e₁, hbefore, (Query.reflects (q := ⟨before, quorum⟩) hbefore).continues_run hafter⟩
  · exact (Reflects.start s).narrowing_run h (.singleton s)
  · exact List.getLast?_concat
  · exact (Reflects.start s).length_readings_run h

set_option maxRecDepth 100000 in
theorem Query.evaluate_append_toneless :
    ∃ e e₁, Query.evaluate ⟨toneless.steps.take 2 ++ toneless.steps.drop 2, .half⟩
        (.ofUnique sampleLanguages) = .ok e ∧
      Query.evaluate ⟨toneless.steps.take 2, .half⟩ (.ofUnique sampleLanguages) = .ok e₁ ∧
      e.Continues e₁ ∧ e.readings.toList.length = 4 := by
  obtain ⟨e, h⟩ : ∃ e, Query.evaluate ⟨toneless.steps.take 2 ++ toneless.steps.drop 2, .half⟩
      (.ofUnique sampleLanguages) = .ok e := ⟨_, rfl⟩
  obtain ⟨⟨e₁, h₁, hcontinues⟩, -, -, hlength⟩ := evaluate_append h
  exact ⟨e, e₁, h, h₁, hcontinues, hlength⟩

end Typology
