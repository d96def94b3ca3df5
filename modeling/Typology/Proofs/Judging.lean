import Typology.FieldQuery
import Typology.Proofs.Positions

/-!
# Questions language by language

A question judges each language on its own: it matches with a cause, is set aside or neither. What
the loop over the languages gathers follows from this.
-/

namespace Typology

variable {q : FieldQuery} {field : String} {s : LanguageSet} {quorum : Quorum}

theorem Matches.map_language_toList (m : Matches) :
    m.toList.map Match.language = m.languages.languages := by
  refine List.ext_getElem? fun i => ?_
  simp [Matches.toList, Function.comp_def]

namespace FieldQuery

/-- The cause for which a language matches, if it does. -/
def cause? (q : FieldQuery) (field : String) (l : Language) : Option Cause :=
  match (l.get? field).map q.judge with
  | some (.matched cause) => some cause
  | _ => none

/-- Whether a language has no usable value. -/
def setsAside (q : FieldQuery) (field : String) (l : Language) : Bool :=
  match (l.get? field).map q.judge with
  | some .unusable | none => true
  | _ => false

theorem judgeAll_eq (q : FieldQuery) (field : String) (position : Nat)
    (languages : List Language) :
    q.judgeAll field position languages =
      ⟨(languages.findIdxs (fun l => (q.cause? field l).isSome) position).zip
          (languages.filterMap (q.cause? field)),
        languages.filter (q.setsAside field)⟩ := by
  induction languages generalizing position with
  | nil => rfl
  | cons l rest ih =>
      rw [judgeAll, ih, List.findIdxs_cons, List.filterMap_cons, List.filter_cons, cause?,
        setsAside]
      cases (l.get? field).map q.judge with
      | none => rfl
      | some verdict => cases verdict <;> rfl

theorem length_positions (q : FieldQuery) (field : String) (languages : List Language) :
    (languages.findIdxs fun l => (q.cause? field l).isSome).length =
      (languages.filterMap (q.cause? field)).length := by
  rw [List.length_findIdxs, List.length_filterMap_eq_countP]

theorem languages_ofJudged (q : FieldQuery) (field : String) (s : LanguageSet) :
    (Matches.ofJudged q s (q.judgeAll field 0 s.languages)).languages.languages =
      s.languages.filter fun l => (q.cause? field l).isSome := by
  show List.filterMap (s.languages[·]?) (List.map Prod.fst (judgeAll _ _ _ _).matches_) = _
  rw [judgeAll_eq]
  dsimp only
  rw [List.map_fst_zip (Nat.le_of_eq (length_positions q field s.languages))]
  have h := filterMap_getElem?_findIdxs (fun l => (q.cause? field l).isSome) id s.languages
  rwa [List.map_id, List.map_id] at h

theorem toList_ofJudged (q : FieldQuery) (field : String) (s : LanguageSet) :
    (Matches.ofJudged q s (q.judgeAll field 0 s.languages)).toList =
      s.languages.filterMap fun l => (q.cause? field l).map (Match.mk l) := by
  rw [Matches.toList, languages_ofJudged]
  show List.mapIdx (fun i l => Match.mk l
    ((List.map Prod.snd (judgeAll _ _ _ _).matches_)[i]?.getD .none)) _ = _
  rw [judgeAll_eq]
  dsimp only
  rw [List.map_snd_zip (Nat.le_of_eq (length_positions q field s.languages).symm)]
  exact mapIdx_getElem?_filterMap (q.cause? field) (fun l c => Match.mk l (c.getD .none))
    s.languages

theorem noData_ofJudged (q : FieldQuery) (field : String) (s : LanguageSet) :
    (Matches.ofJudged q s (q.judgeAll field 0 s.languages)).noData =
      s.languages.filter (q.setsAside field) := by
  rw [judgeAll_eq]
  rfl

/-- A question about a field is answered if enough languages are not set aside. -/
theorem run_eq (h : q.field? = some field) :
    q.run s quorum =
      match quorum.check field (s.languages.countP fun l => !q.setsAside field l) s.size with
      | .error shortfall => .error (.quorum shortfall)
      | .ok () => .ok (.ofJudged q s (q.judgeAll field 0 s.languages)) := by
  have hcount : s.size - (q.judgeAll field 0 s.languages).noData.length =
      s.languages.countP fun l => !q.setsAside field l := by
    have hlength := List.length_eq_countP_add_countP (q.setsAside field) (l := s.languages)
    rw [judgeAll_eq, LanguageSet.size, ← List.countP_eq_length_filter, hlength]
    simp
  rw [← hcount]
  unfold run
  split
  · rename_i other hother
    cases h.symm.trans hother
    rfl
  · rename_i hnone
    cases h.symm.trans hnone

/-- The outcome of a question that is answered. -/
theorem eq_ofJudged_of_run {m : Matches} (h : q.field? = some field)
    (hrun : q.run s quorum = .ok m) : m = .ofJudged q s (q.judgeAll field 0 s.languages) := by
  rw [run_eq h] at hrun
  split at hrun
  · cases hrun
  · exact (Except.ok.inj hrun).symm

theorem mem_languages_of_run {m : Matches} {l : Language} (h : q.field? = some field)
    (hrun : q.run s quorum = .ok m) :
    l ∈ m.languages.languages ↔ l ∈ s.languages ∧ (q.cause? field l).isSome = true := by
  rw [eq_ofJudged_of_run h hrun, languages_ofJudged, List.mem_filter]

end FieldQuery

end Typology
