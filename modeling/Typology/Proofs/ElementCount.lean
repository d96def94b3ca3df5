import Typology.Proofs.FieldFirst
import Typology.Proofs.Rows
import Mathlib.Algebra.Group.Nat.Defs

/-!
# Counting elements in two ways

How many targets the list of a field has can be asked by a question or by a query of five steps.
Each language fares the same in both, and the quorum is asked about the same numbers.
-/

namespace Typology

open Standing

/-- The steps that keep the languages of which a field's list has a number of the targets. -/
def Step.countElements (field : String) (mode : Mode) (k : Nat) (targets : List Primitive) :
    List Step :=
  [.transform (Extractor.get field).toTransformation,
    .transform (Operation.intersection targets).toTransformation, .directive .extractContext,
    .transform (Predicate.comparison mode (.single (.int (Int64.ofNat k)))).toTransformation,
    .directive .filter]

/-- The query with these steps. -/
def Query.countElements (field : String) (mode : Mode) (k : Nat) (targets : List Primitive)
    (quorum : Quorum) : Query :=
  ⟨Step.countElements field mode k targets, quorum⟩

/-- A question and a query give the same answer: the same shortfall, or the same languages, with
the same elements as cause, context and rationale, and the same languages left out. -/
inductive SameAnswer (field : String) :
    Except QueryError Matches → Except QueryError Evaluation → Prop where
  | shortfall (shortfall : Shortfall) :
      SameAnswer field (.error (.quorum shortfall)) (.error (.quorum shortfall))
  | found {m : Matches} {e : Evaluation} :
      m.languages.languages = e.languageSet.languages →
      e.noData = m.noData.map (fun l => ⟨0, field, l.name⟩) →
      List.Forall₂ (fun found row => row.language = found.language.name ∧
        ∃ items, found.cause = .elements items ∧ row.contexts = [some (.list items)] ∧
          row.rationale = some (.list items)) m.toList e.rows →
      SameAnswer field (.ok m) (.ok e)

/-! ## One language -/

theorem compareWords_ofNat {a b : Nat} (ha : a < 2 ^ 63) (hb : b < 2 ^ 63) :
    compareWords (Int64.ofNat a) (Int64.ofNat b) = compare a b := by
  rw [compareWords, Int64.toInt_ofNat_of_lt ha, Int64.toInt_ofNat_of_lt hb]
  rcases Nat.lt_trichotomy a b with h | rfl | h
  · rw [Nat.compare_eq_lt.2 h, Int.compare_eq_lt.2 (by omega)]
  · rw [Nat.compare_eq_eq.2 rfl, Int.compare_eq_eq.2 rfl]
  · rw [Nat.compare_eq_gt.2 h, Int.compare_eq_gt.2 (by omega)]

variable {field : String} {mode : Mode} {k : Nat} {targets items : List Primitive}
variable {quorum : Quorum} {l : Language} {s : LanguageSet}

theorem Predicate.apply_comparison_length (hitems : items.length < 2 ^ 63) (hk : k < 2 ^ 63) :
    (comparison mode (.single (.int (Int64.ofNat k)))).toTransformation.apply
        (.value (.list items)) =
      .ok (.single (.bool (mode.accepts (compare items.length k)))) := by
  rw [← compareWords_ofNat hitems hk]
  rfl

/-- Whether a list has a number of the targets that a mode accepts. -/
def Accepted (mode : Mode) (k : Nat) (targets items : List Primitive) : Bool :=
  mode.accepts (compare (intersection items targets).length k)

theorem length_intersection_le (items targets : List Primitive) :
    (intersection items targets).length ≤ items.length :=
  List.length_filter_le _ _

namespace Standing

theorem course_countElements_none (h : l.get? field = none) :
    (start l).course 0 (Step.countElements field mode k targets) =
      .error (.missing ⟨0, field, l.name⟩) :=
  course_cons_error (pass_get_none h) _

/-- What becomes of a language with a list. -/
theorem course_countElements (h : l.get? field = some (.list items))
    (hitems : items.length < 2 ^ 63) (hk : k < 2 ^ 63) :
    (start l).course 0 (Step.countElements field mode k targets) =
      if Accepted mode k targets items then
        .ok ⟨l, .value (.single (.bool true)), [.list (intersection items targets)],
          some (.list (intersection items targets))⟩
      else .error (.dropped 4) := by
  have hlen := Nat.lt_of_le_of_lt (length_intersection_le items targets) hitems
  have happly : (Predicate.comparison mode (.single (.int (Int64.ofNat k)))).toTransformation.apply
      (.value (.list (intersection items targets))) =
        .ok (.single (.bool (Accepted mode k targets items))) :=
    Predicate.apply_comparison_length hlen hk
  rw [Step.countElements, course_cons_ok (pass_get_some h), course_cons_ok (pass_transform_ok rfl),
    course_cons_ok (pass_extractContext rfl), course_cons_ok (pass_transform_ok happly)]
  cases Accepted mode k targets items with
  | true => exact course_cons_ok rfl []
  | false => exact course_cons_error rfl []

end Standing

namespace FieldQuery

theorem judge_list (field : String) (mode : Mode) (k : Nat) (targets items : List Primitive) :
    (list field mode k targets).judge (.list items) =
      if Accepted mode k targets items then .matched (.elements (intersection items targets))
      else .unmatched := by
  unfold judge matchSet? Accepted
  dsimp only
  cases mode.accepts (compare (intersection items targets).length k) <;> rfl

theorem cause?_list (h : l.get? field = some (.list items)) :
    (list field mode k targets).cause? field l =
      if Accepted mode k targets items then some (.elements (intersection items targets))
      else none := by
  rw [cause?, h, Option.map_some, judge_list]
  cases Accepted mode k targets items <;> rfl

theorem setsAside_list (h : l.get? field = some (.list items)) :
    (list field mode k targets).setsAside field l = false := by
  rw [setsAside, h, Option.map_some, judge_list]
  cases Accepted mode k targets items <;> rfl

end FieldQuery

/-! ## All languages -/

/-- Every language has no value or a list that can be counted under a field. -/
def LanguageSet.Countable (s : LanguageSet) (field : String) : Prop :=
  ∀ l ∈ s.languages, l.get? field = none ∨
    ∃ items, l.get? field = some (.list items) ∧ items.length < 2 ^ 63

/-- No language makes the steps fail. -/
theorem Query.course_countElements_cases (hs : s.Countable field) (hk : k < 2 ^ 63)
    (hl : l ∈ s.languages) :
    (start l).course 0 (Step.countElements field mode k targets) =
        .error (.missing ⟨0, field, l.name⟩) ∨
      (start l).course 0 (Step.countElements field mode k targets) = .error (.dropped 4) ∨
      ∃ st, (start l).course 0 (Step.countElements field mode k targets) = .ok st := by
  rcases hs l hl with hnone | ⟨items, hsome, hitems⟩
  · exact .inl (course_countElements_none hnone)
  · rw [course_countElements hsome hitems hk]
    cases Accepted mode k targets items
    · exact .inr (.inl rfl)
    · exact .inr (.inr ⟨_, rfl⟩)

namespace Query

theorem kind_countElements {t : Transformation}
    (h : .transform t ∈ (Step.countElements field mode k targets).tail) : t.kind ≠ .extractor := by
  simp only [Step.countElements, List.tail_cons, List.mem_cons, Step.transform.injEq, reduceCtorEq,
    List.not_mem_nil, or_false, false_or] at h
  rcases h with rfl | rfl
  · exact fun h => nomatch h
  · exact fun h => nomatch h

theorem countElements_shortfall {shortfall : Shortfall}
    (h : quorum.check field (s.languages.countP fun l => (l.get? field).isSome) s.size =
      .error shortfall) :
    (countElements field mode k targets quorum).evaluate s = .error (.quorum shortfall) :=
  ofField_shortfall h

/-- With enough lists the query is answered: after the first step nothing can fail. -/
theorem countElements_ok (hs : s.Countable field) (hk : k < 2 ^ 63)
    (h : quorum.check field (s.languages.countP fun l => (l.get? field).isSome) s.size = .ok ()) :
    ∃ e, (countElements field mode k targets quorum).evaluate s = .ok e := by
  have hkind : ∀ t, .transform t ∈ (Step.countElements field mode k targets).tail →
      t.kind ≠ .extractor := fun t => kind_countElements
  refine ofField_ok hkind (fun l hl error hfail => ?_) h
  rcases course_countElements_cases hs hk hl with h | h | ⟨st, h⟩ <;> cases h.symm.trans hfail

theorem noData_countElements {e : Evaluation} (hs : s.Countable field) (hk : k < 2 ^ 63)
    (h : (countElements field mode k targets quorum).evaluate s = .ok e) :
    e.noData = (s.languages.filter fun l => (l.get? field).isNone).map
      fun l => ⟨0, field, l.name⟩ := by
  refine noData_ofField (fun l hl d hd => ?_) h
  rcases course_countElements_cases hs hk hl with h | h | ⟨st, h⟩ <;> cases h.symm.trans hd
  rfl

end Query

/-- The question and the query for a number of targets give the same answer for every set in which
each language has a list under the field or nothing. -/
theorem FieldQuery.list_sameAnswer (hb : s.Built) (hs : s.Countable field) (hk : k < 2 ^ 63) :
    SameAnswer field ((list field mode k targets).run s quorum)
      ((Query.countElements field mode k targets quorum).evaluate s) := by
  have haside : ∀ l ∈ s.languages,
      (list field mode k targets).setsAside field l = (l.get? field).isNone := by
    intro l hl
    rcases hs l hl with h | ⟨items, h, -⟩
    · rw [setsAside_none _ h, h]; rfl
    · rw [setsAside_list h, h]; rfl
  have hcount : (s.languages.countP fun l => !(list field mode k targets).setsAside field l) =
      s.languages.countP fun l => (l.get? field).isSome := by
    refine List.countP_congr fun l hl => ?_
    rw [haside l hl, Option.not_isNone]
  rw [run_eq rfl, hcount]
  cases hcheck : quorum.check field (s.languages.countP fun l => (l.get? field).isSome) s.size with
  | error shortfall =>
      rw [Query.countElements_shortfall hcheck]
      exact .shortfall shortfall
  | ok u =>
      obtain ⟨e, he⟩ : ∃ e, (Query.countElements field mode k targets quorum).evaluate s = .ok e :=
        Query.countElements_ok hs hk hcheck
      rw [he]
      have hlanguages := Query.languages_eq he
      have hrows := Query.rows_eq hb he
      rw [show (Query.countElements field mode k targets quorum).steps =
        Step.countElements field mode k targets from rfl] at hlanguages hrows
      refine .found ?_ ?_ ?_
      · rw [languages_ofJudged, hlanguages]
        refine List.filter_congr fun l hl => ?_
        rcases hs l hl with h | ⟨items, h, hitems⟩
        · rw [cause?_none _ h, course_countElements_none h]
          rfl
        · rw [cause?_list h, course_countElements h hitems hk]
          cases Accepted mode k targets items <;> rfl
      · rw [Query.noData_countElements hs hk he, noData_ofJudged]
        exact congrArg _ (List.filter_congr fun l hl => (haside l hl).symm)
      · rw [toList_ofJudged, hrows]
        refine forall₂_filterMap fun l hl => ?_
        rcases hs l hl with h | ⟨items, h, hitems⟩
        · rw [cause?_none _ h, course_countElements_none h]
          exact .none
        · rw [cause?_list h, course_countElements h hitems hk]
          cases Accepted mode k targets items
          · exact .none
          · exact .some ⟨rfl, _, rfl, rfl, rfl⟩

set_option maxRecDepth 100000 in
theorem LanguageSet.countable_sample : (ofUnique sampleLanguages).Countable "consonants" := by
  intro l hl
  rcases List.mem_cons.1 hl with rfl | hl
  · exact .inr ⟨_, rfl, by decide⟩
  rcases List.mem_cons.1 hl with rfl | hl
  · exact .inr ⟨_, rfl, by decide⟩
  rcases List.mem_cons.1 hl with rfl | hl
  · exact .inl rfl
  · cases hl

theorem FieldQuery.list_sameAnswer_consonants :
    (LanguageSet.ofUnique LanguageSet.sampleLanguages).Built ∧
    (LanguageSet.ofUnique LanguageSet.sampleLanguages).Countable "consonants" ∧ 2 < 2 ^ 63 ∧
    SameAnswer "consonants"
      ((list "consonants" .geq 2 [.text "gb", .text "k"]).run
        (.ofUnique LanguageSet.sampleLanguages) .half)
      ((Query.countElements "consonants" .geq 2 [.text "gb", .text "k"] .half).evaluate
        (.ofUnique LanguageSet.sampleLanguages)) :=
  ⟨LanguageSet.built_sample, LanguageSet.countable_sample, by decide,
    list_sameAnswer LanguageSet.built_sample LanguageSet.countable_sample (by decide)⟩

end Typology
