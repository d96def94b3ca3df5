import Typology.Proofs.FieldFirst
import Typology.Proofs.BuiltSet
import Typology.Proofs.Ordering
import Mathlib.Data.List.Forall2

/-!
# Comparing a single value in two ways

How the value of a field compares to a given number, text or bool can be asked by a question or by
a query of three steps. A question decides by equality where the query reads an order, and both
come to the same answer for every language with a value of the shape asked about.
-/

namespace Typology

open Standing

/-- The questions about single values, each with the comparison that it makes. -/
inductive FieldQuery.Compares : FieldQuery → String → Mode → Primitive → Prop where
  | number (field mode k) : Compares (.number field mode k) field mode (.int k)
  | text (field value) {mode} : mode = .eq ∨ mode = .neq →
      Compares (.text field mode value) field mode (.text value)
  | flag (field value) : Compares (.flag field value) field .eq (.bool value)

/-- The cause that a question gives for a value: the value itself, but none for a flag. -/
def FieldQuery.evidence : FieldQuery → Value → Cause
  | flag _ _, _ => .none
  | _, v => .value v

/-- What a query does with the value of a field to keep the languages whose value compares. -/
def Step.compareWith (mode : Mode) (right : Primitive) : List Step :=
  [.transform (Predicate.comparison mode (.single right)).toTransformation, .directive .filter]

/-- The query that keeps the languages of which the value of a field compares. -/
def Query.compareField (field : String) (mode : Mode) (right : Primitive) (quorum : Quorum) :
    Query :=
  .ofField field (Step.compareWith mode right) quorum

/-- Every language has no value under a field, or one of the given shape. -/
def LanguageSet.HasShape (s : LanguageSet) (field : String) (shape : Shape) : Prop :=
  ∀ l ∈ s.languages, ∀ v ∈ l.get? field, v.shape = shape

instance (s : LanguageSet) (field : String) (shape : Shape) : Decidable (s.HasShape field shape) :=
  inferInstanceAs (Decidable (∀ l ∈ s.languages, ∀ v ∈ l.get? field, v.shape = shape))

/-- A question and a query give the same answer: the same shortfall, or the same languages, with the
same values as cause and rationale, and the same languages left out. -/
inductive SameVerdicts (q : FieldQuery) (field : String) :
    Except QueryError Matches → Except QueryError Evaluation → Prop where
  | shortfall (shortfall : Shortfall) :
      SameVerdicts q field (.error (.quorum shortfall)) (.error (.quorum shortfall))
  | found {m : Matches} {e : Evaluation} :
      m.languages.languages = e.languageSet.languages →
      e.noData = m.noData.map (fun l => ⟨0, field, l.name⟩) →
      List.Forall₂ (fun found rationale => ∃ v, rationale = some v ∧ found.cause = q.evidence v)
        m.toList e.rationale →
      SameVerdicts q field (.ok m) (.ok e)

variable {q : FieldQuery} {field : String} {mode : Mode} {p right : Primitive} {o : Ordering}
variable {quorum : Quorum} {l : Language} {s : LanguageSet} {v : Value}

/-! ## One value -/

theorem Value.eq_single_of_shape (h : v.shape = right.shape) : ∃ p, v = .single p := by
  cases v with
  | single p => exact ⟨p, rfl⟩
  | list items => cases right <;> cases h

theorem Predicate.orderScalars_of_shape (h : p.shape = right.shape)
    (ho : p.compareValues right = some o) : orderScalars p right = .ok o := by
  have hp : promote p right = p := by cases p <;> cases right <;> cases h <;> rfl
  rw [orderScalars, hp, ho]

theorem Predicate.apply_comparison_single (mode : Mode) (h : p.shape = right.shape)
    (ho : p.compareValues right = some o) :
    (comparison mode (.single right)).toTransformation.apply (.value (.single p)) =
      .ok (.single (.bool (mode.accepts o))) := by
  have htest : (comparison mode (.single right)).test (.single p) = .ok (mode.accepts o) := by
    show (orderScalars p right).map mode.accepts = _
    rw [orderScalars_of_shape h ho]
    rfl
  show (Except.bind (test _ _) _) = _
  rw [htest]
  rfl

/-- Steps that compare a value keep the language or drop it, and leave the value as rationale. -/
theorem Standing.course_compareWith (l : Language) (field : String) (mode : Mode)
    (h : p.shape = right.shape) (ho : p.compareValues right = some o) :
    ((start l).take (Extractor.get field).toTransformation (.single p)).course 1
        (Step.compareWith mode right) =
      if mode.accepts o then .ok ⟨l, .value (.single (.bool true)), [], some (.single p)⟩
      else .error (.dropped 2) := by
  rw [Step.compareWith,
    course_cons_ok (pass_transform_ok (Predicate.apply_comparison_single mode h ho))]
  cases mode.accepts o with
  | true => exact course_cons_ok rfl []
  | false => exact course_cons_error rfl []

namespace FieldQuery.Compares

theorem field?_eq (hq : q.Compares field mode right) : q.field? = some field := by
  cases hq <;> rfl

theorem shape_ne_float (hq : q.Compares field mode right) : right.shape ≠ .float := by
  cases hq <;> simp [Primitive.shape]

/-- A question judges a value of the shape asked about by its order to the given one. -/
theorem judge_single (hq : q.Compares field mode right) (h : p.shape = right.shape)
    (ho : p.compareValues right = some o) :
    q.judge (.single p) =
      if mode.accepts o then .matched (q.evidence (.single p)) else .unmatched := by
  have hf : p.shape ≠ .float := h ▸ hq.shape_ne_float
  obtain ⟨o', ho', heq⟩ := Primitive.compareValues_of_shape h hf
  cases ho.symm.trans ho'
  suffices hverdict : q.judge (.single p) =
      verdictOf (q.evidence (.single p)) (some (mode.accepts o)) by
    rw [hverdict]
    cases mode.accepts o <;> rfl
  have hunder := Primitive.compareUnder_of_shape mode h hf ho
  cases hq with
  | number =>
      cases p <;> cases h
      rw [← hunder]
      rfl
  | text _ value hmode =>
      cases p <;> cases h
      refine congrArg (fun answer => verdictOf _ (some answer)) ?_
      rw [Primitive.text.injEq] at heq
      rcases hmode with rfl | rfl <;>
        rw [Bool.eq_iff_iff] <;> simp [Mode.accepts, heq]
  | flag _ value =>
      cases p <;> cases h
      refine congrArg (fun answer => verdictOf _ (some answer)) ?_
      rw [Primitive.bool.injEq] at heq
      rw [Bool.eq_iff_iff]
      simp [Mode.accepts, heq]

/-- Every language with nothing or a value of the shape asked about fares alike in the question
and in the query. -/
theorem faresAlike (hq : q.Compares field mode right)
    (hl : ∀ v ∈ l.get? field, v.shape = right.shape) :
    FaresAlike q field (Step.compareWith mode right)
      (fun cause st => ∃ v, st.rationale = some v ∧ cause = q.evidence v) l := by
  cases hv : l.get? field with
  | none => exact .absent hv
  | some v =>
      have hshape := hl v hv
      obtain ⟨p, rfl⟩ := Value.eq_single_of_shape hshape
      replace hshape : p.shape = right.shape := hshape
      obtain ⟨o, ho, -⟩ := Primitive.compareValues_of_shape hshape (hshape ▸ hq.shape_ne_float)
      have hjudge := hq.judge_single hshape ho
      have hcourse := course_compareWith l field mode hshape ho
      cases ha : mode.accepts o with
      | true =>
          rw [ha] at hjudge hcourse
          exact .matched hv hjudge hcourse ⟨_, rfl, rfl⟩
      | false =>
          rw [ha] at hjudge hcourse
          exact .unmatched hv hjudge hcourse

end FieldQuery.Compares

/-! ## All languages -/

theorem Step.kind_compareWith {t : Transformation}
    (h : .transform t ∈ Step.compareWith mode right) : t.kind ≠ .extractor := by
  simp only [Step.compareWith, List.mem_cons, Step.transform.injEq, reduceCtorEq,
    List.not_mem_nil, or_false] at h
  subst h
  exact fun h => nomatch h

/-- The question and the query that compare a value give the same answer for every set in which
each language has a value of the shape asked about or none. -/
theorem FieldQuery.compares_sameVerdicts (hq : q.Compares field mode right)
    (hs : s.HasShape field right.shape) :
    SameVerdicts q field (q.run s quorum)
      ((Query.compareField field mode right quorum).evaluate s) := by
  have hagrees := agrees_ofField quorum hq.field?_eq (fun t => Step.kind_compareWith)
    fun l hl => hq.faresAlike (hs l hl)
  rcases hagrees with ⟨shortfall, hrun, he⟩ | ⟨m, e, hrun, he, hlanguages, hnoData, hcauses⟩
  · rw [hrun, Query.compareField, he]
    exact .shortfall shortfall
  · rw [hrun, Query.compareField, he]
    refine .found hlanguages hnoData ?_
    rw [(Query.reflects he).rationale, List.forall₂_map_right_iff]
    exact hcauses

/-- Three languages, of the last of which only the country is recorded beside its identity. -/
def LanguageSet.surveyed : LanguageSet :=
  ofUnique
    [.sample ⟨"English", "Ada", "a1"⟩ [("tone", .single (.bool false)),
        ("num_consonants", .single (.int 24)), ("country", .single (.text "Malta"))] rfl,
      .sample ⟨"Yoruba", "Ada", "a2"⟩ [("tone", .single (.bool true)),
        ("num_consonants", .single (.int 18)), ("country", .single (.text "Nigeria"))] rfl,
      .sample ⟨"Hausa", "Ben", "b1"⟩ [("country", .single (.text "Nigeria"))] rfl]

set_option maxRecDepth 100000 in
theorem FieldQuery.compares_sameVerdicts_surveyed :
    (LanguageSet.surveyed.HasShape "num_consonants" .int ∧
      SameVerdicts (.number "num_consonants" .leq 20) "num_consonants"
        ((number "num_consonants" .leq 20).run LanguageSet.surveyed .half)
        ((Query.compareField "num_consonants" .leq (.int 20) .half).evaluate .surveyed)) ∧
    (LanguageSet.surveyed.HasShape "country" .text ∧
      SameVerdicts (.text "country" .neq "Malta") "country"
        ((text "country" .neq "Malta").run LanguageSet.surveyed .half)
        ((Query.compareField "country" .neq (.text "Malta") .half).evaluate .surveyed)) ∧
    (LanguageSet.surveyed.HasShape "tone" .bool ∧
      SameVerdicts (.flag "tone" true) "tone" ((flag "tone" true).run LanguageSet.surveyed ⟨1⟩)
        ((Query.compareField "tone" .eq (.bool true) ⟨1⟩).evaluate .surveyed)) := by
  have hnumber : LanguageSet.surveyed.HasShape "num_consonants" .int := by decide
  have htext : LanguageSet.surveyed.HasShape "country" .text := by decide
  have hflag : LanguageSet.surveyed.HasShape "tone" .bool := by decide
  exact ⟨⟨hnumber, compares_sameVerdicts (.number _ _ _) hnumber⟩,
    ⟨htext, compares_sameVerdicts (.text _ _ (.inr rfl)) htext⟩,
    ⟨hflag, compares_sameVerdicts (.flag _ _) hflag⟩⟩

end Typology
