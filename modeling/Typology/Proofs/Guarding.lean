import Typology.Proofs.BuiltSet
import Typology.Proofs.FirstFailure

/-!
# Queries that guard their directives

A capture needs values and a filter needs bools. Whether they are met with can be read off the
steps: it is enough that a transformation comes before each capture and that the last one before
each filter is a test. A directive before any transformation makes a query fail.
-/

namespace Typology

open Standing LanguageSet

/-- Whether an error says that a directive has met what it cannot work on. -/
def QueryError.isClash : QueryError → Bool
  | contextFromLanguages _ => true
  | nonBooleanFilter _ _ _ => true
  | _ => false

/-- A transformation that does what the predicate of some test on values does. -/
def Transformation.Tests (t : Transformation) : Prop :=
  ∃ name test, t.apply = (ofTest name test).apply

/-- Each capture comes after a transformation, and the last transformation before each filter is a
test. -/
structure Query.Guarded (q : Query) : Prop where
  capture : ∀ before after, q.steps = before ++ .directive .extractContext :: after →
    ∃ t, .transform t ∈ before
  filter : ∀ before after, q.steps = before ++ .directive .filter :: after →
    ∃ earlier t later, before = earlier ++ .transform t :: later ∧ t.Tests ∧
      ∀ u, .transform u ∉ later

variable {q : Query} {s : LanguageSet} {e : Evaluation} {quorum : Quorum} {n : Nat} {d : Directive}
variable {t : Transformation} {r : Reading} {v : Value} {st st' : Standing}
variable {steps before earlier later after : List Step}

/-! ## Bools from tests -/

theorem Transformation.ofTest_apply_value (name : String)
    (test : Value → Except TransformError Bool) (w : Value) :
    (ofTest name test).apply (.value w) = (test w).map fun b => .single (.bool b) := by
  show (test w).bind _ = _
  cases test w <;> rfl

theorem Transformation.Tests.eq_bool (ht : t.Tests) (h : t.apply r = .ok v) :
    ∃ b, v = .single (.bool b) := by
  obtain ⟨name, test, happly⟩ := ht
  rw [happly] at h
  cases r with
  | language l => cases h
  | value w =>
      rw [ofTest_apply_value] at h
      cases hw : test w with
      | error source => rw [hw] at h; cases h
      | ok b => rw [hw] at h; cases h; exact ⟨b, rfl⟩

namespace Standing

theorem course_directives_reading (hnone : ∀ t, .transform t ∉ steps)
    (h : st.course n steps = .ok st') : st'.reading = st.reading := by
  induction steps generalizing n st with
  | nil => cases h; rfl
  | cons s rest ih =>
      obtain ⟨st₁, hp, hrest⟩ := course_cons_eq_ok h
      cases s with
      | transform t => exact absurd List.mem_cons_self (hnone t)
      | directive d =>
          rw [ih (fun t ht => hnone t (List.mem_cons_of_mem _ ht)) hrest,
            pass_directive_reading hp]

/-- After a test and any directives, a bool is in hand. -/
theorem course_test_reading (ht : t.Tests) (hlater : ∀ u, .transform u ∉ later)
    (h : st.course n (earlier ++ .transform t :: later) = .ok st') :
    ∃ b, st'.reading = .value (.single (.bool b)) := by
  obtain ⟨st₁, -, hafter⟩ := course_append_eq_ok h
  obtain ⟨st₂, hp, hrest⟩ := course_cons_eq_ok hafter
  rcases pass_ok_cases hp with ⟨u, v, hu, hv, rfl⟩ | ⟨v, hu, -⟩ | ⟨hu, -⟩ <;> cases hu
  obtain ⟨b, rfl⟩ := ht.eq_bool hv
  exact ⟨b, course_directives_reading hlater hrest⟩

end Standing

/-- Where the last transformation was a test, every active language has a bool in hand. -/
theorem Query.active_asBool? (ht : t.Tests) (hlater : ∀ u, .transform u ∉ later)
    (h : Query.evaluate ⟨earlier ++ .transform t :: later, quorum⟩ s = .ok e) :
    ∀ entry ∈ e.active, entry.2.asBool? ≠ none := by
  intro entry hentry
  rw [Evaluation.active, (Query.reflects h).active_eq] at hentry
  obtain ⟨st, hst, rfl⟩ := List.mem_map.1 hentry
  obtain ⟨first, -, hcourse⟩ := mem_remaining.1 hst
  obtain ⟨b, hb⟩ := course_test_reading ht hlater hcourse
  rw [hb]
  exact Option.some_ne_none b

theorem Query.Guarded.not_clash (hq : q.Guarded) {error : QueryError}
    (h : q.evaluate s = .error error) : error.isClash = false := by
  obtain ⟨_, before, step, after, e, hsteps, rfl, he, hfail⟩ :=
    Query.evaluate_error_iff_failsAt.1 h
  cases (Query.step_error_iff_failsWith he).1 hfail with
  | aborted => rfl
  | short => rfl
  | nothingToCapture hnone =>
      obtain ⟨t, ht⟩ := hq.capture _ _ hsteps
      exact absurd ht (hnone t)
  | notBool hactive _ hbool =>
      obtain ⟨earlier, t, later, rfl, ht, hlater⟩ := hq.filter _ _ hsteps
      exact absurd hbool (Query.active_asBool? ht hlater he _ (hactive ▸ List.mem_append_right _
        List.mem_cons_self))

/-! ## Directives before any transformation -/

namespace Evaluation

/-- Before any transformation a directive clashes, but for a filter of no languages. -/
theorem step_start_directive (quorum : Quorum) (n : Nat) (d : Directive) (s : LanguageSet) :
    (∃ error, (start s).step quorum n (.directive d) = .error error ∧ error.isClash = true) ∨
    (d = .filter ∧ s.languages = [] ∧ (start s).step quorum n (.directive d) = .ok (start s)) := by
  obtain ⟨languages, index⟩ := s
  cases d with
  | extractContext => exact .inl ⟨.contextFromLanguages n, rfl, rfl⟩
  | filter =>
      cases languages with
      | nil => exact .inr ⟨rfl, rfl, rfl⟩
      | cons first rest => exact .inl ⟨.nonBooleanFilter n first.name .language, rfl, rfl⟩

theorem run_start_directive (hnone : ∀ t, .transform t ∉ before)
    (hd : d = .filter → s.languages ≠ []) :
    ∃ error, run quorum n (before ++ .directive d :: after) (start s) = .error error ∧
      error.isClash = true := by
  -- as long as nothing clashes, the state stays what it was at the start
  induction before generalizing n with
  | nil =>
      rcases step_start_directive quorum n d s with ⟨error, hstep, hclash⟩ | ⟨rfl, hempty, -⟩
      · exact ⟨error, run_cons_error hstep, hclash⟩
      · exact absurd hempty (hd rfl)
  | cons step rest ih =>
      cases step with
      | transform t => exact absurd List.mem_cons_self (hnone t)
      | directive d' =>
          rcases step_start_directive quorum n d' s with ⟨error, hstep, hclash⟩ | ⟨-, -, hstep⟩
          · exact ⟨error, run_cons_error hstep, hclash⟩
          · rw [List.cons_append, run_cons_ok hstep]
            exact ih fun t ht => hnone t (List.mem_cons_of_mem _ ht)

end Evaluation

namespace Query

/-- A guarded query fails with no clash. A query that has a directive before any transformation
fails with one; only a filter of no languages is let through. -/
theorem evaluate_clash (q : Query) (s : LanguageSet) :
    (q.Guarded → ∀ error, q.evaluate s = .error error → error.isClash = false) ∧
    ∀ before d after, q.steps = before ++ .directive d :: after → (∀ t, .transform t ∉ before) →
      (d = .filter → s.languages ≠ []) →
      ∃ error, q.evaluate s = .error error ∧ error.isClash = true := by
  refine ⟨fun hq error h => hq.not_clash h, fun before d after hsteps hnone hd => ?_⟩
  show ∃ error, Evaluation.run q.quorum 0 q.steps (.start s) = .error error ∧ _
  rw [hsteps]
  exact Evaluation.run_start_directive hnone hd

/-- Looks for a text in the tone, which is a bool, captures that and filters by it. -/
def misreading : Query where
  steps := [.transform (Extractor.get "tone").toTransformation, .directive .extractContext,
    .transform (Predicate.contains (.text "k")).toTransformation, .directive .extractContext,
    .directive .filter]
  quorum := .half

theorem guarded_misreading : misreading.Guarded where
  capture before after h := by
    match before with
    | [] => cases h
    | [_] => cases h; exact ⟨_, List.mem_cons_self⟩
    | [_, _] => cases h
    | [_, _, _] => cases h; exact ⟨_, List.mem_cons_self⟩
    | [_, _, _, _] => cases h
    | _ :: _ :: _ :: _ :: _ :: rest => cases rest <;> cases h
  filter before after h := by
    match before with
    | [] => cases h
    | [_] => cases h
    | [_, _] => cases h
    | [_, _, _] => cases h
    | [first, second, _, fourth] =>
        cases h
        exact ⟨[_, _], _, [_], rfl, ⟨_, _, rfl⟩, by simp⟩
    | _ :: _ :: _ :: _ :: _ :: rest => cases rest <;> cases h

set_option maxRecDepth 100000 in
theorem evaluate_clash_misreading :
    misreading.Guarded ∧
    (∃ error, misreading.evaluate (ofUnique sampleLanguages) = .error error ∧
      error.isClash = false) ∧
    ∃ error, Query.evaluate ⟨[.directive .filter], .half⟩ (ofUnique sampleLanguages) =
      .error error ∧ error.isClash = true := by
  refine ⟨guarded_misreading, ?_, ?_⟩
  · obtain ⟨error, h⟩ : ∃ error, misreading.evaluate (ofUnique sampleLanguages) = .error error :=
      ⟨_, rfl⟩
    exact ⟨error, h, (evaluate_clash _ _).1 guarded_misreading error h⟩
  · exact (evaluate_clash _ _).2 [] .filter [] rfl (fun _ => List.not_mem_nil)
      fun _ => List.cons_ne_nil _ _

end Query

end Typology
