import Typology.Proofs.Rows
import Mathlib.Data.List.Induction

/-!
# Snapshots

A snapshot holds what the steps before `extractContext` make of the languages. Later steps leave it
as it is, and whatever language is active at the end was active when it was taken, so no row lacks
a context.
-/

namespace Typology

open Standing LanguageSet

variable {q : Query} {s : LanguageSet} {e e₁ : Evaluation} {l : Language} {step : Step}
variable {number : Nat} {snapshot : Snapshot}

/-- Whether a step takes a snapshot. -/
def Step.captures : Step → Bool
  | .directive .extractContext => true
  | _ => false

theorem Step.captures_iff : step.captures = true ↔ step = .directive .extractContext := by
  unfold captures
  split
  · exact iff_of_true rfl rfl
  · exact iff_of_false Bool.false_ne_true ‹_›

namespace Query

/-- The numbers of the steps that take a snapshot, in order. -/
def captures (q : Query) : List Nat := q.steps.findIdxs Step.captures

/-- The steps before the one with the given number, under the same quorum. -/
def before (q : Query) (number : Nat) : Query := ⟨q.steps.take number, q.quorum⟩

/-- The snapshot shows what the steps before the one with the given number make of the
languages. -/
structure Shows (q : Query) (s : LanguageSet) (number : Nat) (snapshot : Snapshot) : Prop where
  step_eq : snapshot.step = number
  evaluated : ∃ e, (q.before number).evaluate s = .ok e ∧
    snapshot.languages = e.languageSet.languages ∧ e.results = .values snapshot.values

/-- The query ends with the language active and the value in hand for it. -/
def Gives (q : Query) (s : LanguageSet) (l : Language) (v : Value) : Prop :=
  ∃ (e : Evaluation) (i : Nat), q.evaluate s = .ok e ∧ e.languageSet.languages[i]? = some l ∧
    e.results.toList[i]? = some (.value v)

/-! ## A query with one more step -/

@[elab_as_elim]
theorem push_induction {P : Query → Prop} (nil : ∀ quorum, P ⟨[], quorum⟩)
    (push : ∀ q step, P q → P (q.push step)) (q : Query) : P q := by
  obtain ⟨steps, quorum⟩ := q
  induction steps using List.reverseRecOn with
  | nil => exact nil quorum
  | append_singleton steps step ih => exact push ⟨steps, quorum⟩ step ih

theorem evaluate_push (q : Query) (step : Step) (s : LanguageSet) :
    (q.push step).evaluate s =
      (q.evaluate s).bind fun e => e.step q.quorum q.steps.length step := by
  show Evaluation.run q.quorum 0 (q.steps ++ [step]) _ = _
  rw [Evaluation.run_append, Nat.zero_add]
  refine congrArg _ (funext fun e => ?_)
  rw [Evaluation.run]
  cases e.step q.quorum q.steps.length step <;> rfl

theorem evaluate_push_eq_ok (h : (q.push step).evaluate s = .ok e) :
    ∃ e₁, q.evaluate s = .ok e₁ ∧ e₁.step q.quorum q.steps.length step = .ok e := by
  rw [evaluate_push] at h
  cases h₁ : q.evaluate s with
  | error error => rw [h₁] at h; cases h
  | ok e₁ => rw [h₁] at h; exact ⟨e₁, rfl, h⟩

theorem captures_push (q : Query) (step : Step) :
    (q.push step).captures = q.captures ++ if step.captures then [q.steps.length] else [] := by
  show List.findIdxs _ (q.steps ++ [step]) = _
  rw [List.findIdxs_append, List.findIdxs_singleton, Nat.zero_add]
  rfl

theorem mem_captures :
    number ∈ q.captures ↔ q.steps[number]? = some (.directive .extractContext) := by
  rw [captures, List.mem_findIdxs_iff_exists_getElem_pos, List.getElem?_eq_some_iff]
  simp only [Step.captures_iff]

theorem lt_of_mem_captures (h : number ∈ q.captures) : number < q.steps.length :=
  (List.getElem?_eq_some_iff.1 (mem_captures.1 h)).1

theorem before_push (h : number ≤ q.steps.length) : (q.push step).before number = q.before number :=
  congrArg (Query.mk · q.quorum) (List.take_append_of_le_length h)

theorem before_push_length (q : Query) (step : Step) :
    (q.push step).before q.steps.length = q := by
  rw [before_push (Nat.le_refl _), before, List.take_length]

theorem Shows.push (h : q.Shows s number snapshot) (hn : number ≤ q.steps.length) (step : Step) :
    (q.push step).Shows s number snapshot where
  step_eq := h.step_eq
  evaluated := by rw [before_push hn]; exact h.evaluated

/-- What a step takes shows what the steps before it make of the languages. -/
theorem shows_taken (h₁ : q.evaluate s = .ok e₁)
    (h : e₁.step q.quorum q.steps.length step = .ok e) :
    List.Forall₂ ((q.push step).Shows s) (if step.captures then [q.steps.length] else [])
      (e₁.taken q.steps.length step) := by
  cases step with
  | transform t => exact .nil
  | directive d =>
      cases d with
      | filter => exact .nil
      | extractContext =>
          cases hres : e₁.results with
          | languages ls =>
              have hfail := Evaluation.extractContext_languages hres q.steps.length
              cases hfail.symm.trans h
          | values vs =>
              rw [Evaluation.taken, hres]
              refine .cons ⟨rfl, e₁, ?_, rfl, hres⟩ .nil
              rw [before_push_length, h₁]

/-! ## All snapshots of a query -/

theorem shows_snapshots (h : q.evaluate s = .ok e) :
    List.Forall₂ (q.Shows s) q.captures e.snapshots := by
  induction q using push_induction generalizing e with
  | nil quorum => cases h; exact .nil
  | push q step ih =>
      obtain ⟨e₁, h₁, hstep⟩ := evaluate_push_eq_ok h
      rw [captures_push, ((reflects h₁).follows hstep).snapshots]
      refine List.rel_append ?_ (shows_taken h₁ hstep)
      -- the steps before an earlier snapshot are the same in the longer query
      have hbounded := (List.forall₂_and_left _ _).2 ⟨fun _ => lt_of_mem_captures, ih h₁⟩
      exact hbounded.imp fun number snapshot ⟨hn, hshows⟩ => hshows.push (Nat.le_of_lt hn) step

/-- Languages only leave: one that is active at the end is active after the steps before. -/
theorem mem_before (h : q.evaluate s = .ok e) (h₁ : (q.before number).evaluate s = .ok e₁)
    (hl : l ∈ e.languageSet.languages) : l ∈ e₁.languageSet.languages := by
  rw [languages_eq h, List.mem_filter] at hl
  rw [languages_eq h₁, List.mem_filter]
  refine ⟨hl.1, ?_⟩
  have hcourse := hl.2
  rw [← List.take_append_drop number q.steps, course_append] at hcourse
  show ((start l).course 0 (q.steps.take number)).toBool = true
  cases hc : (start l).course 0 (q.steps.take number) with
  | ok st => rfl
  | error departure => rw [hc] at hcourse; cases hcourse

/-- A snapshot finds for a language the value that the steps before give it. -/
theorem Shows.get? (hs : s.Built) (hshows : q.Shows s number snapshot)
    (hl : l ∈ snapshot.languages) :
    ∃ v, snapshot.get? l = some v ∧ (q.before number).Gives s l v := by
  obtain ⟨-, e₁, h₁, hlanguages, hvalues⟩ := hshows
  have hr := reflects h₁
  rw [hlanguages, hr.languages] at hl
  obtain ⟨st, hst, rfl⟩ := List.mem_map.1 hl
  obtain ⟨v, hread⟩ := hr.reading_value hvalues hst
  refine ⟨v, ?_, ?_⟩
  · have hget : Snapshot.get? ⟨snapshot.step, _, snapshot.values⟩ st.language = some v :=
      hr.snapshot_get? (Distinct.start hs.coherent).remaining hvalues hst hread
    rwa [← hlanguages] at hget
  · obtain ⟨i, hi⟩ := List.getElem?_of_mem hst
    refine ⟨e₁, i, h₁, ?_, ?_⟩
    · rw [hr.languages, List.getElem?_map, hi, Option.map_some]
    · rw [hr.readings, List.getElem?_map, hi, Option.map_some, hread]

/-- Each `extractContext` takes one snapshot, of the languages and values that the steps before it
leave, and each row has for each of them the value that these steps give its language. -/
theorem evaluate_snapshots (hs : s.Built) (h : q.evaluate s = .ok e) :
    List.Forall₂ (q.Shows s) q.captures e.snapshots ∧
    e.rows.length = e.languageSet.size ∧
    ∀ (i : Nat) (l : Language) (row : Row), e.languageSet.languages[i]? = some l →
      e.rows[i]? = some row → row.language = l.name ∧
        List.Forall₂ (fun number context => ∃ v, context = some v ∧
          (q.before number).Gives s l v) q.captures row.contexts := by
  have hsnapshots := shows_snapshots h
  refine ⟨hsnapshots, List.length_mapIdx, fun i l row hl hrow => ?_⟩
  rw [Evaluation.rows, List.getElem?_mapIdx, hl] at hrow
  cases hrow
  refine ⟨rfl, List.forall₂_map_right_iff.2 (hsnapshots.imp fun number snapshot hshows => ?_)⟩
  obtain ⟨e₁, h₁, hlanguages, -⟩ := hshows.evaluated
  have hactive := mem_before h h₁ (List.mem_of_getElem? hl)
  exact hshows.get? hs (hlanguages ▸ hactive)

set_option maxRecDepth 100000 in
theorem evaluate_snapshots_toneless :
    (ofUnique sampleLanguages).Built ∧
    ∃ e l row, toneless.evaluate (.ofUnique sampleLanguages) = .ok e ∧
      e.languageSet.languages = [l] ∧ e.rows = [row] ∧
      List.Forall₂ (toneless.Shows (.ofUnique sampleLanguages)) [1] e.snapshots ∧
      List.Forall₂ (fun number context => ∃ v, context = some v ∧
        (toneless.before number).Gives (.ofUnique sampleLanguages) l v) [1] row.contexts := by
  obtain ⟨e, l, row, h, hactive, hrows⟩ : ∃ e l row,
      toneless.evaluate (.ofUnique sampleLanguages) = .ok e ∧
        e.languageSet.languages = [l] ∧ e.rows = [row] := ⟨_, _, _, rfl, rfl, rfl⟩
  obtain ⟨hsnapshots, -, hcontexts⟩ := evaluate_snapshots built_sample h
  have hrow := hcontexts 0 l row (by rw [hactive]; rfl) (by rw [hrows]; rfl)
  exact ⟨built_sample, e, l, row, h, hactive, hrows, hsnapshots, hrow.2⟩

end Query

end Typology
