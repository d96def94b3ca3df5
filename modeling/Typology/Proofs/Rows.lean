import Typology.Proofs.BuiltSet
import Typology.Proofs.Run

/-!
# Rows

Snapshots stay as they were taken while languages leave, so a context is looked up by its language.
Where no two languages are the same, every row shows the standing of its language.
-/

namespace Typology

variable {n : Nat} {s : Step} {steps : List Step} {sts : List Standing}

@[simp] theorem Language.same_self (l : Language) : l.same l := beq_self_eq_true l.identity

namespace Standing

/-- No language has two standings. -/
def Distinct (sts : List Standing) : Prop :=
  ∀ a ∈ sts, ∀ b ∈ sts, a.language.same b.language → a = b

theorem Distinct.start {languages : List Language} (h : LanguageSet.Coherent languages) :
    Distinct (languages.map start) := by
  intro a ha b hb hsame
  obtain ⟨l, hl, rfl⟩ := List.mem_map.1 ha
  obtain ⟨l', hl', rfl⟩ := List.mem_map.1 hb
  rw [h l hl l' hl' hsame]

theorem Distinct.filterMap {ε : Type} {f : Standing → Except ε Standing}
    (hf : ∀ st st', f st = .ok st' → st'.language = st.language) (hd : Distinct sts) :
    Distinct (sts.filterMap fun st => (f st).toOption) := by
  intro a ha b hb hsame
  obtain ⟨a₀, ha₀, hfa⟩ := mem_filterMap_toOption.1 ha
  obtain ⟨b₀, hb₀, hfb⟩ := mem_filterMap_toOption.1 hb
  rw [hf a₀ a hfa, hf b₀ b hfb] at hsame
  cases hd a₀ ha₀ b₀ hb₀ hsame
  rw [hfa] at hfb
  cases hfb
  rfl

theorem Distinct.survivors (hd : Distinct sts) : Distinct (survivors n s sts) :=
  hd.filterMap fun _ _ => pass_language

theorem Distinct.remaining (hd : Distinct sts) : Distinct (remaining n steps sts) :=
  hd.filterMap fun _ _ => course_language

theorem Distinct.find? (hd : Distinct sts) {st : Standing} (hst : st ∈ sts) :
    sts.find? (fun x => x.language.same st.language) = some st := by
  cases h : sts.find? fun x => x.language.same st.language with
  | none => exact absurd (Language.same_self _) (List.find?_eq_none.1 h st hst)
  | some x =>
      have hsame := List.find?_some h
      rw [hd x (List.mem_of_find?_eq_some h) st hst hsame]

/-- What is left of a language is found by it. -/
theorem find?_remaining {languages : List Language} (hc : LanguageSet.Coherent languages)
    {l : Language} (hl : l ∈ languages) :
    (Standing.remaining n steps (languages.map start)).find? (fun st => st.language.same l) =
      ((start l).course n steps).toOption := by
  have hd : Distinct (Standing.remaining n steps (languages.map start)) :=
    (Distinct.start hc).remaining
  cases hcourse : (start l).course n steps with
  | ok st =>
      have hmem := mem_remaining.2 ⟨start l, List.mem_map_of_mem hl, hcourse⟩
      have hfound := hd.find? hmem
      rw [course_language hcourse] at hfound
      exact hfound
  | error d =>
      refine List.find?_eq_none.2 fun st hst hsame => ?_
      obtain ⟨first, hfirst, hst⟩ := mem_remaining.1 hst
      obtain ⟨l', hl', rfl⟩ := List.mem_map.1 hfirst
      rw [course_language hst, start_language] at hsame
      rw [← hc l' hl' l hl hsame, hst] at hcourse
      cases hcourse

end Standing

open Standing

namespace Evaluation

variable {e e' : Evaluation} {quorum : Quorum}

/-- The snapshots hold for each language what it captured, in order. -/
def Remembers (e : Evaluation) (sts : List Standing) : Prop :=
  ∀ st ∈ sts, e.snapshots.map (·.get? st.language) = st.captured.map some

theorem Remembers.start (s : LanguageSet) :
    (start s).Remembers (s.languages.map Standing.start) := by
  intro st hst
  obtain ⟨l, -, rfl⟩ := List.mem_map.1 hst
  rfl

/-- A snapshot finds the value that a language has while it is taken. -/
theorem Reflects.snapshot_get? (hr : e.Reflects sts) (hd : Distinct sts) {values : List Value}
    (hv : e.results = .values values) {st : Standing} (hst : st ∈ sts) {v : Value}
    (hread : st.reading = .value v) :
    Snapshot.get? ⟨n, e.languageSet.languages, values⟩ st.language = some v := by
  have hreadings : values.map .value = sts.map (·.reading) := by rw [← hr.readings, hv]; rfl
  have hfound := bind_findIdx?_map (fun x => x.language.same st.language) (·.reading) sts
  rw [hd.find? hst, ← hreadings, Option.map_some, hread, Option.bind_eq_some_iff] at hfound
  obtain ⟨i, hi, hget⟩ := hfound
  rw [List.getElem?_map, Option.map_eq_some_iff] at hget
  obtain ⟨w, hw, heq⟩ := hget
  cases heq
  rw [Snapshot.get?, hr.languages, List.findIdx?_map]
  exact Option.bind_eq_some_iff.2 ⟨i, hi, hw⟩

/-- What a step captures of a language is what the snapshot that it takes finds. -/
theorem Remembers.step (hm : e.Remembers sts) (hr : e.Reflects sts) (hd : Distinct sts)
    (h : e.step quorum n s = .ok e') : e'.Remembers (survivors n s sts) := by
  intro st' hst'
  obtain ⟨st, hst, hp⟩ := mem_survivors.1 hst'
  rw [(hr.follows h).snapshots, List.map_append, pass_language hp, hm st hst]
  -- only at `extractContext` do both sides get longer
  rcases pass_ok_cases hp with ⟨t, v, rfl, -, rfl⟩ | ⟨v, rfl, hread, rfl⟩ | ⟨rfl, -, rfl⟩
  · exact List.append_nil _
  · rw [taken]
    split
    · rename_i values hv
      rw [List.map_singleton, hr.snapshot_get? hd hv hst hread]
      show _ = (st.captured ++ [v]).map some
      rw [List.map_append]
      rfl
    · rename_i ls hl
      obtain ⟨l, hl⟩ := hr.reading_language hl hst
      rw [hl] at hread
      cases hread
  · exact List.append_nil _

theorem Remembers.after_run (hm : e.Remembers sts) (hr : e.Reflects sts) (hd : Distinct sts)
    (h : run quorum n steps e = .ok e') : e'.Remembers (remaining n steps sts) := by
  induction steps generalizing n e sts with
  | nil =>
      cases h
      rw [remaining_nil]
      exact hm
  | cons s rest ih =>
      obtain ⟨e₁, hstep, hrest⟩ := run_cons_eq_ok h
      rw [remaining_cons]
      exact ih (hm.step hr hd hstep) (hr.follows hstep).reflects hd.survivors hrest

theorem Reflects.rows_eq (hr : e.Reflects sts) (hm : e.Remembers sts) :
    e.rows = sts.map Standing.row := by
  refine List.ext_getElem? fun i => ?_
  rw [rows, List.getElem?_mapIdx, hr.languages, hr.readings, hr.rationale]
  simp only [List.getElem?_map]
  cases h : sts[i]? with
  | none => rfl
  | some st =>
      show some (Row.mk _ _ _ _) = some st.row
      rw [hm st (List.mem_of_getElem? h)]
      rfl

end Evaluation

theorem Query.remembers {q : Query} {s : LanguageSet} {e : Evaluation} (hs : s.Built)
    (h : q.evaluate s = .ok e) : e.Remembers (remaining 0 q.steps (s.languages.map .start)) :=
  (Evaluation.Remembers.start s).after_run (Evaluation.Reflects.start s)
    (Distinct.start hs.coherent) h

theorem Query.rows_eq {q : Query} {s : LanguageSet} {e : Evaluation} (hs : s.Built)
    (h : q.evaluate s = .ok e) :
    e.rows =
      s.languages.filterMap fun l => ((start l).course 0 q.steps).toOption.map Standing.row := by
  rw [(q.reflects h).rows_eq (q.remembers hs h), remaining, List.map_filterMap, List.filterMap_map]
  rfl

end Typology
