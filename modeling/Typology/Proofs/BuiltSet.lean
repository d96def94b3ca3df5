import Typology.LanguageSet
import Mathlib.Data.List.Nodup

/-!
# Sets of languages that can be made

A set is made of languages with distinct identities, and others are selected from it. In every set
made so, what has the identity of a language is that language.
-/

namespace Typology

namespace LanguageSet

/-- The sets that can be made. -/
inductive Built : LanguageSet → Prop where
  | ofList {languages s} : ofList languages = .ok s → Built s
  | select {s} (positions : List Nat) : Built s → Built (s.select positions)
  | subset {s} (keep : Language → Bool) : Built s → Built (s.subset keep)

/-- Languages with one identity are one language. -/
def Coherent (languages : List Language) : Prop :=
  ∀ a ∈ languages, ∀ b ∈ languages, a.same b → a = b

variable {languages : List Language} {s : LanguageSet}

theorem firstDuplicate?_eq_none_iff {seen ids : List Identity} :
    firstDuplicate? seen ids = none ↔ ids.Nodup ∧ ∀ who ∈ ids, who ∉ seen := by
  induction ids generalizing seen with
  | nil => simp [firstDuplicate?]
  | cons who rest ih =>
      rw [firstDuplicate?, List.nodup_cons, List.forall_mem_cons]
      by_cases hseen : who ∈ seen
      · simp [hseen]
      · rw [if_neg hseen, ih]
        simp only [List.mem_cons, not_or]
        constructor
        · rintro ⟨hnodup, hnew⟩
          exact ⟨⟨fun hw => (hnew who hw).1 rfl, hnodup⟩, hseen, fun other ho => (hnew other ho).2⟩
        · rintro ⟨⟨hwho, hnodup⟩, -, hnew⟩
          refine ⟨hnodup, fun other ho => ⟨?_, hnew other ho⟩⟩
          rintro rfl
          exact hwho ho

/-- The set of given languages is made of them as they are, if their identities differ. -/
theorem ofList_eq_ok_iff :
    ofList languages = .ok s ↔
      (languages.map Language.identity).Nodup ∧ s = ofUnique languages := by
  have hnone : firstDuplicate? [] (languages.map Language.identity) = none ↔
      (languages.map Language.identity).Nodup := by
    simp [firstDuplicate?_eq_none_iff]
  rw [← hnone, ofList]
  cases firstDuplicate? [] (languages.map Language.identity) with
  | some who => simp
  | none => simp [eq_comm]

theorem languages_of_ofList (h : ofList languages = .ok s) : s.languages = languages := by
  rw [(ofList_eq_ok_iff.1 h).2]
  rfl

theorem nodup_of_ofList (h : ofList languages = .ok s) :
    (s.languages.map Language.identity).Nodup := by
  rw [languages_of_ofList h]
  exact (ofList_eq_ok_iff.1 h).1

theorem coherent_of_nodup (h : (languages.map Language.identity).Nodup) : Coherent languages :=
  fun _ ha _ hb hsame => List.inj_on_of_nodup_map h ha hb (beq_iff_eq.1 hsame)

theorem Coherent.of_subset {others : List Language} (hc : Coherent languages)
    (h : ∀ l ∈ others, l ∈ languages) : Coherent others :=
  fun a ha b hb => hc a (h a ha) b (h b hb)

theorem mem_select {positions : List Nat} {l : Language} (h : l ∈ (s.select positions).languages) :
    l ∈ s.languages := by
  obtain ⟨i, -, hi⟩ := List.mem_filterMap.1 h
  exact List.mem_of_getElem? hi

theorem perm_select {positions : List Nat} (h : positions.Perm (List.range s.size)) :
    (s.select positions).languages.Perm s.languages := by
  have hget : (List.range s.size).map (s.languages[·]?) = s.languages.map some :=
    List.ext_getElem (by simp [size]) fun i _ _ => by simp
  have hall := congrArg (List.filterMap id) hget
  rw [List.filterMap_map, List.filterMap_map, Function.id_comp, Function.id_comp,
    List.filterMap_some] at hall
  have hperm := h.filterMap (s.languages[·]?)
  rwa [hall] at hperm

theorem Built.coherent (h : Built s) : Coherent s.languages := by
  induction h with
  | ofList h => exact coherent_of_nodup (nodup_of_ofList h)
  | select positions _ ih => exact ih.of_subset fun _ => mem_select
  | subset keep _ ih => exact ih.of_subset fun _ hl => List.mem_of_mem_filter hl

/-! ## Samples -/

/-- A language of which only its identity is recorded. -/
def onlyIdentity (who : Identity) : List (String × Value) :=
  [("name", .single (.text who.name)), ("student", .single (.text who.student)),
    ("netid", .single (.text who.netid))]

end LanguageSet

/-- The language of an identity and of what else is recorded, where these describe a language. -/
def Language.sample (who : Identity) (others : List (String × Value))
    (h : (ofList (LanguageSet.onlyIdentity who ++ others)).toOption.isSome = true) : Language :=
  (ofList (LanguageSet.onlyIdentity who ++ others)).toOption.get h

namespace LanguageSet

/-- Three languages, of which nothing more than its identity is recorded of the last one. -/
def sampleLanguages : List Language :=
  [.sample ⟨"English", "Ada", "a1"⟩ [("tone", .single (.bool false)),
      ("consonants", .list [.text "p", .text "t", .text "k"])] rfl,
    .sample ⟨"Yoruba", "Ada", "a2"⟩ [("tone", .single (.bool true)),
      ("consonants", .list [.text "k", .text "gb"])] rfl,
    .sample ⟨"English", "Ben", "b1"⟩ [] rfl]

theorem built_sample : (ofUnique sampleLanguages).Built :=
  .ofList (show ofList sampleLanguages = .ok (ofUnique sampleLanguages) from rfl)

end LanguageSet

end Typology
