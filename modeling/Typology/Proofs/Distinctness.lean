import Typology.Proofs.Stored

/-!
# Sets without repetition

A set holds no language twice as long as no position is selected from it twice. Then it can be
written and read again, and its languages are the same.
-/

namespace Typology

/-! ## Reading an identity again -/

theorem Value.asText?_kept (v : Value) : v.kept?.bind asText? = v.asText? := by
  cases v with
  | list items => rfl
  | single p =>
      rw [kept?]
      split
      · rfl
      · rename_i hfinite
        cases p with
        | float x => rfl
        | bool | int | text => exact absurd rfl hfinite

namespace Language

variable {l : Language}

theorem Recorded.identity_storedDatapoints (h : l.Recorded) :
    l.storedDatapoints.identity = .ok l.identity := by
  have hfield : ∀ p, l.storedDatapoints.identityField p = l.datapoints.identityField p := by
    intro p
    have hknown := h.get?_storedDatapoints p.label
    rw [get?, Datapoints.get?_label, Datapoints.get?_label] at hknown
    rw [Datapoints.identityField, Datapoints.identityField, hknown, Option.bind_assoc]
    simp only [Value.asText?_kept]
  rw [← h.identity]
  simp only [Datapoints.identity, hfield]

/-- What is written of a language reads as a language with the same identity. -/
theorem Recorded.exists_ofJson_stored (h : l.Recorded) :
    ∃ l', ofJson l.toJson.stored = .ok l' ∧ l'.identity = l.identity :=
  ⟨⟨l.identity, l.storedDatapoints.deriveStress⟩,
    (Language.ofJson_stored l).trans (ofDatapoints_eq_ok.2 ⟨h.identity_storedDatapoints, rfl⟩), rfl⟩

end Language

namespace LanguageSet

/-- No two positions hold languages with the same identity. -/
def Distinct (s : LanguageSet) : Prop :=
  ∀ (i j : Nat) (a b : Language), s.languages[i]? = some a → s.languages[j]? = some b →
    a.same b → i = j

/-- The sets that can be made without selecting a position twice. -/
inductive BuiltOnce : LanguageSet → Prop where
  | ofList {languages s} : ofList languages = .ok s → BuiltOnce s
  | select {s : LanguageSet} (positions : List Nat) : (positions.filter (· < s.size)).Nodup →
      BuiltOnce s → BuiltOnce (s.select positions)
  | subset {s} (keep : Language → Bool) : BuiltOnce s → BuiltOnce (s.subset keep)

variable {s : LanguageSet} {languages : List Language}

theorem distinct_iff_nodup : s.Distinct ↔ (s.languages.map Language.identity).Nodup := by
  rw [List.Nodup, List.pairwise_map, List.pairwise_iff_getElem]
  constructor
  · intro h i j hi hj hij hsame
    have := h i j _ _ (List.getElem?_eq_getElem hi) (List.getElem?_eq_getElem hj)
      (beq_iff_eq.2 hsame)
    omega
  · intro h i j a b ha hb hsame
    obtain ⟨hi, rfl⟩ := List.getElem?_eq_some_iff.1 ha
    obtain ⟨hj, rfl⟩ := List.getElem?_eq_some_iff.1 hb
    have hsame := beq_iff_eq.1 hsame
    rcases Nat.lt_trichotomy i j with hij | hij | hij
    · exact absurd hsame (h i j hi hj hij)
    · exact hij
    · exact absurd hsame.symm (h j i hj hi hij)

/-- A selection repeats a language if and only if it repeats a position. -/
theorem Distinct.select_iff (h : s.Distinct) (positions : List Nat) :
    (s.select positions).Distinct ↔ (positions.filter (· < s.size)).Nodup := by
  rw [distinct_iff_nodup, List.Nodup, List.Nodup, List.pairwise_map, List.pairwise_filter]
  show List.Pairwise _ (positions.filterMap (s.languages[·]?)) ↔ _
  rw [List.pairwise_filterMap]
  refine List.Pairwise.iff fun i j => ?_
  simp only [decide_eq_true_eq]
  constructor
  · rintro hne hi hj rfl
    exact hne _ (List.getElem?_eq_getElem hi) _ (List.getElem?_eq_getElem hi) rfl
  · intro hne a ha b hb hsame
    refine hne ?_ ?_ (h i j a b ha hb (beq_iff_eq.2 hsame))
    · exact (List.getElem?_eq_some_iff.1 ha).1
    · exact (List.getElem?_eq_some_iff.1 hb).1

theorem BuiltOnce.distinct (h : s.BuiltOnce) : s.Distinct := by
  induction h with
  | ofList h => exact distinct_iff_nodup.2 (nodup_of_ofList h)
  | select positions hpositions _ ih => exact (ih.select_iff positions).2 hpositions
  | subset keep _ ih =>
      exact distinct_iff_nodup.2 ((distinct_iff_nodup.1 ih).sublist (List.filter_sublist.map _))

theorem exists_languagesOfJson_stored (h : ∀ l ∈ languages, l.Recorded) :
    ∃ read, languagesOfJson (languages.map fun l => l.toJson.stored) = .ok read ∧
      read.map Language.identity = languages.map Language.identity := by
  induction languages with
  | nil => exact ⟨[], rfl, rfl⟩
  | cons l rest ih =>
      obtain ⟨l', hl', hidentity⟩ := (h l List.mem_cons_self).exists_ofJson_stored
      obtain ⟨others, hothers, hidentities⟩ := ih fun l hl => h l (List.mem_cons_of_mem _ hl)
      refine ⟨l' :: others, ?_, ?_⟩
      · rw [List.map_cons, languagesOfJson, hl', hothers]
        rfl
      · rw [List.map_cons, List.map_cons, hidentity, hidentities]

theorem Distinct.exists_ofJson_stored (h : s.Distinct) (hrecorded : ∀ l ∈ s.languages, l.Recorded) :
    ∃ s', ofJson s.toJson.stored = .ok s' ∧
      s'.languages.map Language.identity = s.languages.map Language.identity := by
  obtain ⟨read, hread, hidentities⟩ := exists_languagesOfJson_stored hrecorded
  refine ⟨ofUnique read, ?_, hidentities⟩
  rw [toJson_stored]
  show (languagesOfJson _).bind ofList = _
  rw [hread]
  exact ofList_eq_ok_iff.2 ⟨hidentities ▸ distinct_iff_nodup.1 h, rfl⟩

/-- A set that is made without selecting a position twice holds no language twice, and what is
written of it reads as a set of the same languages. A further selection keeps it so exactly if it,
too, repeats no position of the set. -/
theorem BuiltOnce.distinct_and_read (h : s.BuiltOnce) (hrecorded : ∀ l ∈ s.languages, l.Recorded) :
    s.Distinct ∧
    (∀ positions, (s.select positions).Distinct ↔ (positions.filter (· < s.size)).Nodup) ∧
    ∃ s', ofJson s.toJson.stored = .ok s' ∧
      s'.languages.map Language.identity = s.languages.map Language.identity :=
  ⟨h.distinct, h.distinct.select_iff, h.distinct.exists_ofJson_stored hrecorded⟩

set_option maxRecDepth 100000 in
theorem distinct_and_read_reversed :
    ∃ a b s, Language.ofList (onlyIdentity ⟨"X", "Ada", "a1"⟩) = .ok a ∧
      Language.ofList (onlyIdentity ⟨"X", "Ben", "b1"⟩) = .ok b ∧ ofList [a, b] = .ok s ∧
      (s.select [1, 2, 0]).Distinct ∧
      ∃ s', ofJson (s.select [1, 2, 0]).toJson.stored = .ok s' ∧
        s'.languages.map Language.identity = [⟨"X", "Ben", "b1"⟩, ⟨"X", "Ada", "a1"⟩] := by
  obtain ⟨a, ha⟩ : ∃ a, Language.ofList (onlyIdentity ⟨"X", "Ada", "a1"⟩) = .ok a := ⟨_, rfl⟩
  obtain ⟨b, hb⟩ : ∃ b, Language.ofList (onlyIdentity ⟨"X", "Ben", "b1"⟩) = .ok b := ⟨_, rfl⟩
  have ha' : a.identity = ⟨"X", "Ada", "a1"⟩ := by cases ha; rfl
  have hb' : b.identity = ⟨"X", "Ben", "b1"⟩ := by cases hb; rfl
  have hs : ofList [a, b] = .ok (ofUnique [a, b]) :=
    ofList_eq_ok_iff.2 ⟨by simp [ha', hb'], rfl⟩
  have hpositions : ([1, 2, 0].filter (· < (ofUnique [a, b]).size)).Nodup :=
    show ([1, 2, 0].filter (· < 2)).Nodup by decide
  have honce : ((ofUnique [a, b]).select [1, 2, 0]).BuiltOnce := .select _ hpositions (.ofList hs)
  have hrecorded : ∀ l ∈ ((ofUnique [a, b]).select [1, 2, 0]).languages, l.Recorded := by
    intro l hl
    rcases List.mem_pair.1 hl with rfl | rfl
    · exact Language.recorded_of_ofList hb
    · exact Language.recorded_of_ofList ha
  obtain ⟨hdistinct, -, s', hs', hidentities⟩ := honce.distinct_and_read hrecorded
  refine ⟨a, b, _, ha, hb, hs, hdistinct, s', hs', hidentities.trans ?_⟩
  show [b.identity, a.identity] = _
  rw [ha', hb']

set_option maxRecDepth 100000 in
/-- A position that is selected twice gives a set that holds a language twice. It can be written,
but what is written is refused. -/
theorem select_repeated :
    ∃ l s, Language.ofList (onlyIdentity ⟨"X", "Ada", "a1"⟩) = .ok l ∧ ofList [l] = .ok s ∧
      (s.select [0, 0]).Built ∧ ¬(s.select [0, 0]).Distinct ∧
      ∃ fault, ofJson (s.select [0, 0]).toJson.stored = .error fault ∧
        fault = .duplicateLanguage ⟨"X", "Ada", "a1"⟩ := by
  obtain ⟨l, hl⟩ : ∃ l, Language.ofList (onlyIdentity ⟨"X", "Ada", "a1"⟩) = .ok l := ⟨_, rfl⟩
  have hs : ofList [l] = .ok (ofUnique [l]) := rfl
  refine ⟨l, _, hl, hs, .select _ (.ofList hs), fun h => ?_, ?_⟩
  · exact absurd (h 0 1 l l rfl rfl (beq_self_eq_true _)) (by decide)
  · cases hl
    exact ⟨_, rfl, rfl⟩

end LanguageSet

end Typology
