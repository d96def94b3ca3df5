import Typology.Proofs.NameIndex

/-!
# The names of a set

In every set that can be made each position has one name, and the name leads back to its language.
An alias never takes the display name of a single language, but it can take one that is shared.
-/

namespace Typology.LanguageSet

open Alias

variable {languages : List Language} {s : LanguageSet} {l : Language} {name : String} {i : Nat}

theorem Built.eq_ofUnique (h : s.Built) : s = ofUnique s.languages := by
  cases h with
  | ofList h =>
      unfold LanguageSet.ofList at h
      split at h
      · cases h
      · cases h; rfl
  | select positions _ => rfl
  | subset keep _ => rfl

/-! ## Names and positions -/

theorem nodup_keys (languages : List Language) :
    ((ofUnique languages).index.map (·.1)).Nodup :=
  nodup_index _

theorem positions_perm (languages : List Language) :
    ((ofUnique languages).index.map (·.2)).Perm (List.range (ofUnique languages).size) := by
  have h := index_positions_perm (languages.map Language.name)
  rwa [List.length_map] at h

theorem exists_mem_index : (∃ name, (name, i) ∈ (ofUnique languages).index) ↔
    i < (ofUnique languages).size := by
  have h := (positions_perm languages).mem_iff (a := i)
  rw [List.mem_range, List.mem_map] at h
  rw [← h]
  exact ⟨fun ⟨name, hmem⟩ => ⟨(name, i), hmem, rfl⟩, fun ⟨entry, hmem, hi⟩ => ⟨entry.1, hi ▸ hmem⟩⟩

theorem nameAt?_eq_some :
    (ofUnique languages).nameAt? i = some name ↔ (name, i) ∈ (ofUnique languages).index := by
  have hnodup : ((ofUnique languages).index.map (·.2)).Nodup :=
    (positions_perm languages).nodup_iff.2 List.nodup_range
  rw [nameAt?, Option.map_eq_some_iff]
  constructor
  · rintro ⟨⟨key, position⟩, hfind, rfl⟩
    have hposition : position = i := by simpa using List.find?_some hfind
    exact hposition ▸ List.mem_of_find?_eq_some hfind
  · intro hmem
    cases hfind : (ofUnique languages).index.find? (·.2 == i) with
    | none => simpa using List.find?_eq_none.1 hfind _ hmem
    | some entry =>
        have hposition : entry.2 = i := by simpa using List.find?_some hfind
        have hentry := List.inj_on_of_nodup_map hnodup (List.mem_of_find?_eq_some hfind) hmem
          hposition
        exact ⟨entry, rfl, congrArg Prod.fst hentry⟩

/-- The names are those that the index has for the positions, in their order. -/
theorem names_eq_map (languages : List Language) :
    (ofUnique languages).names = (List.range (ofUnique languages).size).map fun i =>
      ((ofUnique languages).nameAt? i).getD "" := by
  rw [names, List.filterMap_eq_map_iff_forall_eq_some]
  intro i hi
  obtain ⟨name, hmem⟩ := exists_mem_index.2 (List.mem_range.1 hi)
  rw [nameAt?_eq_some.2 hmem]
  rfl

theorem length_names (languages : List Language) :
    (ofUnique languages).names.length = (ofUnique languages).size := by
  simp [names_eq_map]

theorem getElem?_names :
    (ofUnique languages).names[i]? = some name ↔ (name, i) ∈ (ofUnique languages).index := by
  by_cases hi : i < (ofUnique languages).size
  · obtain ⟨key, hmem⟩ := exists_mem_index.2 hi
    rw [← nameAt?_eq_some] at hmem ⊢
    simp [names_eq_map, hi, hmem]
  · have hnone : (name, i) ∉ (ofUnique languages).index :=
      fun h => hi (exists_mem_index.1 ⟨name, h⟩)
    simp [names_eq_map, hi, hnone]

theorem mem_names :
    name ∈ (ofUnique languages).names ↔ ∃ i, (name, i) ∈ (ofUnique languages).index := by
  simp [List.mem_iff_getElem?, getElem?_names]

theorem get?_eq_of_mem_index (h : (name, i) ∈ (ofUnique languages).index) :
    (ofUnique languages).get? name = languages[i]? := by
  rw [get?, (Dictionary.lookup_eq_some_iff (nodup_keys languages)).2 h]
  rfl

theorem exists_mem_index_of_get? (h : (ofUnique languages).get? name = some l) :
    ∃ i, (name, i) ∈ (ofUnique languages).index ∧ languages[i]? = some l := by
  obtain ⟨i, hlookup, hl⟩ := Option.bind_eq_some_iff.1 h
  exact ⟨i, (Dictionary.lookup_eq_some_iff (nodup_keys languages)).1 hlookup, hl⟩

theorem get?_eq_none (h : name ∉ (ofUnique languages).names) :
    (ofUnique languages).get? name = none := by
  rw [Option.eq_none_iff_forall_ne_some]
  intro l hl
  obtain ⟨i, hmem, -⟩ := exists_mem_index_of_get? hl
  exact h (mem_names.2 ⟨i, hmem⟩)

theorem nodup_names (languages : List Language) : (ofUnique languages).names.Nodup := by
  refine List.Nodup.filterMap (fun i j name hi hj => ?_) List.nodup_range
  have hentry := List.inj_on_of_nodup_map (nodup_keys languages) (nameAt?_eq_some.1 hi)
    (nameAt?_eq_some.1 hj) rfl
  exact congrArg Prod.snd hentry

/-- Names and positions of a set belong to each other one to one. A display name that no other
position has is a name itself; where several positions share one, its labels follow their order. -/
structure NamedApart (s : LanguageSet) : Prop where
  nodup_keys : (s.index.map (·.1)).Nodup
  positions_perm : (s.index.map (·.2)).Perm (List.range s.size)
  length_names : s.names.length = s.size
  nodup_names : s.names.Nodup
  get?_name : ∀ (i : Nat) name, s.names[i]? = some name → s.get? name = s.languages[i]?
  get?_other : ∀ name, name ∉ s.names → s.get? name = none
  unshared : ∀ (i : Nat) l, s.languages[i]? = some l →
    (∀ (j : Nat) l', s.languages[j]? = some l' → l'.name = l.name → j = i) →
    s.names[i]? = some l.name
  shared : ∀ (i j : Nat) l l', i < j → s.languages[i]? = some l → s.languages[j]? = some l' →
    l.name = l'.name → ∃ m n, m < n ∧ s.names[i]? = some (label l.name m) ∧
      s.names[j]? = some (label l.name n)

theorem getElem?_map_name (h : languages[i]? = some l) :
    (languages.map Language.name)[i]? = some l.name := by
  rw [List.getElem?_map, h]
  rfl

theorem namedApart_ofUnique (languages : List Language) : (ofUnique languages).NamedApart where
  nodup_keys := nodup_keys languages
  positions_perm := positions_perm languages
  length_names := length_names languages
  nodup_names := nodup_names languages
  get?_name _ _ h := get?_eq_of_mem_index (getElem?_names.1 h)
  get?_other _ := get?_eq_none
  unshared i l hl hunshared := by
    refine getElem?_names.2 (mem_index_of_unshared (getElem?_map_name hl) fun j hj => ?_)
    rw [List.getElem?_map, Option.map_eq_some_iff] at hj
    obtain ⟨l', hl', hname⟩ := hj
    exact hunshared j l' hl' hname
  shared i j l l' hij hl hl' hname := by
    obtain ⟨m, n, hmn, hm, hn⟩ :=
      exists_labels_index (getElem?_map_name hl) (hname ▸ getElem?_map_name hl') hij
    exact ⟨m, n, hmn, getElem?_names.2 hm, getElem?_names.2 hn⟩

/-- In every set that can be made the names are apart, and the search for a label ends with the
first that is free, whatever is taken. -/
theorem built_namedApart (hs : s.Built) :
    s.NamedApart ∧ ∀ taken name start, IsFirstFree taken name start (freeNumber taken name start) :=
  ⟨hs.eq_ofUnique ▸ namedApart_ofUnique s.languages, isFirstFree_freeNumber⟩

theorem built_namedApart_select :
    ((ofUnique sampleLanguages).select [2, 0, 2, 9]).Built ∧
    ((ofUnique sampleLanguages).select [2, 0, 2, 9]).NamedApart ∧
    ((ofUnique sampleLanguages).select [2, 0, 2, 9]).names =
      ["English A", "English B", "English C"] :=
  ⟨.select _ built_sample, (built_namedApart (.select _ built_sample)).1, by decide +kernel⟩

/-! ## Aliases and display names -/

/-- Several positions of the set have the display name. -/
def Shares (s : LanguageSet) (name : String) : Prop :=
  ∃ (i j : Nat) (l l' : Language), i < j ∧ s.languages[i]? = some l ∧ s.languages[j]? = some l' ∧
    l.name = name ∧ l'.name = name

theorem eq_of_not_shares {j : Nat} {l' : Language} (h : ¬s.Shares name)
    (hl : s.languages[i]? = some l) (hname : l.name = name) (hl' : s.languages[j]? = some l')
    (hname' : l'.name = name) : j = i := by
  rcases Nat.lt_trichotomy i j with hij | hij | hij
  · exact absurd ⟨i, j, l, l', hij, hl, hl', hname, hname'⟩ h
  · exact hij.symm
  · exact absurd ⟨j, i, l', l, hij, hl', hl, hname', hname⟩ h

theorem NamedApart.names_of_not_shares (hs : s.NamedApart) (h : ¬s.Shares name)
    (hl : s.languages[i]? = some l) (hname : l.name = name) : s.names[i]? = some name := by
  subst hname
  exact hs.unshared i l hl fun j l' hl' hname' => eq_of_not_shares h hl rfl hl' hname'

theorem NamedApart.label_of_shares (hs : s.NamedApart) (hl : s.languages[i]? = some l)
    (h : s.Shares l.name) : ∃ n, s.names[i]? = some (label l.name n) := by
  obtain ⟨j, k, l₁, l₂, hjk, hl₁, hl₂, hname₁, hname₂⟩ := h
  rcases Nat.lt_or_ge i k with hik | hki
  · obtain ⟨m, n, -, hm, -⟩ := hs.shared i k l l₂ hik hl hl₂ hname₂.symm
    exact ⟨m, hm⟩
  · obtain ⟨m, n, -, -, hn⟩ := hs.shared j i l₁ l (Nat.lt_of_lt_of_le hjk hki) hl₁ hl hname₁
    exact ⟨n, hname₁ ▸ hn⟩

/-- A name that leads to a language is its display name, or nobody's display name, or else an alias
of its shared display name that is itself a display name which several languages share. -/
theorem get?_eq_some_cases (hs : s.Built) (h : s.get? name = some l) :
    l.name = name ∨ (∀ other ∈ s.languages, other.name ≠ name) ∨
      s.Shares name ∧ s.Shares l.name ∧ ∃ n, name = label l.name n := by
  have hnames : s.NamedApart := hs.eq_ofUnique ▸ namedApart_ofUnique s.languages
  obtain ⟨i, hi, hl⟩ : ∃ i, s.names[i]? = some name ∧ s.languages[i]? = some l := by
    rw [hs.eq_ofUnique] at h ⊢
    obtain ⟨i, hmem, hl⟩ := exists_mem_index_of_get? h
    exact ⟨i, getElem?_names.2 hmem, hl⟩
  by_cases hshared : s.Shares l.name
  · obtain ⟨n, hn⟩ := hnames.label_of_shares hl hshared
    have hlabel : name = label l.name n := Option.some.inj (hi.symm.trans hn)
    by_cases hname : s.Shares name
    · exact .inr (.inr ⟨hname, hshared, n, hlabel⟩)
    -- a single language with this display name would be found under it
    · by_cases hsame : ∃ other ∈ s.languages, other.name = name
      · obtain ⟨other, hother, hsame⟩ := hsame
        obtain ⟨j, hj⟩ := List.mem_iff_getElem?.1 hother
        have hfound := hnames.get?_name j name (hnames.names_of_not_shares hname hj hsame)
        rw [h, hj] at hfound
        exact .inl (Option.some.inj hfound ▸ hsame)
      · exact .inr (.inl fun other hother hname => hsame ⟨other, hother, hname⟩)
  · have hown := hnames.names_of_not_shares hshared hl rfl
    exact .inl (Option.some.inj (hown.symm.trans hi))

/-- Two display names that are shared, of which one is a label of the other. -/
def namesakes : List Language :=
  [.sample ⟨"X", "Ada", "a1"⟩ [] rfl, .sample ⟨"X", "Ada", "a2"⟩ [] rfl,
    .sample ⟨"X A", "Ada", "a3"⟩ [] rfl, .sample ⟨"X A", "Ada", "a4"⟩ [] rfl]

theorem ofList_namesakes : ofList namesakes = .ok (ofUnique namesakes) := rfl

theorem get?_namesakes : ∃ l, (ofUnique namesakes).get? "X A" = some l ∧ l.name ≠ "X A" ∧
    ∃ other ∈ (ofUnique namesakes).languages, other.name = "X A" := by
  have h : ((ofUnique namesakes).get? "X A").map Language.name = some "X" := by decide +kernel
  obtain ⟨l, hl, hname⟩ := Option.map_eq_some_iff.1 h
  have hother : .sample ⟨"X A", "Ada", "a3"⟩ [] rfl ∈ (ofUnique namesakes).languages := by
    simp [ofUnique, namesakes]
  exact ⟨l, hl, by simp [hname], _, hother, rfl⟩

theorem get?_eq_some_cases_namesakes :
    (ofUnique namesakes).Built ∧ (ofUnique namesakes).Shares "X A" ∧
      ∃ (l : Language) (n : Nat), (ofUnique namesakes).Shares l.name ∧ "X A" = label l.name n := by
  have hs : (ofUnique namesakes).Built := .ofList ofList_namesakes
  obtain ⟨l, hl, hname, other, hother, hsame⟩ := get?_namesakes
  rcases get?_eq_some_cases hs hl with h | h | ⟨hshared, hshared', n, hn⟩
  · exact absurd h hname
  · exact absurd hsame (h other hother)
  · exact ⟨hs, hshared, l, n, hshared', hn⟩

/-- An alias can hide the languages that share it as their display name. -/
theorem exists_hidden_display_name :
    ¬∀ (languages : List Language) (s : LanguageSet) (name : String) (l : Language),
      ofList languages = .ok s → s.get? name = some l →
        l.name = name ∨ ∀ other ∈ s.languages, other.name ≠ name := by
  intro hall
  obtain ⟨l, hl, hname, other, hother, hsame⟩ := get?_namesakes
  rcases hall namesakes _ "X A" l ofList_namesakes hl with h | h
  · exact hname h
  · exact h other hother hsame

end Typology.LanguageSet
