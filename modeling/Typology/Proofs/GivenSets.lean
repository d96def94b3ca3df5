import Typology.Proofs.Availability
import Typology.Proofs.BuiltSet

/-!
# Catalogs of given sets

A catalog of sets that are given under names keeps all of them, but a name stands for the first set
under it. So the sets that it lists are those that it serves exactly if no name is given to two
different sets.
-/

namespace Typology

theorem LanguageSet.same_iff {a b : LanguageSet} :
    a.same b = true ↔ a.languages.map Language.identity = b.languages.map Language.identity :=
  beq_iff_eq

namespace Catalog

/-- A catalog serves the sets that it lists: the last one is the latest set, and each is found under
its name and can be made the latest set. -/
structure ServesListed (c : Catalog) : Prop where
  latest : ∀ last, c.loaded.getLast? = some last →
    ∃ s, c.latestSet = .ok s ∧ s.same last.languages = true
  get : ∀ d ∈ c.loaded, ∃ s, c.get d.name = .ok s ∧ s.same d.languages = true
  withLatest : ∀ d ∈ c.loaded, ∃ c' s, c.withLatest d.name = .ok c' ∧ c'.latestSet = .ok s ∧
    s.same d.languages = true

/-- No name stands before two different sets. -/
def OneSetPerName (datasets : List Dataset) : Prop :=
  ∀ d ∈ datasets, ∀ e ∈ datasets, d.name = e.name → d.languages.same e.languages = true

/-- No dataset before it has the name of `d`. -/
def FirstOfName (datasets : List Dataset) (d : Dataset) : Prop :=
  ∃ before after, datasets = before ++ d :: after ∧ ∀ e ∈ before, e.name ≠ d.name

variable {c : Catalog} {datasets : List Dataset} {d : Dataset} {name : String} {s : LanguageSet}

/-! ## What a name stands for -/

theorem FirstOfName.mem (h : FirstOfName datasets d) : d ∈ datasets := by
  obtain ⟨before, after, rfl, -⟩ := h
  exact List.mem_append_right before List.mem_cons_self

theorem find?_name_eq_some_iff :
    datasets.find? (·.name == name) = some d ↔ d.name = name ∧ FirstOfName datasets d := by
  rw [List.find?_eq_some_iff_append, beq_iff_eq, FirstOfName]
  refine and_congr_right ?_
  rintro rfl
  simp

theorem exists_firstOfName (h : d ∈ datasets) :
    ∃ first, FirstOfName datasets first ∧ first.name = d.name := by
  have hsome : (datasets.find? (·.name == d.name)).isSome := by
    rw [List.find?_isSome]
    exact ⟨d, h, beq_self_eq_true _⟩
  obtain ⟨first, hfirst⟩ := Option.isSome_iff_exists.1 hsome
  obtain ⟨hname, hfirst⟩ := find?_name_eq_some_iff.1 hfirst
  exact ⟨first, hfirst, hname⟩

theorem get_of_firstOfName (h : FirstOfName c.loaded d) : c.get d.name = .ok d.languages := by
  rw [get, find?_name_eq_some_iff.2 ⟨rfl, h⟩]

theorem exists_get_of_mem_names (h : name ∈ c.names) : ∃ s, c.get name = .ok s := by
  obtain ⟨d, hd, rfl⟩ := List.mem_map.1 h
  obtain ⟨first, hfirst, hname⟩ := exists_firstOfName hd
  exact ⟨first.languages, hname ▸ get_of_firstOfName hfirst⟩

theorem withLatest_of_get (h : c.get name = .ok s) :
    c.withLatest name = .ok { c with latest := name } := by
  rw [withLatest, h]
  rfl

/-! ## Serving the sets that are listed -/

theorem OneSetPerName.exists_get (h : OneSetPerName c.loaded) (hd : d ∈ c.loaded) :
    ∃ s, c.get d.name = .ok s ∧ s.same d.languages = true := by
  obtain ⟨first, hfirst, hname⟩ := exists_firstOfName hd
  rw [← hname]
  exact ⟨first.languages, get_of_firstOfName hfirst, h first hfirst.mem d hd hname⟩

theorem servesListed_iff (hlatest : ∀ last, c.loaded.getLast? = some last → c.latest = last.name) :
    c.ServesListed ↔ OneSetPerName c.loaded := by
  constructor
  · intro h d hd e he hname
    -- one look-up answers for both of them
    obtain ⟨s, hs, hsame⟩ := h.get d hd
    obtain ⟨s', hs', hsame'⟩ := h.get e he
    rw [hname, hs'] at hs
    cases hs
    rw [LanguageSet.same_iff] at hsame hsame' ⊢
    exact hsame.symm.trans hsame'
  · intro h
    constructor
    · intro last hlast
      rw [latestSet, hlatest last hlast]
      exact h.exists_get (List.mem_of_getLast? hlast)
    · intro d hd
      exact h.exists_get hd
    · intro d hd
      obtain ⟨s, hs, hsame⟩ := h.exists_get hd
      exact ⟨_, s, withLatest_of_get hs, hs, hsame⟩

/-- Given sets make a catalog that lists them, unless there are none. The name of the last one is
the latest, and a name stands for the first set under it; so the catalog serves what it lists if
and only if no name is given to two different sets. -/
theorem ofDatasets_serves (h : datasets ≠ []) :
    ∃ c, ofDatasets datasets = .ok c ∧ c.loaded = datasets ∧
      (∀ last, datasets.getLast? = some last → c.latest = last.name) ∧
      (∀ d, FirstOfName datasets d → c.get d.name = .ok d.languages) ∧
      (c.ServesListed ↔ OneSetPerName datasets) := by
  obtain ⟨latest, hlast⟩ : ∃ latest, datasets.getLast? = some latest :=
    ⟨_, List.getLast?_eq_some_getLast h⟩
  have hlatest : ∀ last, datasets.getLast? = some last → latest.name = last.name := by
    intro last hl
    rw [Option.some.inj (hlast.symm.trans hl)]
  refine ⟨⟨datasets.map Dataset.name, datasets, latest.name⟩, ?_, rfl, hlatest, ?_, ?_⟩
  · rw [ofDatasets, hlast]
  · intro d hd
    exact get_of_firstOfName hd
  · exact servesListed_iff hlatest

/-- The set of one language, of which only its identity is recorded. -/
def onlyX : LanguageSet := .ofUnique [.sample ⟨"X", "Ben", "b1"⟩ [] rfl]

/-- The set of another language, of which only its identity is recorded. -/
def onlyY : LanguageSet := .ofUnique [.sample ⟨"Y", "Ben", "b2"⟩ [] rfl]

/-- Three sets, of which the last is the first one again. -/
def renewed : List Dataset :=
  [⟨"F21", onlyX⟩, ⟨"F22", onlyY⟩, ⟨"F21", onlyX⟩]

theorem ofDatasets_serves_renewed :
    renewed ≠ [] ∧ ∃ c, ofDatasets renewed = .ok c ∧ c.latest = "F21" ∧
      c.get "F22" = .ok onlyY ∧ OneSetPerName renewed ∧ c.ServesListed := by
  have hne : renewed ≠ [] := List.cons_ne_nil _ _
  have hsecond : FirstOfName renewed ⟨"F22", onlyY⟩ :=
    ⟨[⟨"F21", onlyX⟩], [⟨"F21", onlyX⟩], rfl, by simp⟩
  have hone : OneSetPerName renewed := by
    simp [OneSetPerName, renewed, LanguageSet.same_iff]
  obtain ⟨c, hc, -, hlatest, hget, hserves⟩ := ofDatasets_serves hne
  exact ⟨hne, c, hc, hlatest _ rfl, hget _ hsecond, hone, hserves.2 hone⟩

/-- Of two different sets under one name only the first is served, although the last one is to be
the latest. -/
theorem ofDatasets_namesakes :
    ∃ c, ofDatasets [⟨"A", onlyX⟩, ⟨"A", onlyY⟩] = .ok c ∧
      c.loaded.getLast? = some ⟨"A", onlyY⟩ ∧ c.latestSet = .ok onlyX ∧
      onlyX.same onlyY = false ∧ ¬c.ServesListed := by
  have hdiffer : onlyX.same onlyY = false := by decide
  refine ⟨_, rfl, rfl, rfl, hdiffer, fun h => ?_⟩
  obtain ⟨s, hs, hsame⟩ := h.latest _ rfl
  cases hs
  exact Bool.false_ne_true (hdiffer.symm.trans hsame)

end Catalog

end Typology
