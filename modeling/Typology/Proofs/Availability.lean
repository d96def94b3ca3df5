import Typology.Request
import Typology.Config.Load
import Typology.Proofs.Building

/-!
# What a catalog guarantees

The catalog of an accepted configuration has its latest dataset, and keeps having one. Therefore a
request fails for want of a dataset only where it names that dataset itself.
-/

namespace Typology

variable {declared : List String} {open_ : String → Except LoadError LanguageSet}
variable {name : String} {languages : LanguageSet} {error : RequestError}

/-! ## The latest dataset of a configuration -/

theorem Config.exists_latest {config : Config} (hvalid : config.validate = .ok ()) :
    ∃ latest ∈ config.datasets, config.latestDataset? = some latest := by
  have hfault : config.fault? = none := by
    unfold validate at hvalid
    split at hvalid
    · cases hvalid
    · assumption
  unfold fault? at hfault
  split_ifs at hfault with _ _ hdatasets
  cases hlatest : config.latest with
  | some latest =>
      simp only [hlatest] at hfault
      split_ifs at hfault with hmem
      exact ⟨latest, hmem, by simp [latestDataset?, hlatest]⟩
  | none =>
      refine ⟨config.datasets.getLast hdatasets, List.getLast_mem hdatasets, ?_⟩
      simp [latestDataset?, hlatest, List.getLast?_eq_some_getLast hdatasets]

namespace Catalog

/-! ## Opening datasets -/

theorem map_name_openAll (open_ : String → Except LoadError LanguageSet) (declared : List String) :
    (openAll open_ declared).map Dataset.name =
      declared.filter fun name => (open_ name).toBool := by
  induction declared with
  | nil => rfl
  | cons name rest ih =>
      unfold openAll
      cases hopen : open_ name with
      | ok languages => simp [hopen, ih, Except.toBool]
      | error cause => simp [hopen, ih, Except.toBool]

theorem mem_openAll {d : Dataset} :
    d ∈ openAll open_ declared ↔ d.name ∈ declared ∧ open_ d.name = .ok d.languages := by
  induction declared with
  | nil => simp [openAll]
  | cons name rest ih =>
      unfold openAll
      cases hopen : open_ name with
      | ok languages =>
          rw [List.mem_cons, ih, List.mem_cons]
          constructor
          · rintro (rfl | ⟨hmem, hd⟩)
            · exact ⟨.inl rfl, hopen⟩
            · exact ⟨.inr hmem, hd⟩
          · rintro ⟨rfl | hmem, hd⟩
            · rw [hopen] at hd
              cases hd
              exact .inl rfl
            · exact .inr ⟨hmem, hd⟩
      | error cause =>
          rw [ih, List.mem_cons]
          constructor
          · exact fun ⟨hmem, hd⟩ => ⟨.inr hmem, hd⟩
          · rintro ⟨rfl | hmem, hd⟩
            · rw [hopen] at hd
              cases hd
            · exact ⟨hmem, hd⟩

theorem find?_openAll_eq_some (hname : name ∈ declared) (hok : open_ name = .ok languages) :
    (openAll open_ declared).find? (·.name == name) = some ⟨name, languages⟩ := by
  have hfind : ((openAll open_ declared).find? (·.name == name)).isSome := by
    rw [List.find?_isSome]
    exact ⟨⟨name, languages⟩, mem_openAll.2 ⟨hname, hok⟩, by simp⟩
  obtain ⟨⟨name', languages'⟩, hd⟩ := Option.isSome_iff_exists.1 hfind
  obtain rfl : name' = name := by simpa using List.find?_some hd
  have hopen := (mem_openAll.1 (List.mem_of_find?_eq_some hd)).2
  rw [hok] at hopen
  cases hopen
  exact hd

theorem find?_openAll_eq_none (h : ∀ languages, name ∈ declared → open_ name ≠ .ok languages) :
    (openAll open_ declared).find? (·.name == name) = none := by
  rw [List.find?_eq_none]
  intro d hd hname
  rw [beq_iff_eq] at hname
  subst hname
  obtain ⟨hmem, hopen⟩ := mem_openAll.1 hd
  exact h d.languages hmem hopen

/-! ## Looking up datasets -/

/-- A catalog of the declared datasets that can be opened, the latest one among them. -/
structure Serves (c : Catalog) (declared : List String)
    (open_ : String → Except LoadError LanguageSet) : Prop where
  names_eq : c.names = declared.filter fun name => (open_ name).toBool
  get_opened : ∀ {name languages}, name ∈ declared → open_ name = .ok languages →
    c.get name = .ok languages
  get_failed : ∀ {name cause}, name ∈ declared → open_ name = .error cause →
    c.get name = .error (.failedDataset name)
  get_undeclared : ∀ {name}, name ∉ declared → c.get name = .error (.noSuchDataset name)
  latestSet_ok : ∃ languages, c.latestSet = .ok languages

/-- The catalogs that come of one by making datasets the latest. -/
inductive Turns (c : Catalog) : Catalog → Prop where
  | refl : Turns c c
  | turn {c' c'' name} : Turns c c' → c'.withLatest name = .ok c'' → Turns c c''

variable {c c' : Catalog}

theorem get_eq_error (h : c.get name = .error error) :
    error = .failedDataset name ∨ error = .noSuchDataset name := by
  unfold get at h
  split at h
  · cases h
  · split at h
    · cases h
      exact .inl rfl
    · cases h
      exact .inr rfl

theorem withLatest_eq_ok (h : c.withLatest name = .ok c') :
    (∃ languages, c.get name = .ok languages) ∧ c' = { c with latest := name } := by
  unfold withLatest at h
  cases hget : c.get name with
  | error error =>
      rw [hget] at h
      cases h
  | ok languages =>
      rw [hget] at h
      cases h
      exact ⟨⟨languages, rfl⟩, rfl⟩

theorem serves_openAll {latest : String} (hmem : latest ∈ declared)
    (hopen : open_ latest = .ok languages) :
    Serves ⟨declared, openAll open_ declared, latest⟩ declared open_ := by
  have hopened : ∀ {name languages}, name ∈ declared → open_ name = .ok languages →
      get ⟨declared, openAll open_ declared, latest⟩ name = .ok languages := by
    intro name languages hname hok
    simp [get, find?_openAll_eq_some hname hok]
  constructor
  · exact map_name_openAll open_ declared
  · exact hopened
  · intro name cause hname hfail
    have hfind : (openAll open_ declared).find? (·.name == name) = none :=
      find?_openAll_eq_none (by simp [hfail])
    simp [get, hfind, hname]
  · intro name hname
    simp [get, find?_openAll_eq_none fun _ h => absurd h hname, hname]
  · exact ⟨languages, hopened hmem hopen⟩

theorem Serves.withLatest (hc : c.Serves declared open_) (h : c.withLatest name = .ok c') :
    c'.Serves declared open_ := by
  obtain ⟨hget, rfl⟩ := withLatest_eq_ok h
  exact ⟨hc.names_eq, hc.get_opened, hc.get_failed, hc.get_undeclared, hget⟩

theorem Serves.turns (hc : c.Serves declared open_) (h : c.Turns c') :
    c'.Serves declared open_ := by
  induction h with
  | refl => exact hc
  | turn _ hlatest ih => exact ih.withLatest hlatest

end Catalog

/-! ## Whose fault an error is -/

variable {h : Handler} {r : Registry} {tokens query : List Token}

theorem Registry.buildQuery_error (hfail : r.buildQuery tokens = .error error) :
    error.status = .badRequest := by
  obtain ⟨_, token, _, -, -, hrefuses⟩ := stepsOf_eq_error_iff.1 (buildQuery_eq_error_iff.1 hfail)
  cases hrefuses <;> rfl

namespace Handler

/-- A query fails by its dataset, by its tokens or in its evaluation. -/
theorem answer_error (hfail : h.answer query = .error error) :
    h.catalog.get (h.datasetOf query) = .error error ∨ error.status = .badRequest ∨
      ∃ cause, error = .query cause := by
  unfold answer at hfail
  obtain hprepare | ⟨⟨languages, q⟩, -, hanswer⟩ := bind_eq_error hfail
  · obtain hget | ⟨languages, -, hbuild⟩ := bind_eq_error hprepare
    · exact .inl hget
    · obtain hbuild | ⟨q, -, hlast⟩ := bind_eq_error hbuild
      · exact .inr (.inl (Registry.buildQuery_error hbuild))
      · cases hlast
  · obtain heval | ⟨e, -, hlast⟩ := bind_eq_error hanswer
    · cases hq : q.evaluate languages with
      | error cause =>
          rw [hq] at heval
          cases heval
          exact .inr (.inr ⟨cause, rfl⟩)
      | ok e =>
          rw [hq] at heval
          cases heval
    · cases hlast

theorem answerAll_error {queries : List (List Token)} (hfail : h.answerAll queries = .error error) :
    ∃ query ∈ queries, h.answer query = .error error := by
  induction queries with
  | nil => cases hfail
  | cons query rest ih =>
      rw [answerAll] at hfail
      obtain hquery | ⟨first, -, hothers⟩ := bind_eq_error hfail
      · exact ⟨query, List.mem_cons_self, hquery⟩
      · obtain hrest | ⟨others, -, hlast⟩ := bind_eq_error hothers
        · obtain ⟨other, hmem, hother⟩ := ih hrest
          exact ⟨other, List.mem_cons_of_mem _ hmem, hother⟩
        · cases hlast

theorem mem_queries (hmem : query ∈ h.queries tokens) :
    query ∈ Token.splitQueries tokens ∨ query = [⟨Token.datasetKey, h.catalog.latest⟩] := by
  unfold queries at hmem
  split at hmem
  · exact .inr (List.mem_singleton.1 hmem)
  · exact .inl hmem

/-- A query is put to the dataset that it begins with, or to the latest one. -/
theorem datasetOf_cases (h : Handler) (query : List Token) :
    (∃ rest, query = ⟨Token.datasetKey, h.datasetOf query⟩ :: rest) ∨
      h.datasetOf query = h.catalog.latest := by
  cases query with
  | nil => exact .inr rfl
  | cons token rest =>
      by_cases hkey : token.key = Token.datasetKey
      · left
        exact ⟨rest, by simp [datasetOf, Token.dataset?, ← hkey]⟩
      · right
        simp [datasetOf, Token.dataset?, hkey]

end Handler

/-- How an error of a request to declared datasets is accounted for: an internal one by a dataset
that the request names and that cannot be opened, one for lack of data by a quorum. -/
structure RequestError.Explained (declared : List String)
    (open_ : String → Except LoadError LanguageSet) (tokens : List Token) (error : RequestError) :
    Prop where
  internal : error.status = .internalError → ∃ name rest,
    ⟨Token.datasetKey, name⟩ :: rest ∈ Token.splitQueries tokens ∧ name ∈ declared ∧
      ∃ cause, open_ name = .error cause
  insufficient : error.status = .insufficientData → ∃ shortfall, error = .query (.quorum shortfall)

/-- A handler of such a catalog fails for a dataset only if the request names it. -/
theorem Catalog.Serves.explained (hc : h.catalog.Serves declared open_)
    (hfail : h.handle tokens = .error error) : error.Explained declared open_ tokens := by
  obtain ⟨query, hmem, hquery⟩ := Handler.answerAll_error hfail
  obtain hget | hbad | ⟨cause, rfl⟩ := Handler.answer_error hquery
  · constructor
    · intro hstatus
      have hnamed : h.datasetOf query ≠ h.catalog.latest := by
        intro heq
        obtain ⟨languages, hlatest⟩ := hc.latestSet_ok
        rw [heq] at hget
        cases hget.symm.trans hlatest
      obtain ⟨rest, hquery⟩ := (h.datasetOf_cases query).resolve_right hnamed
      have hsplit : query ∈ Token.splitQueries tokens := by
        refine (Handler.mem_queries hmem).resolve_right ?_
        rintro rfl
        exact hnamed rfl
      have hdeclared : h.datasetOf query ∈ declared := by
        by_contra hdeclared
        rw [hc.get_undeclared hdeclared] at hget
        cases hget
        cases hstatus
      refine ⟨h.datasetOf query, rest, hquery ▸ hsplit, hdeclared, ?_⟩
      cases hopen : open_ (h.datasetOf query) with
      | error cause => exact ⟨cause, rfl⟩
      | ok languages => cases hget.symm.trans (hc.get_opened hdeclared hopen)
    · intro hstatus
      obtain rfl | rfl := Catalog.get_eq_error hget <;> cases hstatus
  · constructor <;> simp [hbad]
  · constructor <;> cases cause <;> simp [RequestError.status, QueryError.isQuorum]

/-- What becomes of the catalog of a configuration. -/
inductive Catalog.LoadsTo (config : Config) (open_ : String → Except LoadError LanguageSet) :
    Except RequestError Catalog → Prop where
  /-- Without its latest dataset there is no catalog. -/
  | latestFailed {latest cause} : config.latestDataset? = some latest →
      open_ latest = .error cause → LoadsTo config open_ (.error (.failedDataset latest))
  /-- With it there is one. Whichever dataset is made the latest, requests are served by it. -/
  | serving {c : Catalog} : config.latestDataset? = some c.latest →
      (∀ c' : Catalog, c.Turns c' → c'.Serves config.datasets open_ ∧
        ∀ h : Handler, h.catalog = c' → ∀ tokens error, h.handle tokens = .error error →
          error.Explained config.datasets open_ tokens) → LoadsTo config open_ (.ok c)

namespace Catalog

variable {config : Config} {latest : String}

theorem ofConfig_of_error {cause : LoadError} (hlatest : config.latestDataset? = some latest)
    (hmem : latest ∈ config.datasets) (hopen : open_ latest = .error cause) :
    ofConfig config open_ = .error (.failedDataset latest) := by
  have hfind : (openAll open_ config.datasets).find? (·.name == latest) = none :=
    find?_openAll_eq_none (by simp [hopen])
  simp [ofConfig, hlatest, latestSet, get, hfind, hmem, Except.map]

theorem ofConfig_of_ok (hlatest : config.latestDataset? = some latest)
    (hmem : latest ∈ config.datasets) (hopen : open_ latest = .ok languages) :
    ofConfig config open_ = .ok ⟨config.datasets, openAll open_ config.datasets, latest⟩ := by
  simp [ofConfig, hlatest, latestSet, get, find?_openAll_eq_some hmem hopen, Except.map]

/-- Whatever can be opened, an accepted configuration has a catalog unless its latest dataset
cannot be opened. The catalog serves the others, and its requests fail as errors are explained. -/
theorem loadsTo_load (hvalid : config.validate = .ok ()) :
    (∀ open_, LoadsTo config open_ (ofConfig config open_)) ∧
      ∀ storage, LoadsTo config (opener config storage) (load config storage) := by
  have hall : ∀ open_, LoadsTo config open_ (ofConfig config open_) := by
    intro open_
    obtain ⟨latest, hmem, hlatest⟩ := Config.exists_latest hvalid
    cases hopen : open_ latest with
    | error cause =>
        rw [ofConfig_of_error hlatest hmem hopen]
        exact .latestFailed hlatest hopen
    | ok languages =>
        rw [ofConfig_of_ok hlatest hmem hopen]
        refine .serving hlatest ?_
        intro c' hturns
        have hserves := (serves_openAll hmem hopen).turns hturns
        refine ⟨hserves, ?_⟩
        rintro h rfl tokens error hfail
        exact hserves.explained hfail
  exact ⟨hall, fun storage => hall (opener config storage)⟩

end Catalog

/-- A configuration of two datasets, of which the first is the latest. -/
def Config.twoDatasets : Config := (Config.standard.withDatasets ["F21", "F22"]).withLatest "F21"

/-- A storage with one language in the file of the first dataset, where that of the second is cut
off. -/
def Storage.cutOff : Storage :=
  .ofList [("data/datasets/F21/F21.json",
      .ok "[\x7b\"name\":\"X\",\"student\":\"Ada\",\"netid\":\"a1\"\x7d]"),
    ("data/datasets/F22/F22.json", .ok "[\x7b\"name\":\"X\",")]

set_option maxRecDepth 100000 in
theorem Catalog.loadsTo_load_cutOff :
    (Config.twoDatasets.validate = .ok () ∧
      LoadsTo .twoDatasets (opener .twoDatasets .cutOff) (load .twoDatasets .cutOff) ∧
      ∃ c, load .twoDatasets .cutOff = .ok c ∧ c.names = ["F21"] ∧
        c.latestSet.map LanguageSet.names = .ok ["X"]) ∧
    ((Config.twoDatasets.withLatest "F22").validate = .ok () ∧
      LoadsTo (Config.twoDatasets.withLatest "F22")
        (opener (Config.twoDatasets.withLatest "F22") .cutOff)
        (load (Config.twoDatasets.withLatest "F22") .cutOff) ∧
      load (Config.twoDatasets.withLatest "F22") .cutOff = .error (.failedDataset "F22")) := by
  have hfirst : Config.twoDatasets.validate = .ok () := by rfl
  have hsecond : (Config.twoDatasets.withLatest "F22").validate = .ok () := by rfl
  exact ⟨⟨hfirst, (loadsTo_load hfirst).2 .cutOff, _, rfl, rfl, rfl⟩, hsecond,
    (loadsTo_load hsecond).2 .cutOff, rfl⟩

end Typology
