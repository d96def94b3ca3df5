import Typology.Proofs.GivenSets
import Typology.Proofs.QueryLayout

/-!
# Naming a dataset

A query that begins by naming a dataset is answered as the rest of it would be if that dataset were
the latest. Only what is said of positions of tokens differs: all others stand one place later.
-/

namespace Typology

/-- The same error with its token one place later. -/
def RequestError.later : RequestError → RequestError
  | unknownToken position token => unknownToken (position + 1) token
  | invalidValue position token source => invalidValue (position + 1) token source
  | error => error

/-! ## Reading tokens one place later -/

namespace Registry

variable {r : Registry} {position : Nat} {token : Token} {tokens query : List Token} {name : String}

theorem stepOf_succ (h : ¬r.NamesDataset position token) :
    r.stepOf (position + 1) token = (r.stepOf position token).mapError RequestError.later := by
  rw [NamesDataset, contains_eq_false_iff] at h
  unfold stepOf
  split
  · rfl
  · split <;> rfl
  · rename_i hget
    have hfirst : ¬(position = 0 ∧ token.key = Token.datasetKey) :=
      fun hfirst => h ⟨hfirst.1, hfirst.2, hget⟩
    rw [if_neg hfirst, if_neg fun hlater => Nat.succ_ne_zero position hlater.1]
    rfl

theorem stepsOf_succ (h : ∀ token ∈ tokens.head?, ¬r.NamesDataset position token) :
    r.stepsOf (position + 1) tokens = (r.stepsOf position tokens).mapError RequestError.later := by
  induction tokens generalizing position with
  | nil => rfl
  | cons token rest ih =>
      rw [stepsOf, stepsOf, stepOf_succ (h token rfl), ih fun _ _ => not_namesDataset_succ]
      cases r.stepOf position token with
      | error error => rfl
      | ok first => cases r.stepsOf (position + 1) rest <;> rfl

theorem stepsOf_named (hdataset : r.contains Token.datasetKey = false) :
    r.stepsOf 0 (⟨Token.datasetKey, name⟩ :: tokens) = r.stepsOf 1 tokens := by
  have hfirst : r.stepOf 0 ⟨Token.datasetKey, name⟩ = .ok none :=
    stepOf_eq_none_iff.2 ⟨rfl, rfl, hdataset⟩
  rw [stepsOf, hfirst]
  cases r.stepsOf 1 tokens <;> rfl

theorem buildQuery_named (name : String) (hdataset : r.contains Token.datasetKey = false)
    (hquery : Token.dataset? query = none) :
    r.buildQuery (⟨Token.datasetKey, name⟩ :: query) =
      (r.buildQuery query).mapError RequestError.later := by
  have hfirst : ∀ token ∈ query.head?, ¬r.NamesDataset 0 token := by
    intro token htoken hname
    cases query with
    | nil => cases htoken
    | cons first rest =>
        cases htoken
        rw [Token.dataset?, if_pos hname.2.1] at hquery
        cases hquery
  rw [buildQuery, buildQuery, stepsOf_named hdataset, stepsOf_succ hfirst]
  cases r.stepsOf 0 query <;> rfl

end Registry

/-! ## Answering a query that names its dataset -/

namespace Handler

variable {h : Handler} {query : List Token} {name : String} {s : LanguageSet}

/-- A query that names its dataset and the query without that name have the same outcome: rows and
missing data of this dataset, or an error that is told of a token one place later. -/
inductive SameOutcome (name : String) (query : List Token) :
    Except RequestError (List Response) → Except RequestError (List Response) → Prop where
  | answered (rows : List Row) (noData : List MissingDatum) :
      SameOutcome name query (.ok [⟨name, ⟨Token.datasetKey, name⟩ :: query, rows, noData⟩])
        (.ok [⟨name, query, rows, noData⟩])
  | failed (error : RequestError) : SameOutcome name query (.error error.later) (.error error)

theorem SameOutcome.eq_ok {outcome : Except RequestError (List Response)} {rows : List Row}
    {noData : List MissingDatum}
    (h : SameOutcome name query outcome (.ok [⟨name, query, rows, noData⟩])) :
    outcome = .ok [⟨name, ⟨Token.datasetKey, name⟩ :: query, rows, noData⟩] := by
  cases h
  rfl

theorem SameOutcome.eq_error {outcome : Except RequestError (List Response)} {error : RequestError}
    (h : SameOutcome name query outcome (.error error)) : outcome = .error error.later := by
  cases h
  rfl

theorem answer_of_refused {error : RequestError} (hget : h.catalog.get (h.datasetOf query) = .ok s)
    (hbuild : h.registry.buildQuery query = .error error) : h.answer query = .error error := by
  rw [answer, prepare, hget, hbuild]
  rfl

theorem prepare_of_built {q : Query} (hget : h.catalog.get (h.datasetOf query) = .ok s)
    (hbuild : h.registry.buildQuery query = .ok q) :
    h.prepare query = .ok (s, q.withQuorum h.quorum) := by
  rw [prepare, hget, hbuild]
  rfl

theorem answer_of_failed {q : Query} {cause : QueryError} (hprepare : h.prepare query = .ok (s, q))
    (heval : q.evaluate s = .error cause) : h.answer query = .error (.query cause) := by
  rw [answer, hprepare]
  show (q.evaluate s).mapError RequestError.query >>= _ = _
  rw [heval]
  rfl

theorem answer_of_evaluated {q : Query} {e : Evaluation} (hprepare : h.prepare query = .ok (s, q))
    (heval : q.evaluate s = .ok e) :
    h.answer query = .ok ⟨h.datasetOf query, query, e.rows, e.noData⟩ := by
  rw [answer, hprepare]
  show (q.evaluate s).mapError RequestError.query >>= _ = _
  rw [heval]
  rfl

theorem handle_of_isQuery (hquery : Token.IsQuery query) :
    h.handle query = (h.answer query).map ([·]) := by
  obtain ⟨token, hmem⟩ := List.exists_mem_of_ne_nil query hquery.1
  rw [handle, queries_of_asks ⟨token, hmem, hquery.2 token hmem⟩, hquery.splitQueries_eq,
    answerAll_cons]
  cases h.answer query <;> rfl

/-- To name a dataset that is there at the beginning of a query is to make it the latest one. -/
theorem handle_named (hdataset : h.registry.contains Token.datasetKey = false)
    (hquery : Token.IsQuery query) (hunnamed : Token.dataset? query = none)
    (hname : name ∈ h.catalog.names) :
    ∃ c, h.catalog.withLatest name = .ok c ∧
      SameOutcome name query (h.handle (⟨Token.datasetKey, name⟩ :: query))
        ({ h with catalog := c }.handle query) := by
  obtain ⟨s, hget⟩ := Catalog.exists_get_of_mem_names hname
  refine ⟨_, Catalog.withLatest_of_get hget, ?_⟩
  let h' : Handler := { h with catalog := { h.catalog with latest := name } }
  have hkey : Token.datasetKey ≠ Token.delimiterKey := by decide
  rw [handle_of_isQuery (hquery.cons hkey), handle_of_isQuery hquery]
  have hlatest : h'.datasetOf query = name := by
    rw [datasetOf, hunnamed]
    rfl
  have hget' : h'.catalog.get (h'.datasetOf query) = .ok s := hlatest ▸ hget
  have hnamed := Registry.buildQuery_named name hdataset hunnamed
  cases hbuild : h.registry.buildQuery query with
  | error error =>
      rw [hbuild] at hnamed
      rw [answer_of_refused hget hnamed, answer_of_refused hget' hbuild]
      exact .failed error
  | ok q =>
      rw [hbuild] at hnamed
      have hprepare := prepare_of_built hget hnamed
      have hprepare' : h'.prepare query = .ok (s, q.withQuorum h.quorum) :=
        prepare_of_built hget' hbuild
      cases heval : (q.withQuorum h.quorum).evaluate s with
      | error cause =>
          rw [answer_of_failed hprepare heval, answer_of_failed hprepare' heval]
          exact .failed (.query cause)
      | ok e =>
          rw [answer_of_evaluated hprepare heval, answer_of_evaluated hprepare' heval, hlatest]
          exact .answered e.rows e.noData

/-- A handler of two datasets. Of the first only one language has a datapoint for tone, and the
second is the latest. -/
def ofSurveys : Handler where
  catalog := ⟨["A", "B"],
    [⟨"A", .ofUnique [.sample ⟨"Yoruba", "Ada", "a1"⟩ [("tone", .single (.bool true))] rfl,
        .sample ⟨"Zulu", "Ada", "a2"⟩ [] rfl]⟩,
      ⟨"B", Catalog.onlyX⟩], "B"⟩
  registry := ofYoruba.registry
  quorum := .half

/-- The same handler with the first dataset as the latest. -/
def ofLatestFirst : Handler :=
  { ofSurveys with catalog := { ofSurveys.catalog with latest := "A" } }

/-- A query for the languages with tone. -/
def askTone : List Token := [⟨"Get", "tone"⟩, ⟨"FilterLanguageSet", ""⟩]

/-- A query that names a dataset where it may not. -/
def askLate : List Token := [⟨"Get", "tone"⟩, ⟨"Dataset", "B"⟩]

theorem handle_named_ofSurveys :
    (ofSurveys.registry.contains Token.datasetKey = false ∧ "A" ∈ ofSurveys.catalog.names ∧
      ofSurveys.catalog.withLatest "A" = .ok ofLatestFirst.catalog) ∧
    (Token.IsQuery askTone ∧ Token.dataset? askTone = none ∧
      ∃ rows, ofLatestFirst.handle askTone = .ok [⟨"A", askTone, rows, [⟨0, "tone", "Zulu"⟩]⟩] ∧
        ofSurveys.handle (⟨Token.datasetKey, "A"⟩ :: askTone) =
          .ok [⟨"A", ⟨Token.datasetKey, "A"⟩ :: askTone, rows, [⟨0, "tone", "Zulu"⟩]⟩]) ∧
    Token.IsQuery askLate ∧ Token.dataset? askLate = none ∧
      ofLatestFirst.handle askLate = .error (.unknownToken 1 ⟨"Dataset", "B"⟩) ∧
      ofSurveys.handle (⟨Token.datasetKey, "A"⟩ :: askLate) =
        .error (.unknownToken 2 ⟨"Dataset", "B"⟩) := by
  have hdataset : ofSurveys.registry.contains Token.datasetKey = false := by rfl
  have hname : "A" ∈ ofSurveys.catalog.names := by decide
  have htone : Token.IsQuery askTone := ⟨by decide, by decide⟩
  have hlate : Token.IsQuery askLate := ⟨by decide, by decide⟩
  -- what comes of the queries without the name is computed, and the rest follows
  obtain ⟨rows, hrows⟩ : ∃ rows, ofLatestFirst.handle askTone =
      .ok [⟨"A", askTone, rows, [⟨0, "tone", "Zulu"⟩]⟩] := ⟨_, rfl⟩
  have hfail : ofLatestFirst.handle askLate = .error (.unknownToken 1 ⟨"Dataset", "B"⟩) := rfl
  have hanswered : SameOutcome "A" askTone (ofSurveys.handle (⟨Token.datasetKey, "A"⟩ :: askTone))
      (ofLatestFirst.handle askTone) := by
    obtain ⟨c, hc, hsame⟩ := handle_named hdataset htone rfl hname
    cases hc
    exact hsame
  have hfailed : SameOutcome "A" askLate (ofSurveys.handle (⟨Token.datasetKey, "A"⟩ :: askLate))
      (ofLatestFirst.handle askLate) := by
    obtain ⟨c, hc, hsame⟩ := handle_named hdataset hlate rfl hname
    cases hc
    exact hsame
  rw [hrows] at hanswered
  rw [hfail] at hfailed
  exact ⟨⟨hdataset, hname, rfl⟩, ⟨htone, rfl, rows, hrows, hanswered.eq_ok⟩, hlate, rfl, hfail,
    hfailed.eq_error⟩

end Handler

end Typology
