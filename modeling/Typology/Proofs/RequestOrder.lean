import Typology.Request
import Typology.Proofs.BuiltSet

/-!
# The order of a request

The queries of a request are answered one after another, each on its own: a request that is put
together from two of them is answered as they are, and fails as the first of them that fails.
-/

namespace Typology

namespace Token

/-- Some token belongs to a query. -/
def Asks (tokens : List Token) : Prop := ∃ token ∈ tokens, token.key ≠ delimiterKey

instance (tokens : List Token) : Decidable (Asks tokens) :=
  inferInstanceAs (Decidable (∃ token ∈ tokens, token.key ≠ delimiterKey))

variable {tokens : List Token}

/-! ## The queries of joined requests -/

/-- There is a first run, even of no tokens. -/
theorem exists_splitRuns (tokens : List Token) : ∃ run runs, splitRuns tokens = run :: runs := by
  cases tokens with
  | nil => exact ⟨[], [], rfl⟩
  | cons token rest =>
      unfold splitRuns
      repeat' split
      all_goals exact ⟨_, _, rfl⟩

theorem splitRuns_cons (token : Token) (rest : List Token) :
    splitRuns (token :: rest) = if token.key = delimiterKey then [] :: splitRuns rest
      else (splitRuns rest).modifyHead (token :: ·) := by
  obtain ⟨run, runs, hrest⟩ := exists_splitRuns rest
  rw [splitRuns, hrest]
  rfl

theorem splitRuns_append (before after : List Token) (value : String) :
    splitRuns (before ++ ⟨delimiterKey, value⟩ :: after) =
      splitRuns before ++ splitRuns after := by
  induction before with
  | nil => simp [splitRuns_cons, splitRuns]
  | cons token before ih =>
      rw [List.cons_append, splitRuns_cons, splitRuns_cons, ih]
      by_cases hkey : token.key = delimiterKey
      · simp [hkey]
      · -- The token joins the first run, which is one of those in front.
        obtain ⟨run, runs, hbefore⟩ := exists_splitRuns before
        rw [if_neg hkey, if_neg hkey, hbefore]
        rfl

theorem splitQueries_append (before after : List Token) (value : String) :
    splitQueries (before ++ ⟨delimiterKey, value⟩ :: after) =
      splitQueries before ++ splitQueries after := by
  simp [splitQueries, splitRuns_append]

theorem splitQueries_eq_nil_iff : splitQueries tokens = [] ↔ ¬Asks tokens := by
  simp only [splitQueries, Asks, List.filter_eq_nil_iff, not_exists, not_and,
    Classical.not_not]
  induction tokens with
  | nil => simp [splitRuns]
  | cons token rest ih =>
      rw [splitRuns_cons, List.forall_mem_cons, ← ih]
      by_cases hkey : token.key = delimiterKey
      · simp [hkey]
      · obtain ⟨run, runs, hrest⟩ := exists_splitRuns rest
        simp [hkey, hrest]

end Token

namespace Handler

variable {h : Handler} {before after tokens : List Token}

theorem queries_of_asks (hasks : Token.Asks tokens) :
    h.queries tokens = Token.splitQueries tokens := by
  rw [queries]
  split
  · rename_i hnil
    exact absurd hasks (Token.splitQueries_eq_nil_iff.1 hnil)
  · rfl

theorem queries_of_not_asks (hasks : ¬Token.Asks tokens) :
    h.queries tokens = [[⟨Token.datasetKey, h.catalog.latest⟩]] := by
  rw [queries, Token.splitQueries_eq_nil_iff.2 hasks]

/-! ## Answers to joined requests -/

theorem answerAll_cons (h : Handler) (query : List Token) (rest : List (List Token)) :
    h.answerAll (query :: rest) =
      (h.answer query).bind fun response => (h.answerAll rest).map (response :: ·) := by
  rw [answerAll]
  cases h.answer query with
  | error error => rfl
  | ok response => cases h.answerAll rest <;> rfl

/-- Queries are answered from left to right, up to the first that fails. -/
theorem answerAll_append (h : Handler) (first others : List (List Token)) :
    h.answerAll (first ++ others) =
      (h.answerAll first).bind fun responses => (h.answerAll others).map (responses ++ ·) := by
  induction first with
  | nil =>
      rw [List.nil_append]
      cases hothers : h.answerAll others <;> simp [answerAll, Except.bind, Except.map]
  | cons query first ih =>
      rw [List.cons_append, answerAll_cons, answerAll_cons, ih]
      cases h.answer query with
      | error error => rfl
      | ok response =>
          cases h.answerAll first with
          | error error => rfl
          | ok responses => cases h.answerAll others <;> rfl

theorem queries_append (hbefore : Token.Asks before) (hafter : Token.Asks after) (value : String) :
    h.queries (before ++ ⟨Token.delimiterKey, value⟩ :: after) =
      h.queries before ++ h.queries after := by
  have hasks : Token.Asks (before ++ ⟨Token.delimiterKey, value⟩ :: after) := by
    obtain ⟨token, hmem, hkey⟩ := hbefore
    exact ⟨token, List.mem_append_left _ hmem, hkey⟩
  rw [queries_of_asks hbefore, queries_of_asks hafter, queries_of_asks hasks,
    Token.splitQueries_append]

theorem handle_append (hbefore : Token.Asks before) (hafter : Token.Asks after) (value : String) :
    h.handle (before ++ ⟨Token.delimiterKey, value⟩ :: after) =
      (h.handle before).bind fun responses => (h.handle after).map (responses ++ ·) := by
  rw [handle, queries_append hbefore hafter, answerAll_append]
  rfl

/-- A request of two that ask something is answered as the first and then the second of them, with
the error of the first that fails. A request that asks nothing is one for the latest dataset. -/
theorem handle_inOrder (h : Handler) :
    (∀ (before after : List Token) (value : String), Token.Asks before → Token.Asks after →
      (∀ error, h.handle before = .error error →
        h.handle (before ++ ⟨Token.delimiterKey, value⟩ :: after) = .error error) ∧
      ∀ first, h.handle before = .ok first →
        (∀ error, h.handle after = .error error →
          h.handle (before ++ ⟨Token.delimiterKey, value⟩ :: after) = .error error) ∧
        ∀ others, h.handle after = .ok others →
          h.handle (before ++ ⟨Token.delimiterKey, value⟩ :: after) = .ok (first ++ others)) ∧
    ∀ tokens, ¬Token.Asks tokens →
      h.handle tokens = h.handle [⟨Token.datasetKey, h.catalog.latest⟩] := by
  constructor
  · intro before after value hbefore hafter
    rw [handle_append hbefore hafter]
    constructor
    · intro error hfail
      rw [hfail]
      rfl
    · intro first hfirst
      rw [hfirst]
      constructor
      · intro error hfail
        rw [hfail]
        rfl
      · intro others hothers
        rw [hothers]
        rfl
  · intro tokens hasks
    have hkey : Token.datasetKey ≠ Token.delimiterKey := by decide
    have hlatest : Token.Asks [⟨Token.datasetKey, h.catalog.latest⟩] :=
      ⟨_, List.mem_singleton_self _, hkey⟩
    rw [handle, handle, queries_of_not_asks hasks, queries_of_asks hlatest]
    rfl

/-- A handler of one dataset with a single language in it, which knows three keys. -/
def ofYoruba : Handler where
  catalog := ⟨["A"], [⟨"A", .ofUnique [.sample ⟨"Yoruba", "Ada", "a1"⟩
    [("tone", .single (.bool true)), ("consonants", .list [.text "b", .text "t"])] rfl]⟩], "A"⟩
  registry := Registry.empty
    |>.register "Get" (fun a => .ok (Extractor.get a.raw).toTransformation)
    |>.register "Length" (fun _ => .ok Operation.length.toTransformation)
    |>.registerDirective "FilterLanguageSet" .filter
  quorum := .half

/-- A request for two queries, with separators around each of them. -/
def askTwice : List Token :=
  [⟨"Query", ""⟩, ⟨"Get", "consonants"⟩, ⟨"Length", ""⟩, ⟨"Query", "1"⟩, ⟨"Query", "2"⟩,
    ⟨"Dataset", "A"⟩, ⟨"Get", "tone"⟩, ⟨"FilterLanguageSet", ""⟩, ⟨"Query", "3"⟩]

/-- A request whose second token means nothing. -/
def askAmiss : List Token := [⟨"Get", "tone"⟩, ⟨"Filter", ""⟩]

theorem handle_inOrder_ofYoruba :
    (Token.Asks askTwice ∧ Token.Asks askAmiss) ∧
    (∃ responses, ofYoruba.handle askTwice = .ok responses ∧
      ofYoruba.handle (askTwice ++ ⟨Token.delimiterKey, "4"⟩ :: askTwice) =
        .ok (responses ++ responses)) ∧
    ofYoruba.handle (askTwice ++ ⟨Token.delimiterKey, "4"⟩ :: askAmiss) =
      .error (.unknownToken 1 ⟨"Filter", ""⟩) ∧
    ofYoruba.handle (askAmiss ++ ⟨Token.delimiterKey, "4"⟩ :: askTwice) =
      .error (.unknownToken 1 ⟨"Filter", ""⟩) ∧
    ¬Token.Asks [⟨"Query", "5"⟩] ∧
    ofYoruba.handle [⟨"Query", "5"⟩] = ofYoruba.handle [⟨Token.datasetKey, "A"⟩] := by
  have htwice : Token.Asks askTwice := by decide
  have hamiss : Token.Asks askAmiss := by decide
  have hnone : ¬Token.Asks [⟨"Query", "5"⟩] := by decide
  have hfail : ofYoruba.handle askAmiss = .error (.unknownToken 1 ⟨"Filter", ""⟩) := by rfl
  obtain ⟨responses, hok⟩ : ∃ responses, ofYoruba.handle askTwice = .ok responses := ⟨_, rfl⟩
  obtain ⟨hjoined, hlatest⟩ := handle_inOrder ofYoruba
  have hsecond := (hjoined askTwice askTwice "4" htwice htwice).2 responses hok
  have hlast := (hjoined askTwice askAmiss "4" htwice hamiss).2 responses hok
  have hfirst := hjoined askAmiss askTwice "4" hamiss htwice
  exact ⟨⟨htwice, hamiss⟩, ⟨responses, hok, hsecond.2 responses hok⟩, hlast.1 _ hfail,
    hfirst.1 _ hfail, hnone, hlatest _ hnone⟩

end Handler

end Typology
