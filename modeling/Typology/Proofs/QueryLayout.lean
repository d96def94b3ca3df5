import Typology.Proofs.RequestOrder

/-!
# The ways to write queries

Queries are written one after another, with separators before, between and after them. What a
request asks is read back from every way to write it, and every list of tokens is such a way.
-/

namespace Typology.Token

/-- Every token separates queries. -/
def Separators (tokens : List Token) : Prop := ∀ token ∈ tokens, token.key = delimiterKey

/-- Some tokens, none of which separates. -/
def IsQuery (query : List Token) : Prop := query ≠ [] ∧ ∀ token ∈ query, token.key ≠ delimiterKey

/-- Queries, each with the tokens up to the next one: these separate, and only the last query can
do without. -/
def Spaced : List (List Token × List Token) → Prop
  | [] => True
  | (query, gap) :: rest =>
    (IsQuery query ∧ Separators gap ∧ (gap = [] → rest = [])) ∧ Spaced rest

/-- The tokens for queries and what follows each of them. -/
def written (parts : List (List Token × List Token)) : List Token :=
  parts.flatMap fun part => part.1 ++ part.2

/-- `tokens` is a way to write `queries`. -/
inductive Writes : List (List Token) → List Token → Prop where
  | intro {leading : List Token} {parts : List (List Token × List Token)} :
      Separators leading → Spaced parts → Writes (parts.map (·.1)) (leading ++ written parts)

variable {token : Token} {tokens query gap leading rest : List Token}
variable {queries : List (List Token)} {parts : List (List Token × List Token)}

/-! ## Reading what is written -/

theorem splitQueries_separators_append (h : Separators leading) (rest : List Token) :
    splitQueries (leading ++ rest) = splitQueries rest := by
  induction leading with
  | nil => rfl
  | cons token leading ih =>
      obtain ⟨hkey, hleading⟩ := List.forall_mem_cons.1 h
      have hdrop : splitQueries (token :: (leading ++ rest)) = splitQueries (leading ++ rest) := by
        simp [splitQueries, splitRuns_cons, hkey]
      rw [List.cons_append, hdrop, ih hleading]

theorem splitRuns_of_forall_ne (h : ∀ token ∈ query, token.key ≠ delimiterKey) :
    splitRuns query = [query] := by
  induction query with
  | nil => rfl
  | cons token query ih =>
      obtain ⟨hkey, hquery⟩ := List.forall_mem_cons.1 h
      rw [splitRuns_cons, if_neg hkey, ih hquery, List.modifyHead_cons]

theorem IsQuery.splitQueries_eq (h : IsQuery query) : splitQueries query = [query] := by
  simp [splitQueries, splitRuns_of_forall_ne h.2, h.1]

theorem IsQuery.splitQueries_append (hquery : IsQuery query) (hgap : Separators gap)
    (hlast : gap = [] → rest = []) :
    splitQueries (query ++ gap ++ rest) = query :: splitQueries rest := by
  cases gap with
  | nil =>
      rw [hlast rfl, List.append_nil, List.append_nil]
      exact hquery.splitQueries_eq
  | cons separator gap =>
      obtain ⟨hkey, hothers⟩ := List.forall_mem_cons.1 hgap
      obtain ⟨key, value⟩ := separator
      obtain rfl : key = delimiterKey := hkey
      rw [List.append_assoc, List.cons_append, Token.splitQueries_append, hquery.splitQueries_eq,
        splitQueries_separators_append hothers, List.singleton_append]

theorem Spaced.splitQueries_written (h : Spaced parts) :
    splitQueries (written parts) = parts.map (·.1) := by
  induction parts with
  | nil => rfl
  | cons part parts ih =>
      obtain ⟨query, gap⟩ := part
      obtain ⟨⟨hquery, hgap, hlast⟩, hparts⟩ := h
      have hwritten : gap = [] → written parts = [] := by
        intro hnil
        rw [hlast hnil]
        rfl
      calc
        splitQueries (written ((query, gap) :: parts))
          = splitQueries (query ++ gap ++ written parts) := rfl
        _ = query :: splitQueries (written parts) := hquery.splitQueries_append hgap hwritten
        _ = query :: parts.map (·.1) := by rw [ih hparts]

theorem Writes.splitQueries_eq (h : Writes queries tokens) : splitQueries tokens = queries := by
  obtain ⟨hleading, hparts⟩ := h
  rw [splitQueries_separators_append hleading, hparts.splitQueries_written]

/-! ## Every list of tokens is written -/

theorem Writes.separator (hkey : token.key = delimiterKey) (h : Writes queries tokens) :
    Writes queries (token :: tokens) := by
  obtain ⟨hleading, hparts⟩ := h
  exact .intro (List.forall_mem_cons.2 ⟨hkey, hleading⟩) hparts

theorem IsQuery.singleton (hkey : token.key ≠ delimiterKey) : IsQuery [token] :=
  ⟨List.cons_ne_nil _ _, List.forall_mem_singleton.2 hkey⟩

theorem IsQuery.cons (hkey : token.key ≠ delimiterKey) (h : IsQuery query) :
    IsQuery (token :: query) :=
  ⟨List.cons_ne_nil _ _, List.forall_mem_cons.2 ⟨hkey, h.2⟩⟩

theorem Writes.exists_of_ne (hkey : token.key ≠ delimiterKey) (h : Writes queries tokens) :
    ∃ queries, Writes queries (token :: tokens) := by
  have hnone : Separators [] := List.forall_mem_nil _
  obtain @⟨leading, parts, hleading, hparts⟩ := h
  -- the token joins the first query if that one follows at once, and is a query of its own if not
  cases leading with
  | cons separator leading =>
      have hspaced : Spaced (([token], separator :: leading) :: parts) :=
        ⟨⟨.singleton hkey, hleading, fun hnil => absurd hnil (List.cons_ne_nil _ _)⟩, hparts⟩
      exact ⟨_, .intro hnone hspaced⟩
  | nil =>
      cases parts with
      | nil =>
          have hspaced : Spaced [([token], [])] :=
            ⟨⟨.singleton hkey, hnone, fun _ => rfl⟩, trivial⟩
          exact ⟨_, .intro hnone hspaced⟩
      | cons part parts =>
          obtain ⟨query, gap⟩ := part
          obtain ⟨⟨hquery, hgap⟩, hparts⟩ := hparts
          have hspaced : Spaced ((token :: query, gap) :: parts) :=
            ⟨⟨hquery.cons hkey, hgap⟩, hparts⟩
          exact ⟨_, .intro hnone hspaced⟩

theorem exists_writes (tokens : List Token) : ∃ queries, Writes queries tokens := by
  induction tokens with
  | nil =>
      have hnothing : Spaced [] := trivial
      exact ⟨[], .intro (List.forall_mem_nil _) hnothing⟩
  | cons token tokens ih =>
      obtain ⟨queries, h⟩ := ih
      by_cases hkey : token.key = delimiterKey
      · exact ⟨queries, h.separator hkey⟩
      · exact h.exists_of_ne hkey

/-- Tokens are a way to write the queries that they are split into, and of no others. -/
theorem writes_iff_splitQueries_eq (queries : List (List Token)) (tokens : List Token) :
    Writes queries tokens ↔ splitQueries tokens = queries := by
  constructor
  · intro h
    exact h.splitQueries_eq
  · rintro rfl
    obtain ⟨queries, h⟩ := exists_writes tokens
    rwa [h.splitQueries_eq]

end Typology.Token
