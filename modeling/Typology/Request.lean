import Typology.Registry
import Typology.Catalog
import Typology.Evaluation
/-!
Requests: lists of queries, each put to a dataset, and the responses to them.
-/

namespace Typology

/-- The answer to one query of a request. -/
structure Response where
  dataset : String
  tokens : List Token
  rows : List Row
  noData : List MissingDatum

/-- The JSON object for a response. -/
def Response.toJson (r : Response) : Json :=
  .object [("dataset", .text r.dataset), ("query_tokens", .array (r.tokens.map Token.toJson)),
    ("results", .array (r.rows.map Row.toJson)),
    ("no_data", .array (r.noData.map MissingDatum.toJson))]

/-- What is needed to answer requests. -/
structure Handler where
  catalog : Catalog
  registry : Registry
  quorum : Quorum

namespace Handler

/-- The handler of a catalog, with the standard registry and the default quorum. -/
def ofCatalog (catalog : Catalog) : Handler := ⟨catalog, .standard, .half⟩

/-- The handler of a catalog under the settings of a configuration. -/
def configured (catalog : Catalog) (config : Config) : Handler where
  catalog := catalog
  registry := Registry.standard.withListDelimiter config.query.listDelimiter
  quorum := .ofShare config.query.quorumThreshold

/-- The queries of a request; one without any asks for the latest dataset. -/
def queries (h : Handler) (tokens : List Token) : List (List Token) :=
  match Token.splitQueries tokens with
  | [] => [[⟨Token.datasetKey, h.catalog.latest⟩]]
  | some_ => some_

/-- The dataset that a query is put to. -/
def datasetOf (h : Handler) (tokens : List Token) : String :=
  (Token.dataset? tokens).getD h.catalog.latest

/-- The languages and the query that tokens stand for. -/
def prepare (h : Handler) (tokens : List Token) : Except RequestError (LanguageSet × Query) := do
  let languages ← h.catalog.get (h.datasetOf tokens)
  let query ← h.registry.buildQuery tokens
  return (languages, query.withQuorum h.quorum)

/-- Answers one query. -/
def answer (h : Handler) (tokens : List Token) : Except RequestError Response := do
  let (languages, query) ← h.prepare tokens
  let e ← (query.evaluate languages).mapError .query
  return ⟨h.datasetOf tokens, tokens, e.rows, e.noData⟩

/-- Answers queries up to the first that fails. -/
def answerAll (h : Handler) : List (List Token) → Except RequestError (List Response)
  | [] => .ok []
  | tokens :: rest => do
    let first ← h.answer tokens
    let others ← h.answerAll rest
    return first :: others

/-- Answers a request. -/
def handle (h : Handler) (tokens : List Token) : Except RequestError (List Response) :=
  h.answerAll (h.queries tokens)

/-- Answers a request that is given as a query string. -/
def handleQueryString (h : Handler) (query : String) : Except RequestError (List Response) :=
  h.handle (Token.ofQueryString query)

end Handler

end Typology
