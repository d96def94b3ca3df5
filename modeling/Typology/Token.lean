import Typology.Value
import Typology.Text.Search
import Typology.Text.FormEncoded
/-!
Request tokens: `key=value` pairs, the values that their texts stand for, and the queries that a
list of tokens is made of.
-/

namespace Typology

/-- A `key=value` pair of a request. -/
structure Token where
  key : String
  value : String
deriving DecidableEq, Repr

/-- A text as a primitive: `true` and `false` in any case, whole numbers of 64 bits, and text. -/
def Primitive.coerce (chars : List Char) : Primitive :=
  match chars.map Char.toLower with
  | ['t', 'r', 'u', 'e'] => .bool true
  | ['f', 'a', 'l', 's', 'e'] => .bool false
  | _ =>
    match Decimal.word? chars with
    | some n => .int n
    | none => .text (String.ofList chars)

/-- A text as a value: with the delimiter in it, the list of its non-empty pieces, and a primitive
without. -/
def Value.coerce (raw delimiter : String) : Value :=
  if delimiter ≠ "" ∧ Text.contains raw delimiter then
    .list (((Text.pieces delimiter.toList raw.toList).filter (!·.isEmpty)).map Primitive.coerce)
  else .single (.coerce raw.toList)

/-- The items of a list, or a single value as the only item. -/
def Value.elements : Value → List Primitive
  | .single p => [p]
  | .list items => items

namespace Token

/-- The key that separates the queries of a request. -/
def delimiterKey : String := "Query"

/-- The key that names the dataset of a query. -/
def datasetKey : String := "Dataset"

/-- The tokens of a URL query string; a leading question mark is dropped. -/
def ofQueryString (query : String) : List Token :=
  let body := match query.toList with
    | '?' :: rest => String.ofList rest
    | _ => query
  (Text.FormEncoded.decode body).map fun (key, value) => ⟨key, value⟩

/-- The runs of tokens before, between and after those with the key `Query`, also the empty ones. -/
def splitRuns : List Token → List (List Token)
  | [] => [[]]
  | token :: rest =>
    match splitRuns rest with
    | [] => [[token]]
    | run :: runs =>
      if token.key = delimiterKey then [] :: run :: runs else (token :: run) :: runs

/-- The queries of a request: the runs of tokens between those with the key `Query`, as far as
they are not empty. -/
def splitQueries (tokens : List Token) : List (List Token) :=
  (splitRuns tokens).filter (!·.isEmpty)

/-- The dataset that a query names in its first token. -/
def dataset? : List Token → Option String
  | [] => none
  | token :: _ => if token.key = datasetKey then some token.value else none

/-- The JSON array for a token. -/
def toJson (t : Token) : Json := .array [.text t.key, .text t.value]

end Token

end Typology
