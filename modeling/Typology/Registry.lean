import Typology.RequestError
/-!
The registry: what the keys of tokens stand for, and the queries that lists of tokens build.
-/

namespace Typology

/-- The value of a token as a transformation sees it: its text, and the value that it stands for. -/
structure Argument where
  raw : String
  value : Value

namespace Argument

/-- The argument of a text, under a delimiter of lists. -/
def ofText (raw delimiter : String) : Argument := ⟨raw, .coerce raw delimiter⟩

/-- The single value of an argument. -/
def single (transformation : String) (a : Argument) : Except TransformError Primitive :=
  match a.value with
  | .single p => .ok p
  | v => .error (.invalidArgument transformation (.notSingle v))

end Argument

/-- Makes a transformation of an argument. -/
abbrev Constructor := Argument → Except TransformError Transformation

/-- What a key stands for. -/
inductive Entry where
  | transformation (make : Constructor)
  | directive (d : Directive)

/-- The keys of tokens with what they stand for. -/
structure Registry where
  entries : Dictionary Entry
  /-- What separates the items of a list. -/
  listDelimiter : String

namespace Registry

/-- The registry without keys. -/
def empty : Registry := ⟨.empty, ";"⟩

/-- The registry with another delimiter. -/
def withListDelimiter (r : Registry) (delimiter : String) : Registry :=
  { r with listDelimiter := delimiter }

/-- Gives a key a meaning, in place of one that it had. -/
def insert (r : Registry) (name : String) (entry : Entry) : Registry :=
  { r with entries := r.entries.insert name entry }

/-- Gives a key the meaning of a transformation. -/
def register (r : Registry) (name : String) (make : Constructor) : Registry :=
  r.insert name (.transformation make)

/-- Gives a key the meaning of a directive. -/
def registerDirective (r : Registry) (name : String) (d : Directive) : Registry :=
  r.insert name (.directive d)

/-- Whether a key has a meaning. -/
def contains (r : Registry) (name : String) : Bool := r.entries.contains name

/-- The keys that have a meaning, in increasing order. -/
def names (r : Registry) : List String := r.entries.keys

/-- A registry as descriptions of values show it. -/
def describe (r : Registry) : String :=
  "Registry \x7b names: " ++ Text.quoteList r.names ++ ", list_delimiter: " ++
    Text.quote r.listDelimiter ++ " \x7d"

/-- The constructor of an extractor that takes no argument. -/
def constant (e : Extractor) : Constructor := fun _ => .ok e.toTransformation

/-- The constructor of a predicate. -/
def ofPredicate (make : Argument → Except TransformError Predicate) : Constructor :=
  fun a => (make a).map Predicate.toTransformation

/-- The constructors of extractors. -/
def extractors : List (String × Constructor) :=
  [("Get", fun a =>
      if a.raw = "" then .error (.invalidArgument "Get" .noField)
      else .ok (Extractor.get a.raw).toTransformation),
    ("HasStress", fun a => (Extractor.parseStress a.raw).map Extractor.toTransformation),
    ("HasWordFormationFrequency", fun a =>
      (Extractor.parseFrequency a.raw).map Extractor.toTransformation)] ++
    Extractor.named.map fun (name, property) => (name, constant (.ofProperty property))

/-- The constructors of operations. -/
def operations : List (String × Constructor) :=
  [("Length", fun _ => .ok Operation.length.toTransformation),
    ("Intersection", fun a => .ok (Operation.intersection a.value.elements).toTransformation)]

/-- The constructors of predicates. -/
def predicates : List (String × Constructor) :=
  [("Bool", ofPredicate fun _ => .ok .bool),
    ("Not", ofPredicate fun _ => .ok .not),
    ("Contains", ofPredicate fun a => (a.single "Contains").map .contains),
    ("ContainedIn", ofPredicate fun a => .ok (.containedIn a.value.elements)),
    ("SubstringContainedIn", ofPredicate fun a =>
      .ok (.substringContainedIn (a.value.elements.map Primitive.display))),
    ("EqualsIgnoreCase", ofPredicate fun a => .ok (.equalsIgnoreCase a.raw)),
    ("Between", ofPredicate fun a => (Interval.ofValue "Between" a.value).map .between),
    ("InRange", ofPredicate fun a => (Interval.ofValue "InRange" a.value).map .inRange)] ++
    (Mode.all.map fun mode =>
      (mode.comparisonName, ofPredicate fun a => .ok (.comparison mode a.value))) ++
    SetRelation.all.map fun relation =>
      (relation.label, ofPredicate fun a => .ok (.setComparison relation a.value.elements))

/-- The registry of all transformations and directives. -/
def standard : Registry :=
  let r := (extractors ++ operations ++ predicates).foldl (fun r e => r.register e.1 e.2) empty
  Directive.names.foldl (fun r e => r.registerDirective e.1 e.2) r

instance : Inhabited Registry := ⟨standard⟩

/-- The step that a token at a position stands for. A first token with the key `Dataset` may stand
for none. -/
def stepOf (r : Registry) (position : Nat) (token : Token) : Except RequestError (Option Step) :=
  match r.entries.get? token.key with
  | some (.directive d) => .ok (some (.directive d))
  | some (.transformation make) =>
    match make (.ofText token.value r.listDelimiter) with
    | .ok t => .ok (some (.transform t))
    | .error source => .error (.invalidValue position token source)
  | none =>
    if position = 0 ∧ token.key = Token.datasetKey then .ok none
    else .error (.unknownToken position token)

/-- The steps that tokens from a position on stand for, up to the first that is refused. -/
def stepsOf (r : Registry) : Nat → List Token → Except RequestError (List Step)
  | _, [] => .ok []
  | position, token :: rest => do
    let first ← r.stepOf position token
    let others ← r.stepsOf (position + 1) rest
    return first.toList ++ others

/-- The query that tokens build, under the default quorum. -/
def buildQuery (r : Registry) (tokens : List Token) : Except RequestError Query :=
  (r.stepsOf 0 tokens).map fun steps => { Query.empty with steps }

end Registry

end Typology
