import Typology.Transformation
import Typology.Text.Letter
import Typology.Text.Search
/-!
Predicates, which answer with a bool, and the two transformations of values that do not.
-/

namespace Typology

/-- How two lists relate as sets. -/
inductive SetRelation where
  | subset
  | superset
  | strictSubset
  | strictSuperset
deriving DecidableEq, Repr

namespace SetRelation

/-- The four relations. -/
def all : List SetRelation := [subset, superset, strictSubset, strictSuperset]

/-- The name of a relation. -/
def label : SetRelation → String
  | subset => "Subset"
  | superset => "Superset"
  | strictSubset => "StrictSubset"
  | strictSuperset => "StrictSuperset"

/-- Whether every item of one list occurs in the other. -/
def within (items others : List Primitive) : Bool :=
  items.all fun item => others.any fun other => item.valuesEqual other

/-- Whether two lists are in a relation, without regard to order and repetition. -/
def holds (relation : SetRelation) (left right : List Primitive) : Bool :=
  match relation with
  | subset => within left right
  | superset => within right left
  | strictSubset => within left right && !within right left
  | strictSuperset => within right left && !within left right

end SetRelation

/-- The name of the comparison predicate for a mode. -/
def Mode.comparisonName : Mode → String
  | eq => "Eq"
  | neq => "Neq"
  | gt => "Gt"
  | geq => "Geq"
  | lt => "Lt"
  | leq => "Leq"

/-- Two endpoints, the lower one first. -/
structure Interval where
  low : Primitive
  high : Primitive
deriving DecidableEq, Repr

namespace Interval

/-- The interval of a list of two endpoints in order. -/
def ofValue (predicate : String) (v : Value) : Except TransformError Interval :=
  match v with
  | .list [low, high] =>
    if low.compareValues high = some .lt then .ok ⟨low, high⟩
    else .error (.invalidArgument predicate (.endpointsOutOfOrder low high))
  | v => .error (.invalidArgument predicate (.notTwoEndpoints v))

/-- The order of the low endpoint relative to `x`, and of `x` relative to the high endpoint. -/
def locate (i : Interval) (x : Primitive) : Except TransformError (Ordering × Ordering) :=
  match i.low.compareValues x with
  | none => .error (.incomparable (.single x) (.single i.low))
  | some below =>
    match x.compareValues i.high with
    | none => .error (.incomparable (.single x) (.single i.high))
    | some above => .ok (below, above)

end Interval

/-- A test on values. -/
inductive Predicate where
  | bool
  | not
  | contains (needle : Primitive)
  | containedIn (haystack : List Primitive)
  | substringContainedIn (haystack : List String)
  | comparison (mode : Mode) (right : Value)
  | equalsIgnoreCase (text : String)
  | between (interval : Interval)
  | inRange (interval : Interval)
  | setComparison (relation : SetRelation) (right : List Primitive)
deriving DecidableEq, Repr

namespace Predicate

/-- The name of a predicate. -/
def name : Predicate → String
  | bool => "Bool"
  | not => "Not"
  | contains _ => "Contains"
  | containedIn _ => "ContainedIn"
  | substringContainedIn _ => "SubstringContainedIn"
  | comparison mode _ => mode.comparisonName
  | equalsIgnoreCase _ => "EqualsIgnoreCase"
  | between _ => "Between"
  | inRange _ => "InRange"
  | setComparison relation _ => relation.label

/-- Whether a value counts as true: `true`, a number other than zero, a text or list that is not
empty. -/
def truthy : Value → Bool
  | .single (.bool b) => b
  | .single (.int n) => n != 0
  | .single (.float x) => x.toFloat != 0
  | .single (.text s) => s != ""
  | .list items => !items.isEmpty

/-- The left side of a comparison of primitives: a bool counts as 0 or 1 beside a whole number. -/
def promote : Primitive → Primitive → Primitive
  | .bool b, .int _ => .int (if b then 1 else 0)
  | left, _ => left

/-- The order of two primitives on the two sides of a comparison. -/
def orderScalars (left right : Primitive) : Except TransformError Ordering :=
  let left := promote left right
  match left.compareValues right with
  | some o => .ok o
  | none => .error (.incomparable (.single left) (.single right))

/-- The order of two lists: by the first items that differ, and then by length. -/
def orderLists : List Primitive → List Primitive → Except TransformError Ordering
  | l :: left, r :: right =>
    match l.compareValues r with
    | some .eq => orderLists left right
    | some o => .ok o
    | none => .error (.incomparable (.single l) (.single r))
  | [], [] => .ok .eq
  | [], _ :: _ => .ok .lt
  | _ :: _, [] => .ok .gt

/-- The order of the two sides of a comparison. Beside a whole number a list counts as its
length. -/
def orderValues : Value → Value → Except TransformError Ordering
  | .list items, .single (.int n) => orderScalars (.int (Int64.ofNat items.length)) (.int n)
  | .single left, .single right => orderScalars left right
  | .list left, .list right => orderLists left right
  | left, right => .error (.incomparable left right)

/-- The answer of a predicate for a value. -/
def test (p : Predicate) (v : Value) : Except TransformError Bool :=
  match p with
  | bool => .ok (truthy v)
  | not => .ok !(truthy v)
  | contains needle =>
    match v, needle with
    | .list items, needle => .ok (items.any fun item => item.valuesEqual needle)
    | .single (.text hay), .text needle => .ok (Text.contains hay needle)
    | v, _ => .error (.unexpectedInput p.name .list v.typeName)
  | containedIn haystack => do
    let needle ← v.expectPrimitive p.name
    return haystack.any fun hay => hay.valuesEqual needle
  | substringContainedIn haystack => do
    let needle ← v.expectText p.name
    return haystack.any fun hay => Text.contains hay needle
  | comparison mode right => (orderValues v right).map mode.accepts
  | equalsIgnoreCase text => do
    let s ← v.expectText p.name
    return Text.lowercase s == Text.lowercase text
  | between interval => do
    let x ← v.expectPrimitive p.name
    let (below, above) ← interval.locate x
    return below == .lt && above == .lt
  | inRange interval => do
    let x ← v.expectPrimitive p.name
    let (below, above) ← interval.locate x
    return below != .gt && above != .gt
  | setComparison relation right => do
    let left ← v.expectList p.name
    return relation.holds left right

/-- The transformation of a predicate. -/
def toTransformation (p : Predicate) : Transformation := .ofTest p.name p.test

end Predicate

/-- A function on values that is no predicate. -/
inductive Operation where
  | length
  | intersection (targets : List Primitive)
deriving DecidableEq, Repr

namespace Operation

/-- The name of an operation. -/
def name : Operation → String
  | length => "Length"
  | intersection _ => "Intersection"

/-- The result of an operation: the number of items or characters, or the items that also occur
among the targets. -/
def run (o : Operation) (v : Value) : Except TransformError Value :=
  match o with
  | length =>
    match v with
    | .list items => .ok (.single (.int (Int64.ofNat items.length)))
    | .single (.text s) => .ok (.single (.int (Int64.ofNat s.length)))
    | v => .error (.unexpectedInput o.name .listOrText v.typeName)
  | intersection targets => do
    let items ← v.expectList o.name
    return .list (Typology.intersection items targets)

/-- The transformation of an operation. -/
def toTransformation (o : Operation) : Transformation := .ofFunction o.name o.run

end Operation

end Typology
