import Typology.Comparison
import Typology.Text.Quoted
/-!
Languages: records of datapoints with three identity fields. A later value for a property replaces
an earlier one, and `stress` is derived from its two kinds where it was not recorded.
-/

namespace Typology

/-- Values under properties of the survey and under other names. -/
structure Datapoints where
  known : Property → Option Value
  extra : Dictionary Value

namespace Datapoints

/-- No datapoints. -/
def empty : Datapoints := ⟨fun _ => none, .empty⟩

instance : Inhabited Datapoints := ⟨empty⟩

/-- Writes a value under a property. -/
def setKnown (d : Datapoints) (p : Property) (value : Value) : Datapoints :=
  { d with known := fun q => if q = p then some value else d.known q }

/-- Writes a value under a name, which may name a property of the survey in any spelling. -/
def insert (d : Datapoints) (name : String) (value : Value) : Datapoints :=
  match Property.parse? name with
  | some p => d.setKnown p value
  | none => { d with extra := d.extra.insert name value }

/-- Writes values one after the other. -/
def ofList (entries : List (String × Value)) : Datapoints :=
  entries.foldl (fun d e => d.insert e.1 e.2) empty

/-- The value under a name. A name that is no property of the survey has to match exactly. -/
def get? (d : Datapoints) (name : String) : Option Value :=
  match Property.parse? name with
  | some p => d.known p
  | none => d.extra.get? name

/-- The properties of the survey that have a value, in schema order, with that value. -/
def knownEntries (d : Datapoints) : List (Property × Value) :=
  Property.all.filterMap fun p => (d.known p).map fun value => (p, value)

/-- All datapoints: properties of the survey in schema order, then the others by name. -/
def entries (d : Datapoints) : List (String × Value) :=
  d.knownEntries.map (fun (p, value) => (p.label, value)) ++ d.extra.entries

/-- The number of datapoints. -/
def size (d : Datapoints) : Nat := d.knownEntries.length + d.extra.size

/-- The text of an identity field, which must be there and not be empty. -/
def identityField (d : Datapoints) (p : Property) : Except RecordError String :=
  match (d.known p).bind Value.asText? with
  | some s => if s = "" then .error (.missingIdentity p) else .ok s
  | none => .error (.missingIdentity p)

/-- The three identity fields; the first one that is missing is reported. -/
def identity (d : Datapoints) : Except RecordError Identity := do
  let name ← d.identityField .name
  let student ← d.identityField .student
  let netid ← d.identityField .netid
  return ⟨name, student, netid⟩

/-- Whether either kind of stress is recorded as present, if one of them is recorded. -/
def anyStress? (d : Datapoints) : Option Bool :=
  match (d.known .predictableStress).bind Value.asBool?,
    (d.known .unpredictableStress).bind Value.asBool? with
  | none, none => none
  | predictable, unpredictable => some (predictable.getD false || unpredictable.getD false)

/-- Fills in `stress`, unless it is recorded or neither kind of it is. -/
def deriveStress (d : Datapoints) : Datapoints :=
  match d.known .stress, d.anyStress? with
  | none, some any => d.setKnown .stress (.single (.bool any))
  | _, _ => d

/-- Reads the entries of a JSON object; `null` is no datapoint. -/
def insertJson (d : Datapoints) : List (String × Json) → Except RecordError Datapoints
  | [] => .ok d
  | (key, raw) :: rest =>
    match Value.ofJson raw with
    | .error cause => .error (.badProperty key cause)
    | .ok none => d.insertJson rest
    | .ok (some value) => (d.insert key value).insertJson rest

end Datapoints

/-- A language of the survey. Two languages are the same if their identities are. -/
structure Language where
  identity : Identity
  datapoints : Datapoints

namespace Language

/-- The display name. -/
def name (l : Language) : String := l.identity.name

/-- The value under a name, in any spelling if it is a property of the survey. -/
def get? (l : Language) (field : String) : Option Value := l.datapoints.get? field

/-- The value under a property of the survey. -/
def getKnown? (l : Language) (p : Property) : Option Value := l.datapoints.known p

/-- Whether there is a value under a name. -/
def has (l : Language) (field : String) : Bool := (l.get? field).isSome

/-- All datapoints: properties of the survey in schema order, then the others by name. -/
def entries (l : Language) : List (String × Value) := l.datapoints.entries

/-- The number of datapoints. -/
def size (l : Language) : Nat := l.datapoints.size

/-- Whether two records are of the same language. -/
def same (a b : Language) : Bool := a.identity == b.identity

/-- The language that datapoints describe. -/
def ofDatapoints (d : Datapoints) : Except RecordError Language := do
  let identity ← d.identity
  return ⟨identity, d.deriveStress⟩

/-- The language that a list of datapoints describes. -/
def ofList (entries : List (String × Value)) : Except RecordError Language :=
  ofDatapoints (.ofList entries)

/-- Reads a language from a JSON object. -/
def ofJson : Json → Except RecordError Language
  | .object entries => (Datapoints.empty.insertJson entries).bind ofDatapoints
  | other => .error (.notObject other)

/-- The JSON object for a language, with its datapoints in order. -/
def toJson (l : Language) : Json := .object (l.entries.map fun (key, value) => (key, value.toJson))

/-- A language as messages show it. -/
def display (l : Language) : String := "<Language " ++ l.name ++ ">"

/-- A language as descriptions of values show it. -/
def describe (l : Language) : String :=
  "Language \x7b name: " ++ Text.quote l.identity.name ++
    ", student: " ++ Text.quote l.identity.student ++
    ", netid: " ++ Text.quote l.identity.netid ++
    ", datapoints: " ++ toString l.size ++ " \x7d"

/-- The properties of the survey whose value has an unexpected shape, in schema order. -/
def mismatches (l : Language) : List (Property × Shape) :=
  l.datapoints.knownEntries.filterMap fun (p, value) =>
    if value.shape = p.shape then none else some (p, value.shape)

end Language

end Typology
