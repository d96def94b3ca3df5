import Typology.Query
/-!
Evaluation of queries. The state holds the active languages with what is in hand for each of them,
in step; whatever was passed through on the way stays in the history.
-/

namespace Typology

/-- A value that changes, with the values that it had before, the oldest first. -/
structure History (α : Type) where
  earlier : List α
  current : α

namespace History

variable {α : Type}

/-- The history of a value that never changed. -/
def start (a : α) : History α := ⟨[], a⟩

/-- Changes the value. -/
def push (h : History α) (a : α) : History α := ⟨h.earlier ++ [h.current], a⟩

/-- All values, the oldest first. -/
def toList (h : History α) : List α := h.earlier ++ [h.current]

@[simp] theorem toList_start (a : α) : (start a).toList = [a] := rfl

@[simp] theorem toList_push (h : History α) (a : α) : (h.push a).toList = h.toList ++ [a] := rfl

@[simp] theorem current_push (h : History α) (a : α) : (h.push a).current = a := rfl

end History

/-- What is in hand for the active languages, in their order. -/
inductive Readings where
  /-- The languages themselves, before any transformation. -/
  | languages (s : LanguageSet)
  | values (vs : List Value)

namespace Readings

/-- What is in hand for each language. -/
def toList : Readings → List Reading
  | languages s => s.languages.map .language
  | values vs => vs.map .value

/-- The number of readings. -/
def size : Readings → Nat
  | languages s => s.size
  | values vs => vs.length

/-- Whether the readings are the languages themselves. -/
def areLanguages : Readings → Bool
  | languages _ => true
  | values _ => false

end Readings

/-- The values of all active languages at one step. Later steps do not change it. -/
structure Snapshot where
  step : Nat
  languages : List Language
  values : List Value

namespace Snapshot

/-- The value of a language, if it was active. -/
def get? (s : Snapshot) (l : Language) : Option Value :=
  (s.languages.findIdx? fun other => other.same l).bind (s.values[·]?)

/-- The languages with their values. -/
def entries (s : Snapshot) : List (Language × Value) := s.languages.zip s.values

end Snapshot

/-- A language that was left out because it lacks a datapoint. -/
structure MissingDatum where
  step : Nat
  field : String
  language : String
deriving DecidableEq, Repr

/-- An active language with everything that is known about it. -/
structure Row where
  language : String
  result : Reading
  contexts : List (Option Value)
  rationale : Option Value

/-- The state of a query's evaluation. -/
structure Evaluation where
  sets : History LanguageSet
  readings : History Readings
  snapshots : List Snapshot
  /-- The last value of each active language that was not a predicate's answer. -/
  rationale : List (Option Value)
  noData : List MissingDatum

/-- What a transformation gave for the active languages: the positions and values of those it gave
a value for, and the languages that lacked a datapoint. -/
structure Collected where
  kept : List Nat
  outputs : List Value
  missing : List MissingDatum

namespace Collected

/-- Nothing collected. -/
def empty : Collected := ⟨[], [], []⟩

/-- Adds a value for the language at a position, in front. -/
def keep (c : Collected) (position : Nat) (output : Value) : Collected :=
  { c with kept := position :: c.kept, outputs := output :: c.outputs }

/-- Adds a language that lacks a datapoint, in front. -/
def leaveOut (c : Collected) (datum : MissingDatum) : Collected :=
  { c with missing := datum :: c.missing }

end Collected

/-- The field that a failure reports as missing, if the transformation may lack it: extractors
may. -/
def Transformation.lacks? (t : Transformation) : TransformError → Option String
  | .missingDatapoint _ field => if t.kind = .extractor then some field else none
  | _ => none

/-- Applies a transformation to languages from position `position` on. A datapoint that an
extractor misses leaves its language out; any other failure is the failure of the whole. -/
def collect (t : Transformation) (step : Nat) :
    Nat → List (Language × Reading) → Except QueryError Collected
  | _, [] => .ok .empty
  | position, (language, reading) :: rest =>
    match t.apply reading with
    | .ok output => (collect t step (position + 1) rest).map (·.keep position output)
    | .error source =>
      match t.lacks? source with
      | some field =>
        (collect t step (position + 1) rest).map (·.leaveOut ⟨step, field, language.name⟩)
      | none => .error (.transformation step t.name language.name source)

/-- The positions and values of the languages whose value is `true`, from position `position` on;
every value has to be a bool. -/
def collectTrue (step : Nat) :
    Nat → List (Language × Value) → Except QueryError (List (Nat × Value))
  | _, [] => .ok []
  | position, (language, value) :: rest =>
    match value.asBool? with
    | some true => (collectTrue step (position + 1) rest).map ((position, value) :: ·)
    | some false => collectTrue step (position + 1) rest
    | none => .error (.nonBooleanFilter step language.name value.typeName)

namespace Evaluation

/-- The beginning: every language is active, and in hand is the language itself. -/
def start (s : LanguageSet) : Evaluation where
  sets := .start s
  readings := .start (.languages s)
  snapshots := []
  rationale := s.languages.map fun _ => none
  noData := []

/-- The active languages. -/
def languageSet (e : Evaluation) : LanguageSet := e.sets.current

/-- What is in hand for the active languages. -/
def results (e : Evaluation) : Readings := e.readings.current

/-- The rationale of the languages at the given positions. -/
def realign (rationale : List (Option Value)) (kept : List Nat) : List (Option Value) :=
  kept.map fun position => rationale[position]?.join

/-- Checks the quorum for what an extractor collected. -/
def checkQuorum (t : Transformation) (quorum : Quorum) (present total : Nat) :
    Except QueryError Unit :=
  match t.kind, t.field with
  | .extractor, some field => (quorum.check field present total).mapError .quorum
  | _, _ => .ok ()

/-- Takes over what a transformation gave. -/
def absorb (e : Evaluation) (t : Transformation) (c : Collected) : Evaluation :=
  let shrinks := c.kept.length < e.languageSet.size
  { sets := if shrinks then e.sets.push (e.languageSet.select c.kept) else e.sets
    readings := e.readings.push (.values c.outputs)
    snapshots := e.snapshots
    rationale :=
      if t.kind = .predicate then
        if shrinks then realign e.rationale c.kept else e.rationale
      else c.outputs.map some
    noData := e.noData ++ c.missing }

/-- Applies a transformation to what is in hand for every active language. -/
def transform (e : Evaluation) (quorum : Quorum) (step : Nat) (t : Transformation) :
    Except QueryError Evaluation := do
  let c ← collect t step 0 (e.languageSet.languages.zip e.results.toList)
  checkQuorum t quorum c.kept.length e.languageSet.size
  return e.absorb t c

/-- Remembers the value of every active language. -/
def extractContext (e : Evaluation) (step : Nat) : Except QueryError Evaluation :=
  match e.results with
  | .languages _ => .error (.contextFromLanguages step)
  | .values values =>
    .ok { e with snapshots := e.snapshots ++ [⟨step, e.languageSet.languages, values⟩] }

/-- Keeps the languages whose value is `true`. Before any transformation there is nothing to filter
by, unless there are no languages. -/
def filter (e : Evaluation) (step : Nat) : Except QueryError Evaluation :=
  match e.results with
  | .languages s =>
    match s.languages with
    | [] => .ok e
    | first :: _ => .error (.nonBooleanFilter step first.name .language)
  | .values values => do
    let kept ← collectTrue step 0 (e.languageSet.languages.zip values)
    let positions := kept.map (·.1)
    return { e with
      sets := e.sets.push (e.languageSet.select positions)
      readings := e.readings.push (.values (kept.map (·.2)))
      rationale := realign e.rationale positions }

/-- Carries out one step. -/
def step (e : Evaluation) (quorum : Quorum) (number : Nat) : Step → Except QueryError Evaluation
  | .transform t => e.transform quorum number t
  | .directive .extractContext => e.extractContext number
  | .directive .filter => e.filter number

/-- Carries out steps one after the other, the first of them with the given number. -/
def run (quorum : Quorum) : Nat → List Step → Evaluation → Except QueryError Evaluation
  | _, [], e => .ok e
  | number, s :: rest, e => (e.step quorum number s).bind (run quorum (number + 1) rest)

/-- Every active language with its result, its contexts and its rationale. -/
def rows (e : Evaluation) : List Row :=
  let results := e.results.toList
  e.languageSet.languages.mapIdx fun i language =>
    { language := language.name
      result := results[i]?.getD (.language language)
      contexts := e.snapshots.map (·.get? language)
      rationale := e.rationale[i]?.join }

/-- At most five texts in brackets; dots stand for the others. -/
def shorten (items : List String) : String :=
  let shown := String.intercalate ", " (items.take 5)
  if 5 < items.length then "[" ++ shown ++ ", ...]" else "[" ++ shown ++ "]"

/-- The outcome of a query as messages show it. -/
def display (e : Evaluation) : String :=
  "<" ++ toString e.results.size ++ " results: " ++
    shorten (e.results.toList.map Reading.display) ++ ", contexts=[" ++
    String.intercalate ", " (e.snapshots.map fun s => shorten (s.values.map Value.display)) ++ "]>"

end Evaluation

/-- Applies the steps of a query to a set of languages. -/
def Query.evaluate (q : Query) (s : LanguageSet) : Except QueryError Evaluation :=
  Evaluation.run q.quorum 0 q.steps (.start s)

namespace MissingDatum

/-- The JSON object for a language that was left out. -/
def toJson (m : MissingDatum) : Json :=
  .object [("step", .int m.step), ("field", .text m.field), ("language", .text m.language)]

end MissingDatum

/-- The JSON value for a value that may be absent. -/
def Value.optionToJson : Option Value → Json
  | some v => v.toJson
  | none => .null

/-- The JSON object for a row. -/
def Row.toJson (r : Row) : Json :=
  .object [("language", .text r.language), ("result", r.result.toJson),
    ("contexts", .array (r.contexts.map Value.optionToJson)),
    ("rationale", Value.optionToJson r.rationale)]

end Typology
