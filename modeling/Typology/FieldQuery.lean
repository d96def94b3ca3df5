import Typology.Query
/-!
Questions about one field of every language, with the cause of each match. Languages without a
usable value are set aside, and too many of them are a shortfall.
-/

namespace Typology

/-- A question about one field. -/
inductive FieldQuery where
  /-- How many targets are in the field's list. -/
  | list (field : String) (mode : Mode) (k : Nat) (targets : List Primitive)
  | number (field : String) (mode : Mode) (k : Int64)
  | text (field : String) (mode : Mode) (value : String)
  | flag (field : String) (value : Bool)
  | always
  | never
deriving DecidableEq, Repr

/-- Why a language matches. -/
inductive Cause where
  /-- The targets that the language has, in its own order. -/
  | elements (items : List Primitive)
  /-- The value of the field. -/
  | value (v : Value)
  | none
deriving DecidableEq, Repr

/-- The JSON value for a cause. -/
def Cause.toJson : Cause → Json
  | elements items => (Value.list items).toJson
  | value v => v.toJson
  | none => .null

/-- The answer of a field query for the value of one language. -/
inductive Verdict where
  | matched (cause : Cause)
  | unmatched
  | unusable
deriving DecidableEq, Repr

namespace FieldQuery

/-- The mode that a text names, for a question. -/
def parseMode (mode : String) : Except QueryError Mode :=
  (Mode.parse mode).mapError fun cause => .construction (.mode cause)

/-- The question how many targets a list has; the mode `all` asks for every target. -/
def ofList (field mode : String) (k : Nat) (targets : List Primitive) :
    Except QueryError FieldQuery :=
  if Mode.isAll mode then .ok (list field .geq targets.length targets)
  else (parseMode mode).map fun mode => list field mode k targets

/-- The question about a number, for which there is no mode `all`. -/
def ofNumber (field mode : String) (k : Int64) : Except QueryError FieldQuery :=
  if Mode.isAll mode then .error (.construction .allOfNumber)
  else (parseMode mode).map fun mode => number field mode k

/-- The question about a text, which is either equal or not. -/
def ofText (field mode value : String) : Except QueryError FieldQuery :=
  match parseMode mode with
  | .error e => .error e
  | .ok .eq => .ok (text field .eq value)
  | .ok .neq => .ok (text field .neq value)
  | .ok _ => .error (.construction (.modeOfText mode))

/-- The field that a question reads. -/
def field? : FieldQuery → Option String
  | list field _ _ _ | number field _ _ | text field _ _ | flag field _ => some field
  | always | never => none

/-- A field name in words. -/
def inWords (field : String) : String :=
  String.ofList (field.toList.map fun c => if c = '_' then ' ' else c)

/-- What a match has, in words. -/
def describe : FieldQuery → String
  | list _ mode k targets =>
    "have " ++ mode.phrase ++ " " ++ toString k ++ " of " ++
      String.intercalate ", " (targets.map Primitive.display)
  | number field mode k =>
    "have a " ++ inWords field ++ " of " ++ mode.phrase ++ " " ++ toString k.toInt
  | text field .neq value => "have a " ++ inWords field ++ " other than " ++ value
  | text field _ value => "have a " ++ inWords field ++ " of " ++ value
  | flag field value => "have a " ++ inWords field ++ " of " ++ Primitive.boolText value
  | always => "match unconditionally"
  | never => "never match"

/-- The verdict for an answer that may be missing. -/
def verdictOf (cause : Cause) : Option Bool → Verdict
  | some true => .matched cause
  | some false => .unmatched
  | none => .unusable

/-- The answer for one value. -/
def judge (q : FieldQuery) (v : Value) : Verdict :=
  match q with
  | list _ mode k targets =>
    match v with
    | .list items =>
      match matchSet? items targets k mode with
      | some common => .matched (.elements common)
      | none => .unmatched
    | .single _ => .unusable
  | number _ mode k =>
    match v with
    | .single (.int n) => verdictOf (.value v) ((Primitive.int n).compareUnder mode (.int k))
    | .single (.float x) => verdictOf (.value v) ((Primitive.float x).compareUnder mode (.int k))
    | _ => .unusable
  | text _ mode value =>
    verdictOf (.value v) (v.asText?.map fun s => (s == value) == (mode == .eq))
  | flag _ value => verdictOf .none (v.asBool?.map (· == value))
  | always => .matched .none
  | never => .unmatched

end FieldQuery

/-- What a question gave for the languages of a set: the positions of the matches with their
causes, and the languages set aside. -/
structure Judged where
  matches_ : List (Nat × Cause)
  noData : List Language

/-- Puts a question to languages from position `position` on. -/
def FieldQuery.judgeAll (q : FieldQuery) (field : String) : Nat → List Language → Judged
  | _, [] => ⟨[], []⟩
  | position, language :: rest =>
    let others := q.judgeAll field (position + 1) rest
    match (language.get? field).map q.judge with
    | some (.matched cause) => { others with matches_ := (position, cause) :: others.matches_ }
    | some .unmatched => others
    | some .unusable | none => { others with noData := language :: others.noData }

/-- A language that matched, with the cause. -/
structure Match where
  language : Language
  cause : Cause

/-- The outcome of a question. -/
structure Matches where
  query : FieldQuery
  /-- The languages that matched. -/
  languages : LanguageSet
  /-- The cause of each match, in the same order. -/
  causes : List Cause
  /-- The languages that were set aside. -/
  noData : List Language

namespace Matches

/-- The matches, with the languages of `source` at the positions found. -/
def ofJudged (q : FieldQuery) (source : LanguageSet) (judged : Judged) : Matches where
  query := q
  languages := source.select (judged.matches_.map (·.1))
  causes := judged.matches_.map (·.2)
  noData := judged.noData

/-- Every match with its cause. -/
def toList (m : Matches) : List Match :=
  m.languages.languages.mapIdx fun i language => ⟨language, m.causes[i]?.getD .none⟩

/-- The number of matches. -/
def size (m : Matches) : Nat := m.languages.size

/-- Counts an element once more: at the first equal one, or as a new one at the end. -/
def countElement (element : Primitive) : List (Primitive × Nat) → List (Primitive × Nat)
  | [] => [(element, 1)]
  | (seen, count) :: rest =>
    if seen.valuesEqual element then (seen, count + 1) :: rest
    else (seen, count) :: countElement element rest

/-- The elements of causes that are all lists of elements, one after the other. -/
def elements? : List Cause → Option (List Primitive)
  | [] => some []
  | .elements items :: rest => (elements? rest).map (items ++ ·)
  | _ :: _ => none

/-- How often each element is part of a cause, the most frequent first and equally frequent ones
as they are first met. There is nothing to count unless every cause is a list of elements. -/
def frequencies (m : Matches) : List (Primitive × Nat) :=
  match elements? (m.toList.map Match.cause) with
  | some items => (items.foldl (fun counts item => countElement item counts) []).mergeSort
      fun a b => decide (b.2 ≤ a.2)
  | none => []

/-- The outcome as messages show it. -/
def display (m : Matches) : String :=
  toString m.size ++ (if m.size = 1 then " language " else " languages ") ++ m.query.describe

/-- The JSON object for an outcome. -/
def toJson (m : Matches) : Json :=
  .object [("description", .text m.display),
    ("matches", .array (m.toList.map fun found =>
      .object [("language", .text found.language.name), ("cause", found.cause.toJson)])),
    ("graph", .array (m.frequencies.map fun (element, count) =>
      .array [element.toJson, .int count])),
    ("no_data", .array (m.noData.map fun language => .text language.name))]

end Matches

/-- Puts a question to every language of a set. -/
def FieldQuery.run (q : FieldQuery) (s : LanguageSet) (quorum : Quorum) :
    Except QueryError Matches :=
  match q.field? with
  | some field =>
    let judged := q.judgeAll field 0 s.languages
    match quorum.check field (s.size - judged.noData.length) s.size with
    | .error shortfall => .error (.quorum shortfall)
    | .ok () => .ok (.ofJudged q s judged)
  | none =>
    let positions := if q = always then List.range s.size else []
    .ok (.ofJudged q s ⟨positions.map fun position => (position, .none), []⟩)

end Typology
