import Typology.Log.Notice
import Typology.FieldQuery
import Typology.Request
/-!
Narrations: the notices that go with each piece of work, in the order in which they arise. A
narration ends where its work fails.
-/

namespace Typology

open Log (Notice)

/-- The notices about a language that is read. -/
def Language.notices (l : Language) : List Notice :=
  l.mismatches.map fun (property, found) => .mismatch l.name property found

/-- The notices about a set that is made. -/
def LanguageSet.notices (s : LanguageSet) : List Notice :=
  s.sharedNames.map fun (name, n) => .sharedName name n

/-- The notices that go with reading languages, up to the first that is refused. -/
def LanguageSet.recordNotices : List Json → List Notice
  | [] => []
  | record :: rest =>
    match Language.ofJson record with
    | .ok l => l.notices ++ recordNotices rest
    | .error _ => []

/-- The notices that go with reading a set. -/
def LanguageSet.readingNotices (json : Json) : List Notice :=
  let records := match json with
    | .array records => recordNotices records
    | _ => []
  records ++ match LanguageSet.ofJson json with
    | .ok s => s.notices
    | .error _ => []

namespace Evaluation

/-- The notices about languages that lack a datapoint, up to the first failure. -/
def missingNotices (t : Transformation) (step : Nat) : List (Language × Reading) → List Notice
  | [] => []
  | (language, reading) :: rest =>
    match t.apply reading with
    | .ok _ => missingNotices t step rest
    | .error source =>
      match t.lacks? source with
      | some field => .missing ⟨step, field, language.name⟩ :: missingNotices t step rest
      | none => []

/-- The notices about the sets that were made on the way from one state to another. -/
def newSetNotices (before after : Evaluation) : List Notice :=
  (after.sets.toList.drop before.sets.toList.length).flatMap LanguageSet.notices

/-- The notices that go with one step. -/
def stepNotices (e : Evaluation) (quorum : Quorum) (number : Nat) (s : Step) : List Notice :=
  let start := Notice.queryStep number s.name s.kindLabel e.languageSet.size
  let missing := match s with
    | .transform t => missingNotices t number (e.languageSet.languages.zip e.results.toList)
    | .directive _ => []
  start :: missing ++ match e.step quorum number s with
    | .ok after => newSetNotices e after
    | .error _ => []

/-- The notices that go with steps, the first of them with the given number. -/
def runNotices (quorum : Quorum) : Nat → List Step → Evaluation → List Notice
  | _, [], e => [.queryEnd e.languageSet.size e.snapshots.length e.noData.length]
  | number, s :: rest, e =>
    e.stepNotices quorum number s ++ match e.step quorum number s with
      | .ok after => runNotices quorum (number + 1) rest after
      | .error _ => []

end Evaluation

/-- The notices that go with the evaluation of a query. -/
def Query.notices (q : Query) (s : LanguageSet) : List Notice :=
  .queryStart q.steps.length s.size :: Evaluation.runNotices q.quorum 0 q.steps (.start s)

namespace FieldQuery

/-- The notices about values that cannot answer a question. -/
def unusableNotices (q : FieldQuery) (field : String) : List Language → List Notice
  | [] => []
  | language :: rest =>
    match language.get? field with
    | none => q.unusableNotices field rest
    | some v =>
      match q.judge v with
      | .unusable => .unusable language.name field v.typeName :: q.unusableNotices field rest
      | _ => q.unusableNotices field rest

/-- The notices that go with putting a question to every language of a set. -/
def notices (q : FieldQuery) (s : LanguageSet) (quorum : Quorum) : List Notice :=
  let gaps := match q.field? with
    | none => []
    | some field =>
      let missing := (q.judgeAll field 0 s.languages).noData.length
      q.unusableNotices field s.languages ++
        if missing = 0 then [] else [.incomplete field missing s.size]
  gaps ++ match q.run s quorum with
    | .ok found => found.languages.notices
    | .error _ => []

end FieldQuery

/-- The notices that go with reading a set from a file. -/
def LanguageSet.loadNotices (storage : Storage) (path : String) : List Notice :=
  match storage.read path with
  | .error _ => []
  | .ok text => ((Json.read? text).map LanguageSet.readingNotices).getD []

/-- The notices that go with opening one dataset. -/
def Catalog.openNotices (config : Config) (storage : Storage) (name : String) : List Notice :=
  LanguageSet.loadNotices storage (config.datasetPath name) ++
    match opener config storage name with
    | .ok languages => [.datasetLoaded name languages.size]
    | .error e => [.datasetFailed name (config.datasetPath name) e.message]

/-- The notices that go with loading a catalog. -/
def Catalog.loadNotices (config : Config) (storage : Storage) : List Notice :=
  if config.latestDataset?.isNone then []
  else config.datasets.flatMap (openNotices config storage)

namespace Handler

/-- The notices that go with the queries of a request, up to the first that fails. -/
def answerNotices (h : Handler) : List (List Token) → List Notice
  | [] => []
  | tokens :: rest =>
    match h.prepare tokens with
    | .error _ => []
    | .ok (languages, query) =>
      query.notices languages ++ match h.answer tokens with
        | .ok _ => h.answerNotices rest
        | .error _ => []

/-- The notices that go with a request. -/
def notices (h : Handler) (tokens : List Token) : List Notice :=
  let queries := h.queries tokens
  .requestStart queries.length :: h.answerNotices queries ++ match h.handle tokens with
    | .ok responses => [.requestEnd responses.length]
    | .error _ => []

end Handler

end Typology
