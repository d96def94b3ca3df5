import Typology.Transformation
/-!
Extractors: a field by its name, a field with a name of its own, and one of several fields that an
argument selects.
-/

namespace Typology

/-- The kinds of stress that can be asked for. -/
inductive StressKind where
  | any
  | predictable
  | unpredictable
deriving DecidableEq, Repr

namespace StressKind

/-- The kinds of stress; the first is the default. -/
def all : List StressKind := [any, predictable, unpredictable]

/-- The word for a kind of stress. -/
def label : StressKind → String
  | any => "any"
  | predictable => "predictable"
  | unpredictable => "unpredictable"

/-- The property that records a kind of stress. -/
def property : StressKind → Property
  | any => .stress
  | predictable => .predictableStress
  | unpredictable => .unpredictableStress

end StressKind

/-- The kinds of word formation whose frequency can be asked for. -/
inductive FormationKind where
  | any
  | affixal
  | nonaffixal
deriving DecidableEq, Repr

namespace FormationKind

/-- The kinds of word formation; the first is the default. -/
def all : List FormationKind := [any, affixal, nonaffixal]

/-- The word for a kind of word formation. -/
def label : FormationKind → String
  | any => "any"
  | affixal => "affixal"
  | nonaffixal => "nonaffixal"

/-- The property that records the frequency of a kind of word formation. -/
def property : FormationKind → Property
  | any => .wordFormationFrequency
  | affixal => .affixalWordFormationFrequency
  | nonaffixal => .nonaffixalWordFormationFrequency

end FormationKind

/-- A way to read one field of a language. -/
inductive Extractor where
  | get (field : String)
  | stress (kind : StressKind)
  | frequency (kind : FormationKind)
deriving DecidableEq, Repr

namespace Extractor

/-- The name of an extractor. -/
def name : Extractor → String
  | get _ => "Get"
  | stress _ => "HasStress"
  | frequency _ => "HasWordFormationFrequency"

/-- The field that an extractor reads. -/
def field : Extractor → String
  | get field => field
  | stress kind => kind.property.label
  | frequency kind => kind.property.label

/-- Reads the field of a language, which must have it. -/
def extract (e : Extractor) (l : Language) : Except TransformError Value :=
  match l.get? e.field with
  | some v => .ok v
  | none => .error (.missingDatapoint l.name e.field)

/-- The transformation of an extractor. -/
def toTransformation (e : Extractor) : Transformation := .ofExtractor e.name e.field e.extract

/-- The extractor of a property of the survey. -/
def ofProperty (p : Property) : Extractor := get p.label

/-- The extractors that have a name of their own and take no argument. -/
def named : List (String × Property) :=
  [("GetName", .name), ("GetCountry", .country), ("GetLanguageFamily", .languageFamily),
    ("GetEndangerment", .endangermentLevel), ("GetNumConsonants", .numConsonants),
    ("GetNumVowels", .numVowels), ("GetNumPhonemes", .numPhonemes),
    ("GetConsonants", .consonants), ("GetConsonantTypes", .consonantTypes),
    ("GetVowels", .vowels), ("GetVowelTypes", .vowelTypes),
    ("GetNumConsonantPlaces", .numConsonantPlaces),
    ("GetNumConsonantManners", .numConsonantManners),
    ("HasComplexConsonants", .complexConsonants), ("HasTone", .tone), ("HasAnyStress", .stress),
    ("HasPredictableStress", .predictableStress),
    ("HasUnpredictableStress", .unpredictableStress), ("GetSyllables", .syllables),
    ("GetRecommend", .recommend), ("GetMorphologicalType", .morphologicalType),
    ("GetWordFormation", .wordFormation),
    ("GetFunctionalMorphology", .functionalMorphology), ("GetWordOrder", .wordOrder),
    ("GetHeadedness", .headedness), ("GetAgreement", .agreement), ("GetCase", .caseMarking)]

/-- The extractor with a name of its own. -/
def ofName? (name : String) : Option Extractor :=
  (Dictionary.lookup name named).map ofProperty

/-- The option that an argument selects: a word in any case, or nothing for the first option. -/
def choose {α : Type} (extractor : String) (options : List (String × α)) (fallback : α)
    (argument : String) : Except TransformError α :=
  let word := Text.trim argument
  if word = "" then .ok fallback
  else
    match options.find? fun option => Text.sameIgnoringAsciiCase option.1 word with
    | some option => .ok option.2
    | none => .error (.invalidArgument extractor (.notOneOf word (options.map (·.1))))

/-- The extractor of the kind of stress that an argument selects. -/
def parseStress (argument : String) : Except TransformError Extractor :=
  (choose "HasStress" (StressKind.all.map fun k => (k.label, k)) .any argument).map stress

/-- The extractor of the word formation frequency that an argument selects. -/
def parseFrequency (argument : String) : Except TransformError Extractor :=
  (choose "HasWordFormationFrequency" (FormationKind.all.map fun k => (k.label, k)) .any
    argument).map frequency

end Extractor

end Typology
