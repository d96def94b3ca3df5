import Typology.Text.Blank
/-!
The properties that the survey asks for, in schema order, with the shape of their values. Other
properties are accepted as well; they have no `Property`.
-/

namespace Typology

/-- The shape of a datapoint. -/
inductive Shape where
  | text
  | int
  | float
  | bool
  | list
deriving DecidableEq, Repr

/-- The name of a shape. -/
def Shape.label : Shape → String
  | .text => "text"
  | .int => "int"
  | .float => "float"
  | .bool => "bool"
  | .list => "list"

/-- A property of the survey. -/
inductive Property where
  | name | student | netid
  | country | languageFamily | endangermentLevel
  | numConsonants | numVowels | numPhonemes
  | consonants | consonantTypes | vowels | vowelTypes
  | threePlusPlaces | twoPlusManners
  | numConsonantPlaces | numConsonantManners
  | complexConsonants | tone
  | stress | predictableStress | unpredictableStress
  | syllables
  | recommend
  | morphologicalType | wordFormation | wordFormationFrequency
  | affixalWordFormationFrequency | nonaffixalWordFormationFrequency
  | functionalMorphology | wordOrder | headedness
  | agreement | caseMarking
deriving DecidableEq, Repr

namespace Property

/-- Every property, in schema order. -/
def all : List Property :=
  [name, student, netid, country, languageFamily, endangermentLevel, numConsonants, numVowels,
    numPhonemes, consonants, consonantTypes, vowels, vowelTypes, threePlusPlaces, twoPlusManners,
    numConsonantPlaces, numConsonantManners, complexConsonants, tone, stress, predictableStress,
    unpredictableStress, syllables, recommend, morphologicalType, wordFormation,
    wordFormationFrequency, affixalWordFormationFrequency, nonaffixalWordFormationFrequency,
    functionalMorphology, wordOrder, headedness, agreement, caseMarking]

theorem mem_all (p : Property) : p ∈ all := by cases p <;> decide

/-- The name that records use for a property. -/
def label : Property → String
  | name => "name"
  | student => "student"
  | netid => "netid"
  | country => "country"
  | languageFamily => "language_family"
  | endangermentLevel => "endangerment_level"
  | numConsonants => "num_consonants"
  | numVowels => "num_vowels"
  | numPhonemes => "num_phonemes"
  | consonants => "consonants"
  | consonantTypes => "consonant_types"
  | vowels => "vowels"
  | vowelTypes => "vowel_types"
  | threePlusPlaces => "3+_consonant_places"
  | twoPlusManners => "2+_consonant_manners"
  | numConsonantPlaces => "num_consonant_places"
  | numConsonantManners => "num_consonant_manners"
  | complexConsonants => "complex_consonants"
  | tone => "tone"
  | stress => "stress"
  | predictableStress => "predictable_stress"
  | unpredictableStress => "unpredictable_stress"
  | syllables => "syllables"
  | recommend => "recommend"
  | morphologicalType => "morphological_type"
  | wordFormation => "word_formation"
  | wordFormationFrequency => "word_formation_frequency"
  | affixalWordFormationFrequency => "affixal_word_formation_frequency"
  | nonaffixalWordFormationFrequency => "nonaffixal_word_formation_frequency"
  | functionalMorphology => "functional_morphology"
  | wordOrder => "word_order"
  | headedness => "headedness"
  | agreement => "agreement"
  | caseMarking => "case"

/-- The shape that values of a property should have. -/
def shape : Property → Shape
  | name | student | netid | country | languageFamily | endangermentLevel | recommend
  | affixalWordFormationFrequency | nonaffixalWordFormationFrequency | agreement
  | caseMarking => .text
  | numConsonants | numVowels | numPhonemes | numConsonantPlaces | numConsonantManners => .int
  | consonants | consonantTypes | vowels | vowelTypes | syllables | morphologicalType
  | wordFormation | wordFormationFrequency | functionalMorphology | wordOrder | headedness => .list
  | threePlusPlaces | twoPlusManners | complexConsonants | tone | stress | predictableStress
  | unpredictableStress => .bool

/-- Whether a property is one of the three that identify a language. -/
def isIdentity : Property → Bool
  | name | student | netid => true
  | _ => false

/-- One character of a property name: blanks and hyphens count as underscores, and case does not
count. -/
def normalizeChar (c : Char) : Char := if c = ' ' ∨ c = '-' then '_' else c.toLower

/-- A property name as it is looked up. -/
def normalize (text : String) : String :=
  String.ofList ((Text.trimChars text.toList).map normalizeChar)

/-- The property that a text names. -/
def parse? (text : String) : Option Property :=
  let wanted := normalize text
  all.find? fun p => p.label == wanted

end Property

end Typology
