import Typology.Language
import Typology.Alias
/-!
Sets of languages in load order, with a name for every member.
-/

namespace Typology

/-- Languages in load order, and the names that they are found under. -/
structure LanguageSet where
  languages : List Language
  index : Alias.Index

namespace LanguageSet

/-- The set of languages that are known to differ. -/
def ofUnique (languages : List Language) : LanguageSet :=
  ⟨languages, Alias.index (languages.map Language.name)⟩

/-- The set without languages. -/
def empty : LanguageSet := ofUnique []

instance : Inhabited LanguageSet := ⟨empty⟩

/-- The first identity that occurs again, after those already seen. -/
def firstDuplicate? : List Identity → List Identity → Option Identity
  | _, [] => none
  | seen, who :: rest =>
    if who ∈ seen then some who else firstDuplicate? (who :: seen) rest

/-- The set of the given languages, which must differ. -/
def ofList (languages : List Language) : Except RecordError LanguageSet :=
  match firstDuplicate? [] (languages.map Language.identity) with
  | some who => .error (.duplicateLanguage who)
  | none => .ok (ofUnique languages)

/-- Reads the languages of a JSON array, up to the first that is refused. -/
def languagesOfJson : List Json → Except RecordError (List Language)
  | [] => .ok []
  | record :: rest => do
    let first ← Language.ofJson record
    let others ← languagesOfJson rest
    return first :: others

/-- Reads a set from a JSON array of records. -/
def ofJson : Json → Except RecordError LanguageSet
  | .array records => (languagesOfJson records).bind ofList
  | _ => .error .notArray

/-- The JSON array for a set. -/
def toJson (s : LanguageSet) : Json := .array (s.languages.map Language.toJson)

/-- The number of languages. -/
def size (s : LanguageSet) : Nat := s.languages.length

/-- The language found under a name. -/
def get? (s : LanguageSet) (name : String) : Option Language :=
  (Dictionary.lookup name s.index).bind fun position => s.languages[position]?

/-- The name of the language at a position. -/
def nameAt? (s : LanguageSet) (position : Nat) : Option String :=
  (s.index.find? (·.2 == position)).map (·.1)

/-- The names that the languages are found under, in load order. -/
def names (s : LanguageSet) : List String := (List.range s.size).filterMap s.nameAt?

/-- Whether a language is in the set. -/
def contains (s : LanguageSet) (language : Language) : Bool := s.languages.any (·.same language)

/-- The languages for which `keep` holds, as a new set. -/
def subset (s : LanguageSet) (keep : Language → Bool) : LanguageSet :=
  ofUnique (s.languages.filter keep)

/-- The languages at the given positions, in that order, as a new set; positions beyond the end
are left out. -/
def select (s : LanguageSet) (positions : List Nat) : LanguageSet :=
  ofUnique (positions.filterMap (s.languages[·]?))

/-- Whether two sets hold the same languages in the same order. -/
def same (a b : LanguageSet) : Bool :=
  a.languages.map Language.identity == b.languages.map Language.identity

/-- A set as messages show it. -/
def display (s : LanguageSet) : String := "<LanguageSet of " ++ toString s.size ++ " languages>"

/-- A set as descriptions of values show it. -/
def describe (s : LanguageSet) : String := Text.quoteList (s.languages.map Language.name)

/-- The display names that several languages of the set share, with their number. -/
def sharedNames (s : LanguageSet) : List (String × Nat) :=
  Alias.shared (s.languages.map Language.name)

end LanguageSet

end Typology
