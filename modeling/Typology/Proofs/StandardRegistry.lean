import Typology.Registry
import Typology.Proofs.Dictionaries

/-!
# What keys stand for

A registry is made entry by entry, and a key means what was last entered under it. So the meaning
of a key in the standard registry is looked up in the tables that it is made of.
-/

namespace Typology.Registry

variable {α : Type}

/-- Of the entries that are made one after the other the last under a key stays. -/
theorem get?_foldl_insert (f : α → Entry) (entries : List (String × α)) (r : Registry)
    (key : String) :
    (entries.foldl (fun r e => r.insert e.1 (f e.2)) r).entries.get? key =
      ((Dictionary.lookup key entries.reverse).map f).or (r.entries.get? key) := by
  induction entries generalizing r with
  | nil => rfl
  | cons entry rest ih =>
      rw [List.foldl_cons, ih, insert, Dictionary.get?_insert, List.reverse_cons,
        Dictionary.lookup_append]
      cases Dictionary.lookup key rest.reverse with
      | some value => rfl
      | none => by_cases hkey : key = entry.1 <;> simp [Dictionary.lookup, hkey]

theorem listDelimiter_foldl_insert (f : α → Entry) (entries : List (String × α)) (r : Registry) :
    (entries.foldl (fun r e => r.insert e.1 (f e.2)) r).listDelimiter = r.listDelimiter := by
  induction entries generalizing r with
  | nil => rfl
  | cons entry rest ih => exact ih _

theorem standard_eq : standard =
    Directive.names.foldl (fun r e => r.insert e.1 (.directive e.2))
      ((extractors ++ operations ++ predicates).foldl
        (fun r e => r.insert e.1 (.transformation e.2)) empty) := rfl

theorem get?_standard (key : String) : standard.entries.get? key =
    ((Dictionary.lookup key Directive.names.reverse).map .directive).or
      ((Dictionary.lookup key (extractors ++ operations ++ predicates).reverse).map
        .transformation) := by
  rw [standard_eq, get?_foldl_insert, get?_foldl_insert, empty, Dictionary.get?_empty,
    Option.or_none]

theorem listDelimiter_standard : standard.listDelimiter = ";" := by
  rw [standard_eq, listDelimiter_foldl_insert, listDelimiter_foldl_insert, empty]

end Typology.Registry
