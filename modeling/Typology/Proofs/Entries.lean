import Typology.Language
import Typology.Proofs.Dictionaries

/-!
# Datapoints by name

Datapoints are told by what stands under each name, where the spellings of a property count as one
name. Entries that are written one after the other under distinct names can be looked up as in the
list of them, whatever its order.
-/

namespace Typology

/-! ## Names -/

namespace Property

variable {p : Property} {name query : String}

theorem parse?_label (p : Property) : parse? p.label = some p := by
  have hall : ∀ p ∈ all, parse? p.label = some p := by decide +kernel
  exact hall p (mem_all p)

theorem label_injective {p q : Property} (h : p.label = q.label) : p = q := by
  have hp := parse?_label p
  rw [h, parse?_label] at hp
  exact (Option.some.inj hp).symm

/-- The name that records use for what a name names. -/
def canonical (name : String) : String := ((parse? name).map label).getD name

theorem canonical_of_some (h : parse? name = some p) : canonical name = p.label := by
  rw [canonical, h]
  rfl

theorem canonical_of_none (h : parse? name = none) : canonical name = name := by
  rw [canonical, h]
  rfl

theorem parse?_canonical (name : String) : parse? (canonical name) = parse? name := by
  cases h : parse? name with
  | some p => rw [canonical_of_some h, parse?_label]
  | none => rw [canonical_of_none h, h]

theorem canonical_label (p : Property) : canonical p.label = p.label :=
  canonical_of_some (parse?_label p)

end Property

open Property

/-! ## Datapoints -/

namespace Datapoints

variable {d d' : Datapoints} {p : Property} {name query : String} {value : Value}
variable {written : List (String × Value)}

theorem get?_of_some (h : parse? name = some p) : d.get? name = d.known p := by
  rw [get?, h]

theorem get?_of_none (h : parse? name = none) : d.get? name = d.extra.get? name := by
  rw [get?, h]

theorem get?_empty (name : String) : empty.get? name = none := by
  unfold get?
  split <;> rfl

theorem get?_label (d : Datapoints) (p : Property) : d.get? p.label = d.known p :=
  get?_of_some (parse?_label p)

theorem known_setKnown (d : Datapoints) (p q : Property) (value : Value) :
    (d.setKnown p value).known q = if q = p then some value else d.known q := rfl

theorem get?_setKnown (d : Datapoints) (p : Property) (value : Value) (query : String) :
    (d.setKnown p value).get? query =
      if parse? query = some p then some value else d.get? query := by
  cases h : parse? query with
  | some q =>
      simp [get?_of_some h, known_setKnown]
  | none => rw [get?_of_none h, get?_of_none h]; rfl

/-- A write changes what stands under the spellings of the name written to. -/
theorem get?_insert (d : Datapoints) (name : String) (value : Value) (query : String) :
    (d.insert name value).get? query =
      if canonical query = canonical name then some value else d.get? query := by
  cases hname : parse? name with
  | some p =>
      have hiff : canonical query = canonical name ↔ parse? query = some p := by
        rw [canonical_of_some hname]
        refine ⟨fun h => ?_, canonical_of_some⟩
        rw [← parse?_canonical, h, parse?_label]
      rw [insert, hname]
      simp only [get?_setKnown, hiff]
  | none =>
      rw [insert, hname, canonical_of_none hname]
      cases hquery : parse? query with
      | some q =>
          -- the label of a property is not a name without one
          have hne : q.label ≠ name := by
            rintro rfl
            rw [parse?_label] at hname
            cases hname
          rw [canonical_of_some hquery, if_neg hne, get?_of_some hquery, get?_of_some hquery]
      | none =>
          rw [canonical_of_none hquery, get?_of_none hquery, get?_of_none hquery]
          exact Dictionary.get?_insert _ _ _ _

/-- No property of the survey stands among the other names. -/
def Settled (d : Datapoints) : Prop := ∀ key p, parse? key = some p → d.extra.get? key = none

theorem Settled.empty : Settled empty := fun _ _ _ => rfl

theorem Settled.setKnown (h : d.Settled) (p : Property) (value : Value) :
    (d.setKnown p value).Settled := h

theorem Settled.insert (h : d.Settled) (name : String) (value : Value) :
    (d.insert name value).Settled := by
  unfold Datapoints.insert
  split
  · exact h.setKnown _ value
  · rename_i hname
    intro key p hkey
    have hne : key ≠ name := by
      rintro rfl
      rw [hname] at hkey
      cases hkey
    show (d.extra.insert name value).get? key = none
    rw [Dictionary.get?_insert, if_neg hne, h key p hkey]

theorem Settled.foldl_insert (h : d.Settled) (written : List (String × Value)) :
    (written.foldl (fun d e => d.insert e.1 e.2) d).Settled := by
  induction written generalizing d with
  | nil => rwa [List.foldl_nil]
  | cons entry rest ih =>
      rw [List.foldl_cons]
      exact ih (h.insert entry.1 entry.2)

theorem Settled.ofList (written : List (String × Value)) : (ofList written).Settled :=
  Settled.empty.foldl_insert written

theorem ext_get? (h : d.Settled) (h' : d'.Settled) (hget : ∀ name, d.get? name = d'.get? name) :
    d = d' := by
  obtain ⟨known, extra⟩ := d
  obtain ⟨known', extra'⟩ := d'
  have hknown : known = known' := funext fun p => by
    have hp := hget p.label
    rwa [get?_label, get?_label] at hp
  have hextra : extra = extra' := Dictionary.ext_get? fun key => by
    cases hkey : parse? key with
    | some p => exact (h key p hkey).trans (h' key p hkey).symm
    | none =>
        have hk := hget key
        rwa [get?_of_none hkey, get?_of_none hkey] at hk
  rw [hknown, hextra]

/-! ## Entries -/

theorem nodup_labels : (Property.all.map fun p => (p.label, p)).map (·.1) |>.Nodup := by
  rw [List.map_map]
  exact List.Nodup.map (fun _ _ => label_injective) (by decide)

theorem entries_eq (d : Datapoints) :
    d.entries = (Property.all.map fun p => (p.label, p)).filterMap
      (fun e => (d.known e.2).map (e.1, ·)) ++ d.extra.entries := by
  rw [entries, knownEntries, List.filterMap_map, List.map_filterMap]
  congr 2
  funext p
  exact Option.map_map _ _ _

theorem lookup_entries (h : d.Settled) (name : String) :
    Dictionary.lookup (canonical name) d.entries = d.get? name := by
  rw [entries_eq, Dictionary.lookup_append, Dictionary.lookup_filterMap _ nodup_labels]
  cases hname : parse? name with
  | some p =>
      have hp : Dictionary.lookup p.label (Property.all.map fun p => (p.label, p)) = some p :=
        (Dictionary.lookup_eq_some_iff nodup_labels).2 (List.mem_map_of_mem (mem_all p))
      rw [canonical_of_some hname, hp, get?_of_some hname]
      show (d.known p).or (d.extra.get? p.label) = _
      rw [h _ _ (parse?_label p), Option.or_none]
  | none =>
      have hnone : Dictionary.lookup name (Property.all.map fun p => (p.label, p)) = none := by
        refine Dictionary.lookup_eq_none_iff.2 fun hmem => ?_
        rw [List.map_map] at hmem
        obtain ⟨p, -, rfl⟩ := List.mem_map.1 hmem
        rw [Function.comp, parse?_label] at hname
        cases hname
      rw [canonical_of_none hname, hnone, get?_of_none hname]
      rfl

theorem canonical_of_mem_entries (h : d.Settled) {e : String × Value} (he : e ∈ d.entries) :
    canonical e.1 = e.1 := by
  rw [entries, List.mem_append] at he
  rcases he with he | he
  · obtain ⟨⟨p, value⟩, -, rfl⟩ := List.mem_map.1 he
    exact canonical_label p
  · cases hname : parse? e.1 with
    | none => exact canonical_of_none hname
    | some p =>
        have hnone := h e.1 p hname
        rw [Dictionary.get?_eq_some_iff.2 he] at hnone
        cases hnone

theorem nodup_keys (h : d.Settled) : (d.entries.map (·.1)).Nodup := by
  rw [entries_eq, List.map_append]
  have hsub := Dictionary.keys_filterMap_sublist d.known (Property.all.map fun p => (p.label, p))
  refine List.nodup_append'.2 ⟨nodup_labels.sublist hsub, d.extra.nodup_keys, ?_⟩
  intro key hknown hextra
  have hlabel := hsub.mem hknown
  rw [List.map_map] at hlabel
  obtain ⟨p, -, rfl⟩ := List.mem_map.1 hlabel
  exact Dictionary.lookup_eq_none_iff.1 (h _ p (parse?_label p)) hextra

theorem get?_foldl_insert (hcanonical : ∀ e ∈ written, canonical e.1 = e.1)
    (hnodup : (written.map (·.1)).Nodup) (d : Datapoints) (name : String) :
    (written.foldl (fun d e => d.insert e.1 e.2) d).get? name =
      (Dictionary.lookup (canonical name) written).or (d.get? name) := by
  induction written generalizing d with
  | nil => rw [List.foldl_nil, Dictionary.lookup, Option.none_or]
  | cons entry rest ih =>
      rw [List.map_cons, List.nodup_cons] at hnodup
      rw [List.foldl_cons, ih (fun e he => hcanonical e (List.mem_cons_of_mem _ he)) hnodup.2,
        get?_insert, hcanonical entry List.mem_cons_self, Dictionary.lookup]
      by_cases hkey : canonical name = entry.1
      · rw [hkey]
        simp [Dictionary.lookup_eq_none_iff.2 hnodup.1]
      · simp [hkey]

end Datapoints

end Typology
