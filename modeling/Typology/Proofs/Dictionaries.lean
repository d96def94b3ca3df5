import Mathlib.Data.List.Sort
import Typology.Dictionary

/-!
# Look-ups in dictionaries

Where no key stands twice, what is found under a key is what stands beside it, in whatever order the
entries come. A dictionary keeps its entries in the order of their keys, so it is told by its
look-ups.
-/

namespace Typology

namespace Dictionary

variable {α β : Type} {key : String} {value : α} {entries entries' : List (String × α)}
variable {d d' : Dictionary α}

theorem nodup_keys (d : Dictionary α) : (d.entries.map (·.1)).Nodup :=
  (List.pairwise_map.2 d.sorted).imp fun h => String.ne_of_lt h

theorem lookup_eq_some_iff (h : (entries.map (·.1)).Nodup) :
    lookup key entries = some value ↔ (key, value) ∈ entries := by
  induction entries with
  | nil => simp [lookup]
  | cons entry rest ih =>
      obtain ⟨other, old⟩ := entry
      rw [List.map_cons, List.nodup_cons] at h
      rw [lookup, List.mem_cons]
      by_cases hkey : key = other
      · subst hkey
        have hrest : (key, value) ∉ rest := fun hmem =>
          h.1 (List.mem_map.2 ⟨(key, value), hmem, rfl⟩)
        simp [hrest, eq_comm]
      · simp [hkey, ih h.2]

theorem get?_eq_some_iff : d.get? key = some value ↔ (key, value) ∈ d.entries :=
  lookup_eq_some_iff d.nodup_keys

theorem lookup_eq_none_iff : lookup key entries = none ↔ key ∉ entries.map (·.1) := by
  induction entries with
  | nil => simp [lookup]
  | cons entry rest ih =>
      rw [lookup, List.map_cons, List.mem_cons, not_or, ← ih]
      by_cases hkey : key = entry.1 <;> simp [hkey]

theorem lookup_append (key : String) (entries entries' : List (String × α)) :
    lookup key (entries ++ entries') = (lookup key entries).or (lookup key entries') := by
  induction entries with
  | nil => rfl
  | cons entry rest ih =>
      rw [List.cons_append, lookup, lookup, ih]
      split <;> rfl

theorem lookup_perm (hnodup : (entries.map (·.1)).Nodup) (h : entries'.Perm entries) :
    lookup key entries' = lookup key entries := by
  refine Option.ext fun value => ?_
  rw [lookup_eq_some_iff hnodup, lookup_eq_some_iff ((h.map _).nodup_iff.2 hnodup), h.mem_iff]

theorem lookup_filterMap (f : α → Option β) (hnodup : (entries.map (·.1)).Nodup) :
    lookup key (entries.filterMap fun e => (f e.2).map (e.1, ·)) = (lookup key entries).bind f := by
  induction entries with
  | nil => rfl
  | cons entry rest ih =>
      rw [List.map_cons, List.nodup_cons] at hnodup
      rw [List.filterMap_cons, lookup]
      by_cases hkey : key = entry.1
      · subst hkey
        cases hf : f entry.2 with
        | none => simp [ih hnodup.2, lookup_eq_none_iff.2 hnodup.1, hf]
        | some b => simp [lookup, hf]
      · cases hf : f entry.2 with
        | none => simp [ih hnodup.2, hkey]
        | some b => simp [lookup, ih hnodup.2, hkey]

theorem keys_filterMap_sublist (f : α → Option β) (entries : List (String × α)) :
    ((entries.filterMap fun e => (f e.2).map (e.1, ·)).map (·.1)).Sublist
      (entries.map (·.1)) := by
  induction entries with
  | nil => exact .slnil
  | cons entry rest ih =>
      rw [List.filterMap_cons]
      cases f entry.2 with
      | none => exact ih.cons entry.1
      | some b => exact ih.cons_cons entry.1

theorem ext_get? (h : ∀ key, d.get? key = d'.get? key) : d = d' := by
  have hperm : d.entries.Perm d'.entries := by
    refine (List.perm_ext_iff_of_nodup d.nodup_keys.of_map d'.nodup_keys.of_map).2 fun e => ?_
    rw [← get?_eq_some_iff, ← get?_eq_some_iff, h]
  cases d
  cases d'
  congr 1
  refine hperm.eq_of_pairwise (fun a b _ _ h h' => ?_) ‹_› ‹_›
  exact absurd (String.lt_trans h h') (String.lt_irrefl _)

theorem get?_foldl_insert (hnodup : (entries.map (·.1)).Nodup) :
    (entries.foldl (fun d e => d.insert e.1 e.2) d).get? key =
      (lookup key entries).or (d.get? key) := by
  induction entries generalizing d with
  | nil => rfl
  | cons entry rest ih =>
      rw [List.map_cons, List.nodup_cons] at hnodup
      rw [List.foldl_cons, ih hnodup.2, get?_insert, lookup]
      by_cases hkey : key = entry.1
      · subst hkey
        simp [lookup_eq_none_iff.2 hnodup.1]
      · simp [hkey]

theorem get?_ofList (hnodup : (entries.map (·.1)).Nodup) :
    (ofList entries).get? key = lookup key entries := by
  rw [ofList, get?_foldl_insert hnodup, get?_empty, Option.or_none]

/-- Entries with distinct keys are only put in order. -/
theorem ofList_perm (hnodup : (entries.map (·.1)).Nodup) :
    (ofList entries).entries.Perm entries := by
  refine (List.perm_ext_iff_of_nodup (nodup_keys _).of_map hnodup.of_map).2 fun e => ?_
  rw [← get?_eq_some_iff, get?_ofList hnodup, lookup_eq_some_iff hnodup]

theorem insertEntry_map (f : α → β) (key : String) (value : α) (entries : List (String × α)) :
    insertEntry key (f value) (entries.map fun e => (e.1, f e.2)) =
      (insertEntry key value entries).map fun e => (e.1, f e.2) := by
  induction entries with
  | nil => rfl
  | cons entry rest ih =>
      rw [List.map_cons, insertEntry, insertEntry, ih]
      split
      · rfl
      · split <;> rfl

theorem foldl_insert_map (f : α → β) {d : Dictionary α} {e : Dictionary β}
    (h : e.entries = d.entries.map fun e => (e.1, f e.2)) :
    ((entries.map fun e => (e.1, f e.2)).foldl (fun d e => d.insert e.1 e.2) e).entries =
      (entries.foldl (fun d e => d.insert e.1 e.2) d).entries.map fun e => (e.1, f e.2) := by
  induction entries generalizing d e with
  | nil => exact h
  | cons entry rest ih =>
      refine ih ((congrArg (insertEntry entry.1 (f entry.2)) h).trans ?_)
      exact insertEntry_map f entry.1 entry.2 d.entries

theorem ofList_map (f : α → β) (entries : List (String × α)) :
    (ofList (entries.map fun e => (e.1, f e.2))).entries =
      (ofList entries).entries.map fun e => (e.1, f e.2) :=
  foldl_insert_map f rfl

end Dictionary

end Typology
