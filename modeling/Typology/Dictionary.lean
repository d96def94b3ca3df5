/-!
Dictionaries: values under text keys, listed in increasing key order. `get?_insert` says what a
write does to every look-up.
-/

namespace Typology

/-- Values under text keys; the entries stand in strictly increasing key order. -/
structure Dictionary (α : Type) where
  entries : List (String × α)
  sorted : entries.Pairwise (·.1 < ·.1)

namespace Dictionary

variable {α : Type}

/-- The dictionary without entries. -/
def empty : Dictionary α := ⟨[], .nil⟩

instance : Inhabited (Dictionary α) := ⟨empty⟩

/-- The value of the first entry under `key`. -/
def lookup (key : String) : List (String × α) → Option α
  | [] => none
  | (other, value) :: rest => if key = other then some value else lookup key rest

/-- Writes `value` under `key`: in place of the entry there, else before the first larger key. -/
def insertEntry (key : String) (value : α) : List (String × α) → List (String × α)
  | [] => [(key, value)]
  | (other, old) :: rest =>
    if key < other then (key, value) :: (other, old) :: rest
    else if key = other then (key, value) :: rest
    else (other, old) :: insertEntry key value rest

theorem mem_insertEntry {key : String} {value : α} {entries : List (String × α)}
    {e : String × α} (h : e ∈ insertEntry key value entries) : e = (key, value) ∨ e ∈ entries := by
  induction entries with
  | nil => simpa [insertEntry] using h
  | cons head rest ih =>
      unfold insertEntry at h
      split at h
      · simpa using h
      · split at h
        · rcases List.mem_cons.1 h with h | h
          · exact .inl h
          · exact .inr (List.mem_cons_of_mem _ h)
        · rcases List.mem_cons.1 h with h | h
          · exact .inr (h ▸ List.mem_cons_self)
          · exact (ih h).imp id (List.mem_cons_of_mem _)

theorem sorted_insertEntry (key : String) (value : α) {entries : List (String × α)}
    (h : entries.Pairwise (·.1 < ·.1)) : (insertEntry key value entries).Pairwise (·.1 < ·.1) := by
  induction entries with
  | nil => simp [insertEntry]
  | cons head rest ih =>
      obtain ⟨hhead, hrest⟩ := List.pairwise_cons.1 h
      unfold insertEntry
      split
      · rename_i hlt
        refine List.pairwise_cons.2 ⟨fun e he => ?_, h⟩
        rcases List.mem_cons.1 he with rfl | he
        · exact hlt
        · exact String.lt_trans hlt (hhead e he)
      · rename_i hnlt
        split
        · rename_i heq
          exact List.pairwise_cons.2 ⟨fun e he => heq ▸ hhead e he, hrest⟩
        · rename_i hne
          refine List.pairwise_cons.2 ⟨fun e he => ?_, ih hrest⟩
          rcases mem_insertEntry he with rfl | he
          · exact Decidable.byContradiction fun hn =>
              hne (String.le_antisymm (String.not_lt.1 hn) (String.not_lt.1 hnlt))
          · exact hhead e he

theorem lookup_insertEntry (key query : String) (value : α) (entries : List (String × α)) :
    lookup query (insertEntry key value entries) =
      if query = key then some value else lookup query entries := by
  induction entries with
  | nil => simp [insertEntry, lookup]
  | cons head rest ih =>
      unfold insertEntry
      split
      · simp [lookup]
      · split
        · rename_i heq
          subst heq
          by_cases h : query = head.1 <;> simp [lookup, h]
        · rename_i hne
          by_cases h : query = head.1
          · simp [lookup, h, Ne.symm hne]
          · simp [lookup, h, ih]

/-- Writes `value` under `key`, replacing what stood there. -/
def insert (d : Dictionary α) (key : String) (value : α) : Dictionary α :=
  ⟨insertEntry key value d.entries, sorted_insertEntry key value d.sorted⟩

/-- The value under `key`. -/
def get? (d : Dictionary α) (key : String) : Option α := lookup key d.entries

/-- Whether there is a value under `key`. -/
def contains (d : Dictionary α) (key : String) : Bool := (d.get? key).isSome

/-- The keys, in increasing order. -/
def keys (d : Dictionary α) : List String := d.entries.map (·.1)

/-- The number of entries. -/
def size (d : Dictionary α) : Nat := d.entries.length

/-- Writes the entries one after the other: under a repeated key the last value stays. -/
def ofList (entries : List (String × α)) : Dictionary α :=
  entries.foldl (fun d e => d.insert e.1 e.2) empty

theorem get?_insert (d : Dictionary α) (key query : String) (value : α) :
    (d.insert key value).get? query = if query = key then some value else d.get? query :=
  lookup_insertEntry key query value d.entries

@[simp] theorem get?_empty (query : String) : (empty : Dictionary α).get? query = none := rfl

end Dictionary

end Typology
