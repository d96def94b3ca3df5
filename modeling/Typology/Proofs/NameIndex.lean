import Typology.Proofs.BuiltSet
import Typology.Proofs.Dictionaries
import Typology.Proofs.Label

/-!
# The index of names

An index gives each position of a list of display names exactly one key, and no key twice. A name
that stands once is its own key; the positions of a shared name get its labels, in order.
-/

namespace Typology

theorem nodup_eraseDups {α : Type} [BEq α] [LawfulBEq α] (xs : List α) : xs.eraseDups.Nodup := by
  cases xs with
  | nil => rw [List.eraseDups_nil]; exact List.nodup_nil
  | cons x xs =>
      rw [List.eraseDups_cons, List.nodup_cons]
      refine ⟨fun hmem => ?_, nodup_eraseDups _⟩
      have hx := (List.mem_filter.1 (List.mem_eraseDups.1 hmem)).2
      rw [beq_self_eq_true] at hx
      cases hx
termination_by xs.length
decreasing_by exact Nat.lt_succ_of_le (List.length_filter_le _ xs)

namespace Alias

variable {names : List String} {name : String} {taken : Index} {positions : List Nat} {i j : Nat}

/-! ## Groups -/

theorem mem_positionsOf : i ∈ positionsOf names name ↔ names[i]? = some name := by
  rw [positionsOf, List.mem_map]
  constructor
  · rintro ⟨⟨other, k⟩, hmem, rfl⟩
    obtain ⟨hentry, hname⟩ := List.mem_filter.1 hmem
    rw [← beq_iff_eq.1 hname]
    exact List.mem_zipIdx_iff_getElem?.1 hentry
  · intro h
    exact ⟨(name, i), List.mem_filter.2 ⟨List.mem_zipIdx_iff_getElem?.2 h, beq_self_eq_true name⟩,
      rfl⟩

theorem pairwise_positionsOf (names : List String) (name : String) :
    (positionsOf names name).Pairwise (· < ·) := by
  have hsub : (positionsOf names name).Sublist (names.zipIdx.map (·.2)) :=
    List.filter_sublist.map _
  rw [List.zipIdx_map_snd] at hsub
  exact List.Pairwise.sublist hsub List.pairwise_lt_range'

theorem groups_positions_perm (names : List String) :
    ((groups names).flatMap (·.2)).Perm (List.range names.length) := by
  have hnodup : ((groups names).flatMap (·.2)).Nodup := by
    rw [groups, List.flatMap_map, List.nodup_flatMap]
    refine ⟨fun name _ => (pairwise_positionsOf names name).imp Nat.ne_of_lt, ?_⟩
    refine (nodup_eraseDups names).imp fun {name name'} hne i hi hi' => ?_
    rw [mem_positionsOf] at hi hi'
    rw [hi] at hi'
    exact hne (Option.some.inj hi')
  refine (List.perm_ext_iff_of_nodup hnodup List.nodup_range).2 fun i => ?_
  rw [groups, List.flatMap_map, List.mem_flatMap, List.mem_range]
  constructor
  · rintro ⟨name, -, hi⟩
    exact (List.getElem?_eq_some_iff.1 (mem_positionsOf.1 hi)).1
  · intro hi
    exact ⟨names[i], List.mem_eraseDups.2 (List.getElem_mem hi),
      mem_positionsOf.2 (List.getElem?_eq_getElem hi)⟩

/-! ## Labels for a group -/

/-- Positions that share a display name get its labels with increasing numbers, none of them
taken. -/
theorem exists_addShared_eq (name : String) (start : Nat) (positions : List Nat) (taken : Index) :
    ∃ numbers : List Nat, numbers.length = positions.length ∧ numbers.Pairwise (· < ·) ∧
      (∀ n ∈ numbers, start ≤ n ∧ label name n ∉ taken.map (·.1)) ∧
      addShared name start positions taken =
        taken ++ (numbers.zip positions).map fun entry => (label name entry.1, entry.2) := by
  -- the numbers of the rest start after the first, and its label is taken for them
  induction positions generalizing start taken with
  | nil => exact ⟨[], rfl, .nil, fun _ hn => absurd hn List.not_mem_nil, (List.append_nil _).symm⟩
  | cons position rest ih =>
      have hfree := isFirstFree_freeNumber taken name start
      rw [addShared]
      generalize freeNumber taken name start = n at hfree ⊢
      obtain ⟨numbers, hlength, hincreasing, hnumbers, heq⟩ :=
        ih (n + 1) (taken ++ [(label name n, position)])
      refine ⟨n :: numbers, congrArg (· + 1) hlength, ?_, ?_, ?_⟩
      · exact List.pairwise_cons.2 ⟨fun m hm => (hnumbers m hm).1, hincreasing⟩
      · intro m hm
        rcases List.mem_cons.1 hm with rfl | hm
        · exact ⟨hfree.start_le, hfree.free⟩
        · obtain ⟨hle, hnew⟩ := hnumbers m hm
          rw [List.map_append, List.mem_append, not_or] at hnew
          exact ⟨Nat.le_trans hfree.start_le (Nat.le_trans (Nat.le_succ n) hle), hnew.1⟩
      · rw [heq, List.append_assoc]
        rfl

theorem addShared_positions (name : String) (start : Nat) (positions : List Nat) (taken : Index) :
    (addShared name start positions taken).map (·.2) = taken.map (·.2) ++ positions := by
  obtain ⟨numbers, hlength, -, -, heq⟩ := exists_addShared_eq name start positions taken
  rw [heq, List.map_append, List.map_map]
  exact congrArg _ (List.map_snd_zip (Nat.le_of_eq hlength.symm))

theorem nodup_addShared (h : (taken.map (·.1)).Nodup) (name : String) (start : Nat)
    (positions : List Nat) : ((addShared name start positions taken).map (·.1)).Nodup := by
  obtain ⟨numbers, hlength, hincreasing, hnumbers, heq⟩ :=
    exists_addShared_eq name start positions taken
  have hlabels : ((numbers.zip positions).map fun entry => (label name entry.1, entry.2)).map
      (·.1) = numbers.map (label name) := by
    have hnumbers := List.map_fst_zip (Nat.le_of_eq hlength)
    rw [← hnumbers, List.map_map, List.map_map, hnumbers]
    rfl
  rw [heq, List.map_append, hlabels, List.nodup_append]
  refine ⟨h, (hincreasing.imp Nat.ne_of_lt).map _ fun _ _ hne heq => hne (label_injective _ heq),
    fun key hkey other hother hsame => ?_⟩
  obtain ⟨n, hn, rfl⟩ := List.mem_map.1 hother
  exact (hnumbers n hn).2 (hsame ▸ hkey)

theorem subset_addGroup (taken : Index) (group : String × List Nat) :
    taken ⊆ addGroup taken group := by
  rw [addGroup]
  split
  · exact List.Subset.refl taken
  · obtain ⟨numbers, -, -, -, heq⟩ := exists_addShared_eq group.1 0 group.2 taken
    rw [heq]
    exact List.subset_append_left _ _

theorem nodup_addGroup (h : (taken.map (·.1)).Nodup) (group : String × List Nat) :
    ((addGroup taken group).map (·.1)).Nodup := by
  rw [addGroup]
  split
  · exact h
  · exact nodup_addShared h _ _ _

/-- The labels of a group with a shared name follow the order of its positions. -/
theorem exists_labels_addGroup (hincreasing : positions.Pairwise (· < ·)) (hi : i ∈ positions)
    (hj : j ∈ positions) (hij : i < j) (name : String) (taken : Index) :
    ∃ m n, m < n ∧ (label name m, i) ∈ addGroup taken (name, positions) ∧
      (label name n, j) ∈ addGroup taken (name, positions) := by
  obtain ⟨numbers, hlength, hnumbers, -, heq⟩ := exists_addShared_eq name 0 positions taken
  obtain ⟨a, ha, rfl⟩ := List.mem_iff_getElem.1 hi
  obtain ⟨b, hb, rfl⟩ := List.mem_iff_getElem.1 hj
  have hab : a < b := by
    refine Nat.lt_of_not_le fun hba => ?_
    rcases Nat.lt_or_eq_of_le hba with hba | rfl
    · exact Nat.lt_asymm hij (List.pairwise_iff_getElem.1 hincreasing b a hb ha hba)
    · exact Nat.lt_irrefl _ hij
  have hshared : positions.length ≠ 1 := by omega
  have hentry : ∀ k (hk : k < positions.length) (hk' : k < numbers.length),
      (label name numbers[k], positions[k]) ∈ addGroup taken (name, positions) := by
    intro k hk hk'
    have hzip : (numbers[k], positions[k]) ∈ numbers.zip positions := by
      rw [← List.getElem_zip (h := by rw [List.length_zip, hlength, Nat.min_self]; exact hk)]
      exact List.getElem_mem _
    rw [addGroup, if_neg hshared, heq]
    exact List.mem_append_right _ (List.mem_map.2 ⟨_, hzip, rfl⟩)
  have ha' : a < numbers.length := hlength ▸ ha
  have hb' : b < numbers.length := hlength ▸ hb
  exact ⟨numbers[a], numbers[b], List.pairwise_iff_getElem.1 hnumbers a b ha' hb' hab,
    hentry a ha ha', hentry b hb hb'⟩

/-! ## The whole index -/

theorem subset_foldl_addGroup (all : List (String × List Nat)) (taken : Index) :
    taken ⊆ all.foldl addGroup taken := by
  induction all generalizing taken with
  | nil => exact List.Subset.refl taken
  | cons group rest ih =>
      exact List.Subset.trans (subset_addGroup taken group) (ih (addGroup taken group))

theorem exists_addGroup_subset {group : String × List Nat} {all : List (String × List Nat)}
    (h : group ∈ all) (taken : Index) :
    ∃ before, addGroup before group ⊆ all.foldl addGroup taken := by
  induction all generalizing taken with
  | nil => exact absurd h List.not_mem_nil
  | cons first rest ih =>
      rcases List.mem_cons.1 h with rfl | h
      · exact ⟨taken, subset_foldl_addGroup rest _⟩
      · exact ih h (addGroup taken first)

theorem foldl_addGroup_positions (all : List (String × List Nat)) (taken : Index) :
    (all.foldl addGroup taken).map (·.2) =
      taken.map (·.2) ++ (all.filter fun group => !group.2.length == 1).flatMap (·.2) := by
  induction all generalizing taken with
  | nil => exact (List.append_nil _).symm
  | cons group rest ih =>
      rw [List.foldl_cons, ih, addGroup, List.filter_cons]
      by_cases hlength : group.2.length = 1
      · simp [hlength]
      · simp [hlength, addShared_positions]

theorem unshared_positions (all : List (String × List Nat)) :
    (unshared all).map (·.2) = (all.filter fun group => group.2.length == 1).flatMap (·.2) := by
  induction all with
  | nil => rfl
  | cons group rest ih =>
      rw [unshared] at ih ⊢
      match group with
      | (name, []) => simpa using ih
      | (name, [position]) => simpa using ih
      | (name, first :: second :: others) => simpa using ih

theorem index_positions_perm (names : List String) :
    ((index names).map (·.2)).Perm (List.range names.length) := by
  rw [index, foldl_addGroup_positions, unshared_positions, ← List.flatMap_append]
  exact ((List.filter_append_perm _ (groups names)).flatMap_right _).trans
    (groups_positions_perm names)

theorem mem_unshared {all : List (String × List Nat)} :
    (name, i) ∈ unshared all ↔ (name, [i]) ∈ all := by
  rw [unshared, List.mem_filterMap]
  constructor
  · rintro ⟨⟨other, positions⟩, hmem, hentry⟩
    match positions with
    | [] => cases hentry
    | [position] => cases hentry; exact hmem
    | first :: second :: others => cases hentry
  · exact fun hmem => ⟨(name, [i]), hmem, rfl⟩

theorem unshared_keys_sublist (all : List (String × List Nat)) :
    ((unshared all).map (·.1)).Sublist (all.map (·.1)) := by
  induction all with
  | nil => exact .slnil
  | cons group rest ih =>
      rw [unshared] at ih ⊢
      match group with
      | (name, []) => exact ih.cons name
      | (name, [position]) => exact ih.cons_cons name
      | (name, first :: second :: others) => exact ih.cons name

theorem nodup_index (names : List String) : ((index names).map (·.1)).Nodup := by
  have hnames : ((groups names).map (·.1)).Nodup := by
    rw [groups, List.map_map]
    exact (List.map_id _).symm ▸ nodup_eraseDups names
  rw [index]
  refine List.foldlRecOn (motive := fun taken => (taken.map (·.1)).Nodup) (groups names) addGroup
    ((unshared_keys_sublist _).nodup hnames) fun taken h group _ => nodup_addGroup h group

theorem positionsOf_mem_groups (h : names[i]? = some name) :
    (name, positionsOf names name) ∈ groups names :=
  List.mem_map.2 ⟨name, List.mem_eraseDups.2 (List.mem_of_getElem? h), rfl⟩

/-- A name that stands once is the key of its position. -/
theorem mem_index_of_unshared (h : names[i]? = some name)
    (hunshared : ∀ j, names[j]? = some name → j = i) : (name, i) ∈ index names := by
  have hpositions : positionsOf names name = [i] := by
    refine List.Perm.eq_singleton ?_
    refine (List.perm_ext_iff_of_nodup ((pairwise_positionsOf names name).imp Nat.ne_of_lt)
      (List.nodup_singleton i)).2 fun j => ?_
    rw [mem_positionsOf, List.mem_singleton]
    exact ⟨hunshared j, fun hj => hj ▸ h⟩
  refine subset_foldl_addGroup (groups names) _ (mem_unshared.2 ?_)
  exact hpositions ▸ positionsOf_mem_groups h

/-- The positions of a shared name get its labels, in order. -/
theorem exists_labels_index (hi : names[i]? = some name) (hj : names[j]? = some name)
    (hij : i < j) :
    ∃ m n, m < n ∧ (label name m, i) ∈ index names ∧ (label name n, j) ∈ index names := by
  obtain ⟨before, hsub⟩ := exists_addGroup_subset (positionsOf_mem_groups hi)
    (unshared (groups names))
  obtain ⟨m, n, hmn, hm, hn⟩ := exists_labels_addGroup (pairwise_positionsOf names name)
    (mem_positionsOf.2 hi) (mem_positionsOf.2 hj) hij name before
  exact ⟨m, n, hmn, hsub hm, hsub hn⟩

end Alias

end Typology
