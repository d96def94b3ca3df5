import Typology.Proofs.EveryTarget

/-!
# The set operators

The comparisons of sets and the intersection ask of values only whether they occur in a list, and
that is the same for lists of the same values. So order and repetition do not matter to them, though
equality of values is not transitive: numbers that are equal as values may fare differently, the
copies of one value may not.
-/

namespace Typology

/-- Two lists hold the same values, in whatever order and number. -/
def SameItems (xs ys : List Primitive) : Prop := ∀ v, v ∈ xs ↔ v ∈ ys

variable {xs ys items items' targets targets' others : List Primitive} {v : Primitive}

/-! ## Lists of the same values -/

namespace SameItems

theorem of_perm (h : xs.Perm ys) : SameItems xs ys := fun _ => h.mem_iff

/-- Values of a list may be repeated. -/
theorem append_of_subset (h : ys ⊆ xs) : SameItems (xs ++ ys) xs := by
  intro v
  rw [List.mem_append, or_iff_left_of_imp fun hv => h hv]

theorem symm (h : SameItems xs ys) : SameItems ys xs := fun v => (h v).symm

theorem trans {zs : List Primitive} (hxy : SameItems xs ys) (hyz : SameItems ys zs) :
    SameItems xs zs := fun v => (hxy v).trans (hyz v)

theorem any_eq (h : SameItems xs ys) (p : Primitive → Bool) : xs.any p = ys.any p := by
  rw [Bool.eq_iff_iff, List.any_eq_true, List.any_eq_true]
  exact exists_congr fun v => and_congr_left' (h v)

theorem all_eq (h : SameItems xs ys) (p : Primitive → Bool) : xs.all p = ys.all p := by
  rw [Bool.eq_iff_iff, List.all_eq_true, List.all_eq_true]
  exact forall_congr' fun v => imp_congr_left (h v)

theorem occurs_eq (h : SameItems xs ys) : Occurs xs = Occurs ys :=
  funext fun v => h.any_eq (v.valuesEqual ·)

end SameItems

/-! ## Comparisons -/

namespace SetRelation

theorem within_eq (items others : List Primitive) :
    within items others = items.all (Occurs others) := rfl

theorem within_congr (hitems : SameItems items items') (htargets : SameItems targets targets') :
    within items targets = within items' targets' := by
  rw [within_eq, within_eq, htargets.occurs_eq, hitems.all_eq]

theorem holds_congr (relation : SetRelation) (hitems : SameItems items items')
    (htargets : SameItems targets targets') :
    relation.holds items targets = relation.holds items' targets' := by
  have hsubset := within_congr hitems htargets
  have hsuperset := within_congr htargets hitems
  cases relation <;> simp only [holds, hsubset, hsuperset]

end SetRelation

/-! ## Intersections -/

theorem intersection_eq (items targets : List Primitive) :
    intersection items targets = items.filter (Occurs targets) := rfl

theorem intersection_sublist (items targets : List Primitive) :
    (intersection items targets).Sublist items := List.filter_sublist

/-- Of a value all copies are kept or none. -/
theorem count_intersection (items targets : List Primitive) (v : Primitive) :
    (intersection items targets).count v = if Occurs targets v then items.count v else 0 := by
  rw [intersection_eq]
  split
  · rename_i hv
    exact List.count_filter hv
  · rename_i hv
    rw [List.count_eq_zero, List.mem_filter]
    exact fun h => hv h.2

theorem intersection_congr (items : List Primitive) (h : SameItems targets targets') :
    intersection items targets = intersection items targets' := by
  rw [intersection_eq, intersection_eq, h.occurs_eq]

theorem intersection_eq_self_iff :
    intersection items targets = items ↔ SetRelation.subset.holds items targets = true := by
  rw [intersection_eq, List.filter_eq_self]
  exact List.all_eq_true.symm

theorem length_intersection_eq_iff :
    (intersection items targets).length = items.length ↔ intersection items targets = items :=
  ⟨(intersection_sublist items targets).eq_of_length, congrArg List.length⟩

theorem intersection_comm (items targets others : List Primitive) :
    intersection (intersection items targets) others =
      intersection (intersection items others) targets := List.filter_comm ..

theorem intersection_self (items targets : List Primitive) :
    intersection (intersection items targets) targets = intersection items targets := by
  rw [intersection_eq, intersection_eq, List.filter_filter]
  simp only [Bool.and_self]

/-! ## The operators -/

theorem Predicate.test_setComparison (relation : SetRelation) (targets items : List Primitive) :
    (setComparison relation targets).test (.list items) = .ok (relation.holds items targets) := rfl

theorem Operation.run_intersection (targets items : List Primitive) :
    (intersection targets).run (.list items) = .ok (.list (Typology.intersection items targets)) :=
  rfl

/-- What is true of the set operators on a list, where `common` is its intersection with the targets
and `both` the intersection of that with other targets. -/
structure OperatorsAgree (items targets others common both : List Primitive) : Prop where
  common_eq : (Operation.intersection targets).run (.list items) = .ok (.list common)
  subset_iff : (Predicate.setComparison .subset targets).test (.list items) = .ok true ↔
    common.length = items.length
  whole_iff : common.length = items.length ↔ common = items
  /-- The order is kept, and of a value all copies or none. -/
  sublist : common.Sublist items
  count_eq : ∀ v, common.count v = if Occurs targets v then items.count v else 0
  /-- Neither the order of a side nor what it repeats makes a difference. -/
  comparison_congr : ∀ relation items' targets', SameItems items items' →
    SameItems targets targets' →
    (Predicate.setComparison relation targets).test (.list items) =
      (Predicate.setComparison relation targets').test (.list items')
  intersection_congr : ∀ targets', SameItems targets targets' →
    (Operation.intersection targets').run (.list items) = .ok (.list common)
  common_again : (Operation.intersection targets).run (.list common) = .ok (.list common)
  /-- Two intersections may be taken in either order, and again. -/
  both_eq : ((Operation.intersection targets).run (.list items)).bind
    (Operation.intersection others).run = .ok (.list both)
  both_comm : ((Operation.intersection others).run (.list items)).bind
    (Operation.intersection targets).run = .ok (.list both)
  both_again : (Operation.intersection targets).run (.list both) = .ok (.list both) ∧
    (Operation.intersection others).run (.list both) = .ok (.list both)

/-- The set operators agree on every list. It is a subset of targets if and only if all of it is in
the intersection with them, and neither comparisons nor intersections heed order and repetition. -/
theorem setOperators_coherent (items targets others : List Primitive) :
    ∃ common both, OperatorsAgree items targets others common both := by
  have hboth : intersection (intersection (intersection items targets) others) targets =
      intersection (intersection items targets) others := by
    rw [intersection_comm, intersection_self]
  refine ⟨intersection items targets, intersection (intersection items targets) others, ?_⟩
  constructor
  · exact Operation.run_intersection targets items
  · rw [Predicate.test_setComparison, Except.ok.injEq, length_intersection_eq_iff,
      intersection_eq_self_iff]
  · exact length_intersection_eq_iff
  · exact intersection_sublist items targets
  · exact count_intersection items targets
  · intro relation items' targets' hitems htargets
    rw [Predicate.test_setComparison, Predicate.test_setComparison,
      relation.holds_congr hitems htargets]
  · intro targets' htargets
    rw [Operation.run_intersection, intersection_congr items htargets]
  · rw [Operation.run_intersection, intersection_self]
  · rfl
  · rw [intersection_comm]
    rfl
  · rw [Operation.run_intersection, Operation.run_intersection, hboth, intersection_self]
    exact ⟨rfl, rfl⟩

/-- A list in which a number is repeated. -/
def repeating : List Primitive := [.int 1, .text "p", .int 1]

/-- The same number as a float, and a text. -/
def numbered : List Primitive := [.float ⟨0x3ff0000000000000⟩, .text "k"]

theorem setOperators_coherent_repeating :
    SameItems repeating [.text "p", .int 1] ∧
    SameItems numbered (numbered.reverse ++ [.text "k"]) ∧
    (∀ relation, (Predicate.setComparison relation numbered).test (.list repeating) =
      (Predicate.setComparison relation (numbered.reverse ++ [.text "k"])).test
        (.list [.text "p", .int 1])) ∧
    (Operation.intersection (numbered.reverse ++ [.text "k"])).run (.list repeating) =
      .ok (.list [.int 1, .int 1]) := by
  have hitems : SameItems repeating [.text "p", .int 1] :=
    have hperm : repeating.Perm ([.text "p", .int 1] ++ [.int 1]) := by decide
    (SameItems.of_perm hperm).trans (.append_of_subset (by simp))
  have htargets : SameItems numbered (numbered.reverse ++ [.text "k"]) :=
    have hrepeated : SameItems (numbered.reverse ++ [.text "k"]) numbered.reverse :=
      .append_of_subset (by simp [numbered])
    (hrepeated.trans (.of_perm (List.reverse_perm numbered))).symm
  have hcommon : (Operation.intersection numbered).run (.list repeating) =
      .ok (.list [.int 1, .int 1]) := by rfl
  obtain ⟨common, both, h⟩ := setOperators_coherent repeating numbered []
  cases h.common_eq.symm.trans hcommon
  exact ⟨hitems, htargets, fun relation => h.comparison_congr relation _ _ hitems htargets,
    h.intersection_congr _ htargets⟩

end Typology
