import Mathlib.Data.List.Basic

/-!
# Positions in a list

The loops over languages work with positions. These lemmas lead from the positions back to what is
found there.
-/

namespace Typology

variable {σ α β : Type}

/-- The positions of the items that pass a test, from the end of `front` on, lead to these items. -/
theorem map_getElem?_findIdxs (p : σ → Bool) (g : σ → β) (front xs : List σ) :
    (xs.findIdxs p front.length).map (fun i => ((front ++ xs).map g)[i]?) =
      ((xs.filter p).map g).map some := by
  induction xs generalizing front with
  | nil => rfl
  | cons x xs ih =>
      have hfront : front ++ x :: xs = (front ++ [x]) ++ xs := by simp
      have ih' := ih (front ++ [x])
      rw [List.length_append, List.length_singleton, ← hfront] at ih'
      rw [List.findIdxs_cons, List.filter_cons]
      split
      · rw [List.map_cons, ih', List.map_cons, List.map_cons, List.getElem?_map,
          List.getElem?_append_right (Nat.le_refl _), Nat.sub_self]
        rfl
      · exact ih'

theorem filterMap_getElem?_findIdxs (p : σ → Bool) (g : σ → β) (xs : List σ) :
    (xs.findIdxs p).filterMap (fun i => (xs.map g)[i]?) = (xs.filter p).map g := by
  have h := congrArg (List.filterMap id) (map_getElem?_findIdxs p g [] xs)
  rw [List.filterMap_map, List.filterMap_map] at h
  exact h.trans List.filterMap_some

/-- What is found at the position of the first item that passes a test belongs to this item. -/
theorem bind_findIdx?_map (p : σ → Bool) (g : σ → β) (xs : List σ) :
    (xs.findIdx? p).bind ((xs.map g)[·]?) = (xs.find? p).map g := by
  rw [List.find?_eq_bind_findIdx?_getElem?, Option.map_bind]
  simp only [List.getElem?_map]
  rfl

/-- The items that a function takes to something, each paired with what is at its position. -/
theorem mapIdx_getElem?_filterMap (f : σ → Option α) (g : σ → Option α → β) (xs : List σ) :
    (xs.filter fun x => (f x).isSome).mapIdx (fun i x => g x (xs.filterMap f)[i]?) =
      xs.filterMap fun x => (f x).map fun y => g x (some y) := by
  induction xs with
  | nil => rfl
  | cons x xs ih =>
      cases h : f x with
      | none =>
          rw [List.filter_cons_of_neg (by rw [h]; exact Bool.false_ne_true),
            List.filterMap_cons_none h, List.filterMap_cons_none (by rw [h]; rfl)]
          exact ih
      | some y =>
          rw [List.filter_cons_of_pos (by rw [h]; rfl), List.filterMap_cons_some h,
            List.filterMap_cons_some (by rw [h]; rfl), List.mapIdx_cons]
          exact congrArg _ ih

theorem filterMap_cons_toList (f : σ → Option α) (x : σ) (xs : List σ) :
    (x :: xs).filterMap f = (f x).toList ++ xs.filterMap f := by
  rw [List.filterMap_cons]
  cases f x <;> rfl

theorem forall₂_filterMap {R : α → β → Prop} {f : σ → Option α} {g : σ → Option β} {xs : List σ}
    (h : ∀ x ∈ xs, Option.Rel R (f x) (g x)) :
    List.Forall₂ R (xs.filterMap f) (xs.filterMap g) := by
  induction xs with
  | nil => exact .nil
  | cons x xs ih =>
      have hrest := ih fun y hy => h y (List.mem_cons_of_mem _ hy)
      have hx := h x List.mem_cons_self
      rw [List.filterMap_cons, List.filterMap_cons]
      revert hx
      cases f x <;> cases g x <;> intro hx <;> cases hx
      · exact hrest
      · exact .cons ‹_› hrest

end Typology
