import Typology.Proofs.NameIndex
import Typology.Proofs.Ordering
import Typology.Proofs.Verdicts
import Mathlib

/-!
# How often an element is met

The elements of the causes are counted one after the other, and the counts put in order of number.
Without floats, equal elements are one element, and so the counts are a histogram of what is met;
the sort keeps elements with one number as they are first met.
-/

namespace Typology

/-! ## Stable sorting -/

section Stable

variable {α : Type} {R : α → α → Prop} {le : α → α → Bool} {xs : List α}

theorem of_zipIdxLE {x y : α × Nat} (h : List.zipIdxLE le x y = true) :
    le x.1 y.1 = true ∧ (le y.1 x.1 = true → x.2 ≤ y.2) := by
  unfold List.zipIdxLE at h
  split at h
  · rename_i hle
    refine ⟨hle, fun hge => ?_⟩
    rw [if_pos hge] at h
    exact of_decide_eq_true h
  · cases h

/-- Sorting puts items in order, and leaves those that stand level in the relation they were in. -/
theorem pairwise_mergeSort_of_pairwise (htrans : ∀ a b c, le a b → le b c → le a c)
    (htotal : ∀ a b, le a b || le b a) (h : xs.Pairwise R) :
    (xs.mergeSort le).Pairwise fun a b => le a b = true ∧ (le b a = true → R a b) := by
  -- the sort is that of the items with their positions, and no position stands twice
  rw [← List.mergeSort_zipIdx, List.pairwise_map]
  have hperm := List.mergeSort_perm xs.zipIdx (List.zipIdxLE le)
  have hsorted := List.pairwise_mergeSort (List.zipIdxLE_trans htrans) (List.zipIdxLE_total htotal)
    xs.zipIdx
  have hpositions : ((xs.zipIdx.mergeSort (List.zipIdxLE le)).map Prod.snd).Nodup :=
    (hperm.map Prod.snd).nodup_iff.2 (by rw [List.zipIdx_map_snd]; exact List.nodup_range')
  refine (hsorted.and (List.pairwise_map.1 hpositions)).imp_of_mem ?_
  rintro ⟨a, i⟩ ⟨b, j⟩ hx hy ⟨hle, hne⟩
  obtain ⟨hab, hlevel⟩ := of_zipIdxLE hle
  refine ⟨hab, fun hba => ?_⟩
  have ha := List.mk_mem_zipIdx_iff_getElem?.1 (hperm.mem_iff.1 hx)
  have hb := List.mk_mem_zipIdx_iff_getElem?.1 (hperm.mem_iff.1 hy)
  obtain ⟨hi, rfl⟩ := List.getElem?_eq_some_iff.1 ha
  obtain ⟨hj, rfl⟩ := List.getElem?_eq_some_iff.1 hb
  exact List.pairwise_iff_getElem.1 h i j hi hj (Nat.lt_of_le_of_ne (hlevel hba) hne)

end Stable

/-! ## Counting -/

/-- The elements of a cause. -/
def Cause.items : Cause → List Primitive
  | elements items => items
  | _ => []

namespace Matches

variable {x : Primitive} {xs items : List Primitive} {m : Matches}

/-- The different elements that are met, as they are first met, with how often they are. -/
def tally (items : List Primitive) : List (Primitive × Nat) :=
  items.eraseDups.map fun x => (x, items.count x)

theorem countElement_of_not_mem (number : Primitive → Nat) (hx : x.shape ≠ .float)
    (hxs : ∀ y ∈ xs, y.shape ≠ .float) (hmem : x ∉ xs) :
    countElement x (xs.map fun y => (y, number y)) =
      xs.map (fun y => (y, number y)) ++ [(x, 1)] := by
  induction xs with
  | nil => rfl
  | cons y ys ih =>
      obtain ⟨hy, hys⟩ := List.forall_mem_cons.1 hxs
      obtain ⟨hne, hmem⟩ := List.ne_and_not_mem_of_not_mem_cons hmem
      rw [List.map_cons, countElement, Primitive.valuesEqual_of_ne_float hy hx, ih hys hmem]
      simp [hne.symm]

theorem countElement_of_mem (number : Primitive → Nat) (hx : x.shape ≠ .float)
    (hxs : ∀ y ∈ xs, y.shape ≠ .float) (hnodup : xs.Nodup) (hmem : x ∈ xs) :
    countElement x (xs.map fun y => (y, number y)) =
      xs.map fun y => (y, if y = x then number y + 1 else number y) := by
  induction xs with
  | nil => cases hmem
  | cons y ys ih =>
      obtain ⟨hy, hys⟩ := List.forall_mem_cons.1 hxs
      obtain ⟨hnew, hnodup⟩ := List.nodup_cons.1 hnodup
      rw [List.map_cons, List.map_cons, countElement, Primitive.valuesEqual_of_ne_float hy hx]
      by_cases hyx : y = x
      · subst hyx
        have hrest : (ys.map fun z => (z, if z = y then number z + 1 else number z)) =
            ys.map fun z => (z, number z) :=
          List.map_congr_left fun z hz => by rw [if_neg (ne_of_mem_of_not_mem hz hnew)]
        simp [hrest]
      · have hin : x ∈ ys := (List.mem_cons.1 hmem).resolve_left (Ne.symm hyx)
        simp [hyx, ih hys hnodup hin]

theorem eraseDups_append_singleton (items : List Primitive) (x : Primitive) :
    (items ++ [x]).eraseDups = if x ∈ items then items.eraseDups else items.eraseDups ++ [x] := by
  rw [List.eraseDups_append]
  split
  · rename_i hmem
    simp [List.removeAll, hmem]
  · rename_i hmem
    simp [List.removeAll, hmem, List.eraseDups_cons]

/-- Counting an element that is met next. -/
theorem countElement_tally (hx : x.shape ≠ .float) (hitems : ∀ y ∈ items, y.shape ≠ .float) :
    countElement x (tally items) = tally (items ++ [x]) := by
  have hshapes : ∀ y ∈ items.eraseDups, y.shape ≠ .float := fun y hy =>
    hitems y (List.mem_eraseDups.1 hy)
  rw [tally, tally, eraseDups_append_singleton]
  split
  · rename_i hmem
    rw [countElement_of_mem _ hx hshapes (nodup_eraseDups items) (List.mem_eraseDups.2 hmem)]
    refine List.map_congr_left fun y _ => ?_
    by_cases hyx : y = x
    · simp [hyx, List.count_append]
    · simp [hyx, List.count_append, Ne.symm hyx]
  · rename_i hmem
    have hnew : x ∉ items.eraseDups := fun h => hmem (List.mem_eraseDups.1 h)
    rw [countElement_of_not_mem _ hx hshapes hnew, List.map_append]
    congr 1
    · refine List.map_congr_left fun y hy => ?_
      have hne : y ≠ x := ne_of_mem_of_not_mem hy hnew
      simp [List.count_append, hne.symm]
    · simp [List.count_append, List.count_eq_zero.2 hmem]

theorem foldl_countElement (hitems : ∀ x ∈ items, x.shape ≠ .float) :
    items.foldl (fun counts x => countElement x counts) [] = tally items := by
  induction items using List.reverseRecOn with
  | nil => rfl
  | append_singleton before x ih =>
      rw [List.forall_mem_append] at hitems
      rw [List.foldl_append, ih hitems.1]
      exact countElement_tally (hitems.2 x List.mem_cons_self) hitems.1

/-- However the elements are told apart, each adds one to the sum of the numbers. -/
theorem sum_countElement (x : Primitive) (counts : List (Primitive × Nat)) :
    ((countElement x counts).map (·.2)).sum = (counts.map (·.2)).sum + 1 := by
  induction counts with
  | nil => rfl
  | cons entry rest ih =>
      rw [countElement]
      split
      · simp only [List.map_cons, List.sum_cons]
        omega
      · simp only [List.map_cons, List.sum_cons, ih]
        omega

theorem sum_tally (hitems : ∀ x ∈ items, x.shape ≠ .float) :
    ((tally items).map (·.2)).sum = items.length := by
  rw [← foldl_countElement hitems]
  clear hitems
  induction items using List.reverseRecOn with
  | nil => rfl
  | append_singleton before x ih =>
      rw [List.foldl_append, List.length_append, ← ih]
      exact sum_countElement x _

theorem keys_tally (items : List Primitive) : (tally items).map (·.1) = items.eraseDups := by
  rw [tally, List.map_map]
  exact List.map_id _

theorem pairwise_eraseDups (items : List Primitive) :
    items.eraseDups.Pairwise fun x y => items.idxOf x < items.idxOf y := by
  induction items using List.reverseRecOn with
  | nil => exact .nil
  | append_singleton before x ih =>
      have hbefore : before.eraseDups.Pairwise fun y z =>
          (before ++ [x]).idxOf y < (before ++ [x]).idxOf z := by
        refine ih.imp_of_mem fun hy hz hlt => ?_
        rwa [List.idxOf_append_of_mem (List.mem_eraseDups.1 hy),
          List.idxOf_append_of_mem (List.mem_eraseDups.1 hz)]
      rw [eraseDups_append_singleton]
      split
      · exact hbefore
      · rename_i hmem
        refine List.pairwise_append.2 ⟨hbefore, List.pairwise_singleton _ _, fun y hy z hz => ?_⟩
        cases List.mem_singleton.1 hz
        have hy := List.mem_eraseDups.1 hy
        rw [List.idxOf_append_of_mem hy, List.idxOf_append, if_neg hmem]
        exact Nat.lt_add_left _ (List.idxOf_lt_length_of_mem hy)

theorem pairwise_tally (items : List Primitive) :
    (tally items).Pairwise fun a b => items.idxOf a.1 < items.idxOf b.1 :=
  List.pairwise_map.2 (pairwise_eraseDups items)

/-! ## The causes of the matches -/

/-- The elements that are met, reading the matches in order and each cause from the left. -/
def metElements (m : Matches) : List Primitive := (m.toList.map Match.cause).flatMap Cause.items

/-- Elements with a number each are a histogram of items: every item is there once, with how often
it occurs, the most frequent first and equally frequent ones as they first occur. -/
structure IsHistogram (items : List Primitive) (counts : List (Primitive × Nat)) : Prop where
  once : (counts.map (·.1)).Nodup
  all : ∀ x, x ∈ counts.map (·.1) ↔ x ∈ items
  count : ∀ entry ∈ counts, entry.2 = items.count entry.1
  total : (counts.map (·.2)).sum = items.length
  ordered : counts.Pairwise fun a b =>
    b.2 < a.2 ∨ a.2 = b.2 ∧ items.idxOf a.1 < items.idxOf b.1

theorem isHistogram_mergeSort (hitems : ∀ x ∈ items, x.shape ≠ .float) :
    IsHistogram items ((tally items).mergeSort fun a b => decide (b.2 ≤ a.2)) := by
  have hperm := List.mergeSort_perm (tally items) fun a b => decide (b.2 ≤ a.2)
  constructor
  · rw [(hperm.map _).nodup_iff, keys_tally]
    exact nodup_eraseDups items
  · intro x
    rw [(hperm.map _).mem_iff, keys_tally]
    exact List.mem_eraseDups
  · intro entry hentry
    obtain ⟨x, -, rfl⟩ := List.mem_map.1 (hperm.mem_iff.1 hentry)
    rfl
  · rw [(hperm.map _).sum_nat, sum_tally hitems]
  · refine (pairwise_mergeSort_of_pairwise ?_ ?_ (pairwise_tally items)).imp fun {a b} hab => ?_
    · simp only [decide_eq_true_eq]
      omega
    · simp only [Bool.or_eq_true, decide_eq_true_eq]
      omega
    · simp only [decide_eq_true_eq] at hab
      omega

theorem elements?_eq {causes : List Cause} (h : ∀ c ∈ causes, ∃ items, c = .elements items) :
    elements? causes = some (causes.flatMap Cause.items) := by
  induction causes with
  | nil => rfl
  | cons cause rest ih =>
      obtain ⟨⟨items, rfl⟩, hrest⟩ := List.forall_mem_cons.1 h
      rw [elements?, ih hrest]
      rfl

end Matches

namespace FieldQuery

open Matches

variable {field : String} {mode : Mode} {k : Nat} {targets : List Primitive} {s : LanguageSet}
variable {quorum : Quorum} {m : Matches}

theorem elements?_causes (h : (list field mode k targets).run s quorum = .ok m) :
    elements? (m.toList.map Match.cause) = some m.metElements := by
  refine elements?_eq fun cause hcause => ?_
  obtain ⟨found, hfound, rfl⟩ := List.mem_map.1 hcause
  obtain ⟨v, -, husable, heq⟩ := (Concerns.list field mode k targets).cause_eq h hfound
  cases v with
  | single p => cases husable
  | list items => exact ⟨_, heq⟩

/-- The numbers of a question about lists are a histogram of the elements of its causes. -/
theorem frequencies_isHistogram (h : (list field mode k targets).run s quorum = .ok m)
    (hmet : ∀ x ∈ m.metElements, x.shape ≠ .float) : IsHistogram m.metElements m.frequencies := by
  have heq : m.frequencies = (tally m.metElements).mergeSort fun a b => decide (b.2 ≤ a.2) := by
    rw [frequencies, elements?_causes h, ← foldl_countElement hmet]
  rw [heq]
  exact isHistogram_mergeSort hmet

set_option maxRecDepth 100000 in
theorem frequencies_isHistogram_consonants :
    ∃ m, (list "consonants" .leq 3 [.text "k", .text "p", .text "gb", .text "t"]).run
        (.ofUnique LanguageSet.sampleLanguages) .half = .ok m ∧
      m.metElements = [.text "p", .text "t", .text "k", .text "k", .text "gb"] ∧
      (∀ x ∈ m.metElements, x.shape ≠ .float) ∧ IsHistogram m.metElements m.frequencies := by
  obtain ⟨m, hrun⟩ : ∃ m,
      (list "consonants" .leq 3 [.text "k", .text "p", .text "gb", .text "t"]).run
        (.ofUnique LanguageSet.sampleLanguages) .half = .ok m := ⟨_, rfl⟩
  have hmet : m.metElements = [.text "p", .text "t", .text "k", .text "k", .text "gb"] := by
    cases hrun
    rfl
  have hfloat : ∀ x ∈ m.metElements, x.shape ≠ .float := by
    rw [hmet]
    decide
  exact ⟨m, hrun, hmet, hfloat, frequencies_isHistogram hrun hfloat⟩

end FieldQuery

end Typology
