import Typology.Alias
import Mathlib.Data.List.Nodup
import Mathlib.Data.List.Perm.Subperm

/-!
# Labels

A suffix tells its number and has no blank, so a label tells its display name and its number. Of a
finite index only so many labels can be taken, and the search for a free one always ends.
-/

namespace Typology.Alias

variable {name name' : String} {n n' : Nat} {taken : Index}

/-! ## Letters -/

/-- One of the letters `A` to `Z`. -/
def IsLetter (c : Char) : Prop := 'A' ≤ c ∧ c ≤ 'Z'

theorem isLetter_iff {c : Char} : IsLetter c ↔ 65 ≤ c.toNat ∧ c.toNat ≤ 90 := Iff.rfl

theorem toNat_letter (n : Nat) : (letter n).toNat = 'A'.toNat + n % 26 := by
  have hvalid : ('A'.toNat + n % 26).isValidChar := by
    have hA : 'A'.toNat = 65 := rfl
    exact .inl (by omega)
  rw [letter, Char.ofNat, dif_pos hvalid]
  rfl

theorem isLetter_letter (n : Nat) : IsLetter (letter n) := by
  have hA : 'A'.toNat = 65 := rfl
  rw [isLetter_iff, toNat_letter]
  omega

/-! ## Suffixes -/

theorem suffixChars_of_lt (h : n < 26) : suffixChars n = [letter n] := by
  rw [suffixChars, if_pos h]

theorem suffixChars_of_le (h : 26 ≤ n) :
    suffixChars n = suffixChars (n / 26 - 1) ++ [letter n] := by
  rw [suffixChars, if_neg (Nat.not_lt.2 h)]

theorem isLetter_of_mem_suffixChars {c : Char} (h : c ∈ suffixChars n) : IsLetter c := by
  induction n using suffixChars.induct with
  | case1 n hlt =>
      rw [suffixChars_of_lt hlt, List.mem_singleton] at h
      exact h ▸ isLetter_letter n
  | case2 n hge ih =>
      rw [suffixChars_of_le (Nat.not_lt.1 hge), List.mem_append, List.mem_singleton] at h
      rcases h with h | rfl
      · exact ih h
      · exact isLetter_letter n

theorem blank_notMem_suffixChars (n : Nat) : ' ' ∉ suffixChars n := by
  intro h
  have hblank : ' '.toNat = 32 := rfl
  have hletter := isLetter_iff.1 (isLetter_of_mem_suffixChars h)
  omega

/-- The number that letters stand for, where `A` is 1, `Z` is 26 and `AA` is 27. -/
def letterValue (cs : List Char) : Nat :=
  cs.foldl (fun value c => value * 26 + (c.toNat - 'A'.toNat + 1)) 0

theorem letterValue_append_singleton (cs : List Char) (c : Char) :
    letterValue (cs ++ [c]) = letterValue cs * 26 + (c.toNat - 'A'.toNat + 1) :=
  List.foldl_append

/-- The letters of a suffix stand for its number, counted from 1. -/
theorem letterValue_suffixChars (n : Nat) : letterValue (suffixChars n) = n + 1 := by
  induction n using suffixChars.induct with
  | case1 n h =>
      have hvalue : letterValue ([] ++ [letter n]) = n % 26 + 1 := by
        rw [letterValue_append_singleton, toNat_letter, Nat.add_sub_cancel_left]
        exact Nat.zero_add _
      rw [suffixChars_of_lt h, ← List.nil_append [letter n], hvalue, Nat.mod_eq_of_lt h]
  | case2 n h ih =>
      rw [suffixChars_of_le (Nat.not_lt.1 h), letterValue_append_singleton, ih, toNat_letter,
        Nat.add_sub_cancel_left]
      omega

theorem suffixChars_injective : Function.Injective suffixChars := by
  intro n n' h
  have hvalue := congrArg letterValue h
  rw [letterValue_suffixChars, letterValue_suffixChars] at hvalue
  exact Nat.succ.inj hvalue

/-! ## Labels -/

theorem toList_label (name : String) (n : Nat) :
    (label name n).toList = name.toList ++ ' ' :: suffixChars n := by
  simp [label, suffix]

/-- Where a separator stands last in two lists, they are cut at it alike. -/
theorem append_cons_inj {α : Type} {c : α} {xs xs' ys ys' : List α} (hy : c ∉ ys) (hy' : c ∉ ys')
    (h : xs ++ c :: ys = xs' ++ c :: ys') : xs = xs' ∧ ys = ys' := by
  rcases List.append_eq_append_iff.1 h with ⟨as, rfl, has⟩ | ⟨as, rfl, has⟩
  · cases as with
    | nil => exact ⟨(List.append_nil xs).symm, (List.cons.inj has).2⟩
    | cons a as =>
        have hmem : c ∈ ys := by
          rw [(List.cons.inj has).2]
          exact List.mem_append_right as List.mem_cons_self
        exact absurd hmem hy
  · cases as with
    | nil => exact ⟨List.append_nil xs', (List.cons.inj has).2.symm⟩
    | cons a as =>
        have hmem : c ∈ ys' := by
          rw [(List.cons.inj has).2]
          exact List.mem_append_right as List.mem_cons_self
        exact absurd hmem hy'

/-- A label tells its display name and its number. -/
theorem label_inj (h : label name n = label name' n') : name = name' ∧ n = n' := by
  have hchars := congrArg String.toList h
  rw [toList_label, toList_label] at hchars
  obtain ⟨hname, hsuffix⟩ :=
    append_cons_inj (blank_notMem_suffixChars n) (blank_notMem_suffixChars n') hchars
  exact ⟨String.toList_inj.1 hname, suffixChars_injective hsuffix⟩

theorem label_injective (name : String) : Function.Injective (label name) :=
  fun _ _ h => (label_inj h).2

/-! ## The search for a free number -/

/-- The first number from `start` on whose label is not taken. -/
structure IsFirstFree (taken : Index) (name : String) (start n : Nat) : Prop where
  start_le : start ≤ n
  free : label name n ∉ taken.map (·.1)
  first : ∀ k, start ≤ k → k < n → label name k ∈ taken.map (·.1)

theorem any_label_iff :
    (taken.any fun entry => entry.1 == label name n) = true ↔ label name n ∈ taken.map (·.1) := by
  rw [List.any_eq_true, List.mem_map]
  exact exists_congr fun entry => and_congr_right fun _ => beq_iff_eq

/-- An index has fewer names than there are labels to try, and so one of these is free. -/
theorem exists_free (taken : Index) (name : String) (start : Nat) :
    ∃ n ∈ List.range' start (taken.length + 1), label name n ∉ taken.map (·.1) := by
  by_contra hall
  have hsub : (List.range' start (taken.length + 1)).map (label name) ⊆ taken.map (·.1) := by
    intro key hkey
    obtain ⟨n, hn, rfl⟩ := List.mem_map.1 hkey
    by_contra hfree
    exact hall ⟨n, hn, hfree⟩
  have hnodup : ((List.range' start (taken.length + 1)).map (label name)).Nodup :=
    List.Nodup.map (label_injective name) List.nodup_range'
  have hlength := (hnodup.subperm hsub).length_le
  rw [List.length_map, List.length_map, List.length_range'] at hlength
  exact Nat.not_succ_le_self _ hlength

/-- The search for a free number ends with the first one, whatever is taken. -/
theorem isFirstFree_freeNumber (taken : Index) (name : String) (start : Nat) :
    IsFirstFree taken name start (freeNumber taken name start) := by
  unfold freeNumber
  cases hfind : (List.range' start (taken.length + 1)).find? fun n =>
      !taken.any fun entry => entry.1 == label name n with
  | none =>
      obtain ⟨n, hn, hfree⟩ := exists_free taken name start
      have htaken := List.find?_eq_none.1 hfind n hn
      rw [Bool.not_eq_true', Bool.not_eq_false, any_label_iff] at htaken
      exact absurd htaken hfree
  | some n =>
      obtain ⟨hfree, hmem, hfirst⟩ := List.find?_range'_eq_some.1 hfind
      rw [Bool.not_eq_true', ← Bool.not_eq_true, any_label_iff] at hfree
      refine ⟨(List.mem_range'_1.1 hmem).1, hfree, fun k hstart hk => ?_⟩
      have htaken := hfirst k hstart hk
      rwa [Bool.not_not, any_label_iff] at htaken

end Typology.Alias
