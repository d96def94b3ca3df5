import Typology.Text.Utf8
import Mathlib.Data.List.Basic

/-!
# Texts in the order of their bytes

Texts are ordered by their characters. Written as UTF-8 they stand in the same order: the bytes of a
larger character are larger at the first place where they differ, and begin no other character.
-/

namespace Typology.Text

/-- The bytes of a smaller character come first, whatever stands after them. -/
theorem utf8EncodeChar_append_lt {c d : Char} (h : c < d) (xs ys : List UInt8) :
    String.utf8EncodeChar c ++ xs < String.utf8EncodeChar d ++ ys := by
  have hlt : c.val.toNat < d.val.toNat := h
  have hd : d.val.toNat < 0x110000 := by
    rcases d.valid with hvalid | hvalid <;> omega
  unfold String.utf8EncodeChar
  generalize c.val.toNat = m at hlt ⊢
  generalize d.val.toNat = n at hlt hd ⊢
  have hdigits : ∀ i < 0x110000, i / 64 / 64 = i / 4096 ∧ i / 4096 / 64 = i / 262144 ∧
      i / 262144 % 8 = i / 262144 := fun i hi =>
    ⟨Nat.div_div_eq_div_mul i 64 64, Nat.div_div_eq_div_mul i 4096 64,
      Nat.mod_eq_of_lt (by omega)⟩
  have hm := hdigits m (Nat.lt_trans hlt hd)
  have hn := hdigits n hd
  dsimp only
  -- one case for each pair of lengths; the digits of the two numbers settle it
  repeat' split
  all_goals
    simp (disch := simp only [UInt8.size]; omega) only [List.cons_append, List.nil_append,
      List.cons_lt_cons_iff, UInt8.ofNat_lt_iff_lt, ← UInt8.toNat_inj, UInt8.toNat_ofNat_of_lt']
    omega

theorem utf8EncodeChar_ne_nil (c : Char) : String.utf8EncodeChar c ≠ [] := by
  unfold String.utf8EncodeChar
  dsimp only
  repeat' split
  all_goals exact List.cons_ne_nil _ _

theorem encodeUtf8_lt {s t : List Char} (h : s < t) : encodeUtf8 s < encodeUtf8 t := by
  induction s generalizing t with
  | nil =>
      cases t with
      | nil => exact absurd h (List.lt_irrefl [])
      | cons d t =>
          obtain ⟨byte, bytes, hbytes⟩ := List.exists_cons_of_ne_nil (utf8EncodeChar_ne_nil d)
          rw [encodeUtf8, encodeUtf8, List.flatMap_nil, List.flatMap_cons, hbytes]
          exact List.nil_lt_cons _ _
  | cons c s ih =>
      cases t with
      | nil => exact absurd h (List.not_lt_nil _)
      | cons d t =>
          rw [encodeUtf8, encodeUtf8, List.flatMap_cons, List.flatMap_cons]
          rcases List.cons_lt_cons_iff.1 h with hcd | ⟨rfl, hst⟩
          · exact utf8EncodeChar_append_lt hcd _ _
          · exact List.append_left_lt (ih hst)

/-- The UTF-8 bytes of a text. -/
def bytes (text : String) : List UInt8 := encodeUtf8 text.toList

/-- Texts in order are in the order of their bytes. -/
theorem bytes_lt {a b : String} (h : a < b) : bytes a < bytes b := encodeUtf8_lt h

end Typology.Text
