import Typology.Decimal.Reading

/-!
# Numbers and their digits

A whole number of 64 bits is read again from the digits that it is shown with. What is read as a
number consists of digits with at most a sign in front.
-/

namespace Typology

namespace Decimal

variable {text digits : List Char} {n : Int64}

theorem fitsWord_toInt (n : Int64) : fitsWord n.toInt = true := by
  have hlow := n.le_toInt
  have hhigh := n.toInt_lt
  exact decide_eq_true ⟨by omega, by omega⟩

theorem valueOf_toDigits (n : Nat) : valueOf (Nat.toDigits 10 n) = n := by
  rw [valueOf, ← Nat.ofDigitChars_eq_foldl, Nat.ofDigitChars_ten_toDigits]

theorem splitSign_of_isDigit (h : ∀ c ∈ digits, c.isDigit = true) :
    splitSign digits = (false, digits) := by
  unfold splitSign
  split
  · exact absurd (h '-' List.mem_cons_self) (by decide)
  · exact absurd (h '+' List.mem_cons_self) (by decide)
  · rfl

theorem isDigit_of_mem_toDigits {n : Nat} : ∀ c ∈ Nat.toDigits 10 n, c.isDigit = true :=
  fun _ => Nat.isDigit_of_mem_toDigits (by decide) (by decide)

/-- A number is read from the digits that it is shown with, behind a minus if it has one. -/
theorem word?_of_splitSign {negative : Bool} {m : Nat}
    (h : splitSign text = (negative, Nat.toDigits 10 m))
    (hn : n.toInt = if negative then -(m : Int) else m) : word? text = some n := by
  have hdigits : ¬((Nat.toDigits 10 m).isEmpty = true ∨ ¬(Nat.toDigits 10 m).all Char.isDigit) := by
    simp [List.all_eq_true.2 isDigit_of_mem_toDigits]
  simp only [word?, h, if_neg hdigits, valueOf_toDigits, ← hn, fitsWord_toInt, if_true,
    Int64.ofInt_toInt]

theorem word?_toString (n : Int64) : word? (toString n.toInt).toList = some n := by
  rw [Int.toString_eq_repr, Int.repr_eq_if]
  split
  · rename_i hnonneg
    rw [Nat.toList_repr]
    exact word?_of_splitSign (splitSign_of_isDigit isDigit_of_mem_toDigits)
      (Int.toNat_of_nonneg hnonneg).symm
  · rename_i hneg
    rw [String.toList_append, Nat.toList_repr]
    have hsplit : splitSign ('-' :: Nat.toDigits 10 (-n.toInt).toNat) =
        (true, Nat.toDigits 10 (-n.toInt).toNat) := rfl
    have hn : n.toInt = -((-n.toInt).toNat : Int) := by omega
    exact word?_of_splitSign hsplit hn

theorem isDigit_or_sign_of_word? (h : word? text = some n) :
    ∀ c ∈ text, c.isDigit = true ∨ c = '+' ∨ c = '-' := by
  have hdigits : ∀ c ∈ (splitSign text).2, c.isDigit = true := by
    unfold word? at h
    dsimp only at h
    split at h
    · cases h
    · rename_i hgood
      rw [not_or, Classical.not_not] at hgood
      exact List.all_eq_true.1 hgood.2
  intro c hc
  unfold splitSign at hdigits
  split at hdigits
  · rcases List.mem_cons.1 hc with rfl | hc
    · exact .inr (.inr rfl)
    · exact .inl (hdigits c hc)
  · rcases List.mem_cons.1 hc with rfl | hc
    · exact .inr (.inl rfl)
    · exact .inl (hdigits c hc)
  · exact .inl (hdigits c hc)

end Decimal

end Typology
