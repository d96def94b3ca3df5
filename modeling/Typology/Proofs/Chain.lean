import Mathlib.Data.List.Basic

/-!
# Chains of numbered steps

A chain carries out steps from left to right, each under its number, up to the first that fails.
The evaluation of a query is one, and so is what its steps make of a single language.
-/

namespace Typology

variable {σ α ε : Type} {f : Nat → α → σ → Except ε α} {n : Nat} {s : σ} {steps rest : List σ}
variable {a a' : α} {error : ε}

theorem bind_eq_ok {β : Type} {x : Except ε α} {g : α → Except ε β} {b : β} (h : x.bind g = .ok b) :
    ∃ a, x = .ok a ∧ g a = .ok b := by
  cases x with
  | error error => cases h
  | ok a => exact ⟨a, rfl, h⟩

theorem bind_eq_error {β : Type} {x : Except ε α} {g : α → Except ε β}
    (h : x.bind g = .error error) : x = .error error ∨ ∃ a, x = .ok a ∧ g a = .error error := by
  cases x with
  | error error' =>
      cases h
      exact .inl rfl
  | ok a => exact .inr ⟨a, rfl, h⟩

/-- Carries out steps, the first of them under the given number. -/
def chain (f : Nat → α → σ → Except ε α) : Nat → List σ → α → Except ε α
  | _, [], a => .ok a
  | n, s :: rest, a => (f n a s).bind (chain f (n + 1) rest)

theorem chain_cons_ok (h : f n a s = .ok a') :
    chain f n (s :: rest) a = chain f (n + 1) rest a' := by
  rw [chain, h]
  rfl

theorem chain_cons_error (h : f n a s = .error error) : chain f n (s :: rest) a = .error error := by
  rw [chain, h]
  rfl

theorem chain_cons_eq_ok (h : chain f n (s :: rest) a = .ok a') :
    ∃ a₁, f n a s = .ok a₁ ∧ chain f (n + 1) rest a₁ = .ok a' :=
  bind_eq_ok h

theorem chain_append (f : Nat → α → σ → Except ε α) (n : Nat) (before after : List σ) (a : α) :
    chain f n (before ++ after) a =
      (chain f n before a).bind (chain f (n + before.length) after) := by
  induction before generalizing n a with
  | nil => rfl
  | cons s before ih =>
      cases hs : f n a s with
      | error error =>
          rw [List.cons_append, chain_cons_error hs, chain_cons_error hs]
          rfl
      | ok a₁ =>
          rw [List.cons_append, chain_cons_ok hs, chain_cons_ok hs, ih, List.length_cons,
            Nat.add_right_comm]
          rfl

theorem chain_append_eq_ok {before after : List σ} (h : chain f n (before ++ after) a = .ok a') :
    ∃ a₁, chain f n before a = .ok a₁ ∧ chain f (n + before.length) after a₁ = .ok a' := by
  rw [chain_append] at h
  exact bind_eq_ok h

/-- A chain fails by a step that it reaches. -/
theorem chain_error_iff :
    chain f n steps a = .error error ↔
      ∃ before s after a₁, steps = before ++ s :: after ∧ chain f n before a = .ok a₁ ∧
        f (n + before.length) a₁ s = .error error := by
  constructor
  · intro h
    induction steps generalizing n a with
    | nil => cases h
    | cons s rest ih =>
        cases hs : f n a s with
        | error fault =>
            rw [chain_cons_error hs] at h
            cases h
            exact ⟨[], s, rest, a, rfl, rfl, hs⟩
        | ok a₁ =>
            rw [chain_cons_ok hs] at h
            obtain ⟨before, s', after, a₂, rfl, hbefore, hfail⟩ := ih h
            refine ⟨s :: before, s', after, a₂, rfl, (chain_cons_ok hs).trans hbefore, ?_⟩
            rwa [List.length_cons, ← Nat.add_assoc, Nat.add_right_comm]
  · rintro ⟨before, s, after, a₁, rfl, hbefore, hfail⟩
    rw [chain_append, hbefore]
    exact chain_cons_error hfail

end Typology
