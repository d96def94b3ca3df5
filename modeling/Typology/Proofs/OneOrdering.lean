import Typology.Proofs.Guarding
import Typology.Proofs.Ordering
import Mathlib.Data.List.Lex
import Mathlib.Data.String.Basic

/-!
# The ordering behind the comparisons

The six comparisons of a value with a right side fail alike, or answer from one ordering of the two.
Lists of whole numbers and lists of texts always have one: the lexicographic order, which is total.
-/

namespace Typology

/-- The outcome of the comparison of a value with a right side under a mode. -/
def Value.compared (x right : Value) (mode : Mode) : Except TransformError Value :=
  (Predicate.comparison mode right).toTransformation.apply (.value x)

/-- Answers under the six modes that go together: one of less, equal and greater holds, and the
other modes are the negations of these. -/
structure Mode.Coherent (answer : Mode → Bool) : Prop where
  one : [lt, eq, gt].countP answer = 1
  neq : answer neq = !answer eq
  geq : answer geq = !answer lt
  leq : answer leq = !answer gt

/-- Outcomes under the six modes that come from at most one ordering. -/
inductive ReadsOneOrdering : (Mode → Except TransformError Value) → Prop where
  | incomparable (left right : Value) :
      ReadsOneOrdering fun _ => .error (.incomparable left right)
  | ordered {answer : Mode → Bool} : Mode.Coherent answer →
      ReadsOneOrdering fun mode => .ok (.single (.bool (answer mode)))

/-- Lists of one kind of items always compare, in lexicographic order, and so are totally
ordered. -/
structure Lexicographic {α : Type} [LT α] (item : α → Primitive) : Prop where
  compared (left right : List α) : ∃ answer, Mode.Coherent answer ∧
    (∀ mode, Value.compared (.list (left.map item)) (.list (right.map item)) mode =
      .ok (.single (.bool (answer mode)))) ∧
    (answer .lt = true ↔ List.Lex (· < ·) left right) ∧ (answer .eq = true ↔ left = right) ∧
    (answer .gt = true ↔ List.Lex (· < ·) right left)
  isLinearOrder : IsLinearOrder (List α) fun left right =>
    Value.compared (.list (left.map item)) (.list (right.map item)) .leq =
      .ok (.single (.bool true))

/-- The order of whole numbers of 64 bits. -/
instance instLinearOrderWord : LinearOrder Int64 where
  le_refl := Int64.le_refl
  le_trans _ _ _ := Int64.le_trans
  le_antisymm _ _ := Int64.le_antisymm
  le_total := Int64.le_total
  lt_iff_le_not_ge a b := by
    simp only [Int64.le_iff_toInt_le, Int64.lt_iff_toInt_lt]
    omega
  toDecidableLE := inferInstance

variable {x right v w : Value} {mode : Mode} {o : Ordering} {p q : Primitive}
variable {l r : List Primitive} {source : TransformError}

/-! ## One ordering for all modes -/

theorem Mode.coherent_accepts (o : Ordering) : Coherent fun mode => mode.accepts o := by
  cases o <;> exact ⟨rfl, rfl, rfl, rfl⟩

theorem Value.compared_eq (x right : Value) (mode : Mode) :
    x.compared right mode =
      (Predicate.orderValues x right).map fun o => .single (.bool (mode.accepts o)) := by
  have htest : (Predicate.comparison mode right).test x =
      (Predicate.orderValues x right).map mode.accepts := rfl
  rw [compared, Predicate.toTransformation, Transformation.ofTest_apply_value, htest]
  cases Predicate.orderValues x right <;> rfl

namespace Predicate

theorem orderScalars_error (h : orderScalars p q = .error source) :
    ∃ v w, source = .incomparable v w := by
  unfold orderScalars at h
  dsimp only at h
  split at h <;> cases h
  exact ⟨_, _, rfl⟩

theorem orderLists_error (h : orderLists l r = .error source) :
    ∃ v w, source = .incomparable v w := by
  induction l generalizing r with
  | nil => cases r <;> cases h
  | cons p l ih =>
      cases r with
      | nil => cases h
      | cons q r =>
          rw [orderLists] at h
          split at h
          · exact ih h
          · cases h
          · cases h
            exact ⟨_, _, rfl⟩

theorem orderValues_error (h : orderValues v w = .error source) :
    ∃ v w, source = .incomparable v w := by
  unfold orderValues at h
  split at h
  · exact orderScalars_error h
  · exact orderScalars_error h
  · exact orderLists_error h
  · cases h
    exact ⟨_, _, rfl⟩

end Predicate

theorem Value.readsOneOrdering (x right : Value) : ReadsOneOrdering (x.compared right) := by
  cases h : Predicate.orderValues x right with
  | error source =>
      obtain ⟨v, w, rfl⟩ := Predicate.orderValues_error h
      have hcompared : x.compared right = fun _ => .error (.incomparable v w) := by
        funext mode
        rw [compared_eq, h]
        rfl
      rw [hcompared]
      exact .incomparable v w
  | ok o =>
      have hcompared : x.compared right = fun mode => .ok (.single (.bool (mode.accepts o))) := by
        funext mode
        rw [compared_eq, h]
        rfl
      rw [hcompared]
      exact .ordered (Mode.coherent_accepts o)

/-! ## Lists of one kind of items -/

theorem compareWords_compares (a b : Int64) : (compareWords a b).Compares a b := by
  unfold compareWords
  cases h : compare a.toInt b.toInt with
  | lt => exact Int64.lt_iff_toInt_lt.2 (Int.compare_eq_lt.1 h)
  | eq => exact Int64.toInt_inj.1 (Int.compare_eq_eq.1 h)
  | gt => exact Int64.lt_iff_toInt_lt.2 (Int.compare_eq_gt.1 h)

theorem compareTexts_compares (a b : String) : (compareTexts a b).Compares a b := by
  unfold compareTexts
  split
  · assumption
  · rename_i hlt
    split
    · assumption
    · rename_i hne
      exact lt_of_le_of_ne (le_of_not_gt hlt) (Ne.symm hne)

section Items

variable {α : Type} [LinearOrder α] {item : α → Primitive}

theorem Predicate.orderLists_map
    (h : ∀ a b, ∃ o, (item a).compareValues (item b) = some o ∧ o.Compares a b)
    (left right : List α) :
    ∃ o, orderLists (left.map item) (right.map item) = .ok o ∧ o.Compares left right := by
  induction left generalizing right with
  | nil =>
      cases right with
      | nil => exact ⟨.eq, rfl, rfl⟩
      | cons b right => exact ⟨.lt, rfl, List.Lex.nil⟩
  | cons a left ih =>
      cases right with
      | nil => exact ⟨.gt, rfl, List.Lex.nil⟩
      | cons b right =>
          obtain ⟨o, ho, hab⟩ := h a b
          rw [List.map_cons, List.map_cons, orderLists, ho]
          cases o with
          | lt => exact ⟨.lt, rfl, List.Lex.rel hab⟩
          | gt => exact ⟨.gt, rfl, List.Lex.rel hab⟩
          | eq =>
              -- equal items leave the order to the items behind them
              obtain rfl : a = b := hab
              obtain ⟨o, ho, hcompares⟩ := ih right
              refine ⟨o, ho, ?_⟩
              cases o with
              | lt => exact List.Lex.cons hcompares
              | eq => exact congrArg (a :: ·) hcompares
              | gt => exact List.Lex.cons hcompares

theorem lexicographic_of_compares
    (h : ∀ a b, ∃ o, (item a).compareValues (item b) = some o ∧ o.Compares a b) :
    Lexicographic item := by
  have hread : ∀ left right : List α, ∃ o : Ordering, o.Compares left right ∧
      ∀ mode, Value.compared (.list (left.map item)) (.list (right.map item)) mode =
        .ok (.single (.bool (mode.accepts o))) := by
    intro left right
    obtain ⟨o, ho, hcompares⟩ := Predicate.orderLists_map h left right
    refine ⟨o, hcompares, ?_⟩
    intro mode
    have hvalues : Predicate.orderValues (.list (left.map item)) (.list (right.map item)) = .ok o :=
      ho
    rw [Value.compared_eq, hvalues]
    rfl
  constructor
  · intro left right
    obtain ⟨o, hcompares, hmode⟩ := hread left right
    refine ⟨_, Mode.coherent_accepts o, hmode, ?_, ?_, ?_⟩
    · exact beq_iff_eq.trans hcompares.eq_lt
    · exact beq_iff_eq.trans hcompares.eq_eq
    · exact beq_iff_eq.trans hcompares.eq_gt
  · have hle : (fun left right : List α =>
        Value.compared (.list (left.map item)) (.list (right.map item)) .leq =
          .ok (.single (.bool true))) = fun left right => left ≤ right := by
      funext left right
      obtain ⟨o, hcompares, hmode⟩ := hread left right
      rw [hmode, ← hcompares.ne_gt]
      simp [Mode.accepts]
    rw [hle]
    infer_instance

end Items

/-- The six comparisons of a value with a right side fail alike or answer from one ordering. Lists
of whole numbers and lists of texts are ordered lexicographically, and totally. -/
theorem compared_oneOrdering :
    (∀ x right : Value, ReadsOneOrdering (x.compared right)) ∧ Lexicographic Primitive.int ∧
      Lexicographic Primitive.text := by
  refine ⟨Value.readsOneOrdering, ?_, ?_⟩
  · exact lexicographic_of_compares fun a b => ⟨_, rfl, compareWords_compares a b⟩
  · exact lexicographic_of_compares fun a b => ⟨_, rfl, compareTexts_compares a b⟩

end Typology
