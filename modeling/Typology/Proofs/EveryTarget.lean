import Typology.Proofs.ElementCount
import Typology.Proofs.FloatDistance

/-!
# Asking for every target

A question for all targets counts the items of a list that occur among the targets, and asks for as
many as there are targets. That every target occurs in the list is another matter: an item that is
there twice counts twice, and a target that is given twice is asked for twice. Where no value is
equal to two of the other side, the two come to the same.
-/

namespace Typology

/-! ## Counting both sides of a relation -/

section Counting

variable {α β : Type} {R : α → β → Bool} {xs : List α} {ys : List β}

theorem countP_or_of_disjoint {p q : β → Bool} (h : ∀ y ∈ ys, ¬(p y = true ∧ q y = true)) :
    ys.countP (fun y => p y || q y) = ys.countP p + ys.countP q := by
  induction ys with
  | nil => rfl
  | cons y ys ih =>
      rw [List.countP_cons, List.countP_cons, List.countP_cons,
        ih fun z hz => h z (List.mem_cons_of_mem _ hz)]
      have hy := h y List.mem_cons_self
      cases hp : p y <;> cases hq : q y <;> simp_all <;> omega

/-- If nothing in `ys` is related to two entries of `xs`, there are at least as many related
entries in `ys` as in `xs`. -/
theorem countP_any_le_countP_any
    (h : xs.Pairwise fun a b => ∀ y ∈ ys, ¬(R a y = true ∧ R b y = true)) :
    xs.countP (fun x => ys.any (R x)) ≤ ys.countP fun y => xs.any (R · y) := by
  induction xs with
  | nil => exact Nat.zero_le _
  | cons x xs ih =>
      obtain ⟨hx, hxs⟩ := List.pairwise_cons.1 h
      have hdisjoint : ∀ y ∈ ys, ¬(R x y = true ∧ xs.any (R · y) = true) := by
        rintro y hy ⟨hxy, hany⟩
        obtain ⟨z, hz, hzy⟩ := List.any_eq_true.1 hany
        exact hx z hz y hy ⟨hxy, hzy⟩
      have hsum : ys.countP (fun y => (x :: xs).any (R · y)) =
          ys.countP (R x) + ys.countP fun y => xs.any (R · y) := countP_or_of_disjoint hdisjoint
      have hrest := ih hxs
      rw [List.countP_cons, hsum]
      split
      · rename_i hany
        have hpos : 0 < ys.countP (R x) := List.countP_pos_iff.2 (List.any_eq_true.1 hany)
        omega
      · omega

end Counting

/-! ## Lists of values -/

/-- No value of the first list is equal to two entries of the second. -/
def Distinguishes (values others : List Primitive) : Prop :=
  others.Pairwise fun a b => ∀ v ∈ values, ¬(v.valuesEqual a = true ∧ v.valuesEqual b = true)

variable {items targets : List Primitive}

/-- Without floats it is enough that the second list does not repeat a value. -/
theorem Distinguishes.of_nodup (hitems : ∀ v ∈ items, v.shape ≠ .float)
    (htargets : ∀ t ∈ targets, t.shape ≠ .float) (h : targets.Nodup) :
    Distinguishes items targets := by
  refine List.Pairwise.imp_of_mem (fun {a b} ha hb hne v hv => ?_) h
  rw [Primitive.valuesEqual_of_ne_float (hitems v hv) (htargets a ha),
    Primitive.valuesEqual_of_ne_float (hitems v hv) (htargets b hb), beq_iff_eq, beq_iff_eq]
  rintro ⟨rfl, rfl⟩
  exact hne rfl

/-- Whether a target occurs in a list. -/
def Occurs (items : List Primitive) (target : Primitive) : Bool :=
  items.any fun item => target.valuesEqual item

theorem superset_holds_iff :
    SetRelation.superset.holds items targets = true ↔ ∀ t ∈ targets, Occurs items t = true :=
  List.all_eq_true

theorem test_superset (items targets : List Primitive) :
    (Predicate.setComparison .superset targets).test (.list items) =
      .ok (SetRelation.superset.holds items targets) := rfl

theorem length_intersection (items targets : List Primitive) :
    (intersection items targets).length =
      items.countP fun item => targets.any fun target => target.valuesEqual item := by
  rw [intersection, ← List.countP_eq_length_filter]
  simp only [Primitive.valuesEqual_comm]

/-- If every target occurs and no item is equal to two of them, there are enough items. -/
theorem length_le_of_occurs (hitems : Distinguishes items targets)
    (h : ∀ t ∈ targets, Occurs items t = true) :
    targets.length ≤ (intersection items targets).length := by
  have hle : targets.countP (Occurs items) ≤ (intersection items targets).length := by
    rw [length_intersection]
    refine countP_any_le_countP_any (hitems.imp fun hab v hv heq => hab v hv ?_)
    rwa [v.valuesEqual_comm, v.valuesEqual_comm]
  rwa [List.countP_eq_length.2 h] at hle

/-- If there are enough items and no target is equal to two of them, every target occurs. -/
theorem occurs_of_length_le (htargets : Distinguishes targets items)
    (h : targets.length ≤ (intersection items targets).length) :
    ∀ t ∈ targets, Occurs items t = true := by
  have hle : (intersection items targets).length ≤ targets.countP (Occurs items) := by
    rw [length_intersection]
    exact countP_any_le_countP_any htargets
  exact List.countP_eq_length.1 (Nat.le_antisymm List.countP_le_length (Nat.le_trans h hle))

/-! ## The question -/

namespace FieldQuery

variable {q : FieldQuery} {field word : String} {k : Nat} {s : LanguageSet} {quorum : Quorum}
variable {m : Matches} {l : Language}

theorem ofList_all (h : Mode.isAll word = true) :
    ofList field word k targets = .ok (list field .geq targets.length targets) := by
  rw [ofList, if_pos h]

theorem accepted_all_iff :
    Accepted .geq targets.length targets items = true ↔
      targets.length ≤ (intersection items targets).length := by
  rw [← Nat.compare_ne_lt]
  simp [Accepted, Mode.accepts]

theorem all_matches_iff_length (hword : Mode.isAll word = true)
    (hq : ofList field word k targets = .ok q) (hrun : q.run s quorum = .ok m)
    (hl : l ∈ s.languages) (hvalue : l.get? field = some (.list items)) :
    l ∈ m.languages.languages ↔ targets.length ≤ (intersection items targets).length := by
  cases (ofList_all hword).symm.trans hq
  rw [mem_languages_of_run rfl hrun, cause?_list hvalue, ← accepted_all_iff]
  cases Accepted .geq targets.length targets items <;> simp [hl]

/-- A language with every target matches, unless an item is equal to two targets; and a language
that matches has every target, unless a target is equal to two of its items. -/
theorem all_matches_occurs (hword : Mode.isAll word = true)
    (hq : ofList field word k targets = .ok q) (hrun : q.run s quorum = .ok m)
    (hl : l ∈ s.languages) (hvalue : l.get? field = some (.list items)) :
    ((Predicate.setComparison .superset targets).test (.list items) = .ok true ↔
      ∀ t ∈ targets, Occurs items t = true) ∧
    (Distinguishes items targets → (∀ t ∈ targets, Occurs items t = true) →
      l ∈ m.languages.languages) ∧
    (Distinguishes targets items → l ∈ m.languages.languages →
      ∀ t ∈ targets, Occurs items t = true) := by
  have hiff := all_matches_iff_length hword hq hrun hl hvalue
  refine ⟨?_, fun hitems h => ?_, fun htargets h => ?_⟩
  · rw [test_superset, Except.ok.injEq, superset_holds_iff]
  · exact hiff.2 (length_le_of_occurs hitems h)
  · exact occurs_of_length_le htargets (hiff.1 h)

/-- A language with the given consonants. -/
def yoruba (items : List Primitive) : Language :=
  .sample ⟨"Yoruba", "Ada", "a2"⟩ [("consonants", .list items)] (by cbv)

/-- The set of this language only. -/
def withConsonants (items : List Primitive) : LanguageSet := .ofUnique [yoruba items]

set_option maxRecDepth 100000 in
theorem all_matches_occurs_consonants :
    Mode.isAll " All" = true ∧
    ∃ q m, ofList "consonants" " All" 0 [.text "gb", .text "k"] = .ok q ∧
      q.run (withConsonants [.text "k", .text "b", .text "gb"]) .half = .ok m ∧
      yoruba [.text "k", .text "b", .text "gb"] ∈
        (withConsonants [.text "k", .text "b", .text "gb"]).languages ∧
      (yoruba [.text "k", .text "b", .text "gb"]).get? "consonants" =
        some (.list [.text "k", .text "b", .text "gb"]) ∧
      Distinguishes [.text "k", .text "b", .text "gb"] [.text "gb", .text "k"] ∧
      Distinguishes [.text "gb", .text "k"] [.text "k", .text "b", .text "gb"] ∧
      (yoruba [.text "k", .text "b", .text "gb"] ∈ m.languages.languages ↔
        ∀ t ∈ [.text "gb", .text "k"], Occurs [.text "k", .text "b", .text "gb"] t = true) := by
  have hword : Mode.isAll " All" = true := by decide
  have hitems : Distinguishes [.text "k", .text "b", .text "gb"] [.text "gb", .text "k"] :=
    .of_nodup (by decide) (by decide) (by decide)
  have htargets : Distinguishes [.text "gb", .text "k"] [.text "k", .text "b", .text "gb"] :=
    .of_nodup (by decide) (by decide) (by decide)
  obtain ⟨m, hrun⟩ : ∃ m, (list "consonants" .geq 2 [.text "gb", .text "k"]).run
      (withConsonants [.text "k", .text "b", .text "gb"]) .half = .ok m := ⟨_, rfl⟩
  have hl : yoruba [.text "k", .text "b", .text "gb"] ∈
      (withConsonants [.text "k", .text "b", .text "gb"]).languages := List.mem_cons_self
  have hvalue : (yoruba [.text "k", .text "b", .text "gb"]).get? "consonants" =
      some (.list [.text "k", .text "b", .text "gb"]) := rfl
  have hq : ofList "consonants" " All" 0 [.text "gb", .text "k"] =
      .ok (list "consonants" .geq 2 [.text "gb", .text "k"]) := ofList_all hword
  have h := all_matches_occurs hword hq hrun hl hvalue
  exact ⟨hword, _, m, hq, hrun, hl, hvalue, hitems, htargets, h.2.2 htargets,
    h.2.1 hitems⟩

set_option maxRecDepth 100000 in
/-- An item that is there twice makes up for a missing target, and a target that is given twice is
not met by the item that it is equal to. -/
theorem all_matches_repetition :
    (∃ q m, ofList "consonants" "all" 0 [.text "p", .text "t"] = .ok q ∧
      q.run (withConsonants [.text "p", .text "p"]) .half = .ok m ∧
      m.languages.languages = (withConsonants [.text "p", .text "p"]).languages ∧
      (Predicate.setComparison .superset [.text "p", .text "t"]).test
        (.list [.text "p", .text "p"]) = .ok false) ∧
    ∃ q m, ofList "consonants" "all" 0 [.text "p", .text "p"] = .ok q ∧
      q.run (withConsonants [.text "p"]) .half = .ok m ∧ m.languages.languages = [] ∧
      (Predicate.setComparison .superset [.text "p", .text "p"]).test (.list [.text "p"]) =
        .ok true :=
  ⟨⟨_, _, rfl, rfl, rfl, rfl⟩, _, _, rfl, rfl, rfl, rfl⟩

end FieldQuery

end Typology
