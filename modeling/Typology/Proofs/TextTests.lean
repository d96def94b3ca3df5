import Typology.Proofs.Building
import Typology.Proofs.Guarding
import Typology.Proofs.Reencoding
import Typology.Proofs.StandardRegistry

/-!
# Tests on texts, asked for by tokens

A token that asks for a test on texts is read as a value first. A text that reads as itself is
looked for as it was sent. One that reads as a bool or a number cannot be looked for in a text at
all, and as a place to look in it counts as it is shown: without a plus sign, leading zeros or
capitals that were sent.
-/

namespace Typology

/-! ## Texts and their readings -/

namespace Primitive

variable {chars : List Char}

/-- A text that stands for no bool and for no number of 64 bits. -/
def ReadsAsText (chars : List Char) : Prop :=
  (∀ b, chars.map Char.toLower ≠ (boolText b).toList) ∧ Decimal.word? chars = none

/-- A text that is spelled as the value that it stands for is shown. -/
def ShownAsSent (chars : List Char) : Prop :=
  ReadsAsText chars ∨ (∃ b, chars = (boolText b).toList) ∨
    ∃ n : Int64, chars = (toString n.toInt).toList

theorem coerce_eq_text_iff :
    coerce chars = .text (String.ofList chars) ↔ ReadsAsText chars := by
  constructor
  · intro h
    constructor
    · intro b hb
      have hcoerce : coerce chars = .bool b := by
        rw [coerce, hb]
        cases b <;> rfl
      cases hcoerce.symm.trans h
    · rw [Option.eq_none_iff_forall_ne_some]
      intro n hn
      cases (coerce_of_word? hn).symm.trans h
  · rintro ⟨hbool, hword⟩
    rcases coerce_cases chars with ⟨b, hb, -⟩ | ⟨n, hn, -⟩ | hcoerce
    · exact absurd hb (hbool b)
    · cases hword.symm.trans hn
    · exact hcoerce

theorem exists_coerce_of_not_readsAsText (h : ¬ReadsAsText chars) :
    (∃ b, coerce chars = .bool b) ∨ ∃ n, coerce chars = .int n := by
  rcases coerce_cases chars with ⟨b, -, hcoerce⟩ | ⟨n, -, hcoerce⟩ | hcoerce
  · exact .inl ⟨b, hcoerce⟩
  · exact .inr ⟨n, hcoerce⟩
  · exact absurd (coerce_eq_text_iff.1 hcoerce) h

theorem ShownAsSent.respell_eq (h : ShownAsSent chars) : respell chars = chars := by
  rcases h with h | ⟨b, rfl⟩ | ⟨n, rfl⟩
  · exact respell_of_text (coerce_eq_text_iff.2 h)
  · cases b <;> rfl
  · exact respell_of_int (coerce_of_word? (Decimal.word?_toString n))

end Primitive

/-- The texts that a token sends: those between delimiters, as far as they are not empty, or the
whole of a text without a delimiter. -/
def Text.sent (delimiter raw : String) : List (List Char) :=
  if Text.contains raw delimiter then segments delimiter.toList raw.toList else [raw.toList]

theorem Value.elements_coerce {delimiter : String} (h : delimiter ≠ "") (raw : String) :
    (coerce raw delimiter).elements = (Text.sent delimiter raw).map Primitive.coerce := by
  cases hraw : Text.contains raw delimiter with
  | false =>
      rw [coerce_of_not_contains hraw, Text.sent, hraw]
      rfl
  | true =>
      rw [coerce_of_contains h hraw, Text.sent, hraw]
      rfl

/-! ## The tests -/

/-- A transformation tests texts: it answers whether `holds` is true of a text. -/
def Transformation.TestsText (t : Transformation) (holds : List Char → Prop) : Prop :=
  ∀ text : String, ∃ b, t.apply (.value (.single (.text text))) = .ok (.single (.bool b)) ∧
    (b = true ↔ holds text.toList)

theorem Transformation.TestsText.congr {t : Transformation} {p q : List Char → Prop}
    (h : t.TestsText p) (hiff : ∀ text, p text ↔ q text) : t.TestsText q := by
  intro text
  obtain ⟨b, happly, hb⟩ := h text
  exact ⟨b, happly, hb.trans (hiff text.toList)⟩

namespace Predicate

variable {needle : Primitive}

theorem apply_contains_text (needle : String) :
    (contains (.text needle)).toTransformation.TestsText (needle.toList <:+: ·) := by
  intro text
  refine ⟨Text.contains text needle, ?_, Text.contains_iff⟩
  rw [toTransformation, Transformation.ofTest_apply_value]
  rfl

theorem apply_contains_other (h : (∃ b, needle = .bool b) ∨ ∃ n, needle = .int n) (text : String) :
    (contains needle).toTransformation.apply (.value (.single (.text text))) =
      .error (.unexpectedInput "Contains" .list .str) := by
  rw [toTransformation, Transformation.ofTest_apply_value]
  rcases h with ⟨b, rfl⟩ | ⟨n, rfl⟩ <;> rfl

theorem apply_substringContainedIn (pieces : List (List Char)) :
    (substringContainedIn ((pieces.map Primitive.coerce).map Primitive.display)).toTransformation
      |>.TestsText fun text => ∃ piece ∈ pieces, text <:+: Primitive.respell piece := by
  intro text
  refine ⟨((pieces.map Primitive.coerce).map Primitive.display).any (Text.contains · text), ?_, ?_⟩
  · rw [toTransformation, Transformation.ofTest_apply_value]
    rfl
  · simp only [List.any_map, List.any_eq_true, Function.comp, Text.contains_iff]
    rfl

end Predicate

namespace Registry

theorem get?_standard_contains : standard.entries.get? "Contains" =
    some (.transformation (ofPredicate fun a => (a.single "Contains").map .contains)) := by
  rw [get?_standard]
  rfl

theorem get?_standard_substringContainedIn : standard.entries.get? "SubstringContainedIn" =
    some (.transformation (ofPredicate fun a =>
      .ok (.substringContainedIn (a.value.elements.map Primitive.display)))) := by
  rw [get?_standard]
  rfl

theorem stepOf_contains {raw : String} (position : Nat)
    (h : Text.contains raw standard.listDelimiter = false) :
    standard.stepOf position ⟨"Contains", raw⟩ =
      .ok (some (.transform (Predicate.contains (.coerce raw.toList)).toTransformation)) := by
  refine stepOf_eq_some_iff.2 (.transformation get?_standard_contains ?_)
  rw [Value.coerce_of_not_contains h]
  rfl

theorem stepOf_substringContainedIn (raw : String) (position : Nat) :
    standard.stepOf position ⟨"SubstringContainedIn", raw⟩ =
      .ok (some (.transform (Predicate.substringContainedIn
        (((Text.sent standard.listDelimiter raw).map Primitive.coerce).map
          Primitive.display)).toTransformation)) := by
  have hdelimiter : standard.listDelimiter ≠ "" := by
    rw [listDelimiter_standard]
    decide
  refine stepOf_eq_some_iff.2 (.transformation get?_standard_substringContainedIn ?_)
  rw [← Value.elements_coerce hdelimiter]
  rfl

/-- The tests on texts that tokens ask for. A text that reads as itself is looked for as it was
sent, and any other cannot be looked for in a text. To look for a text in those that were sent
always has an answer: that for the texts as they are shown, which are those sent if these are
spelled alike. -/
theorem standard_textTests (raw : String) (position : Nat) :
    (Text.contains raw standard.listDelimiter = false →
      ∃ t, standard.stepOf position ⟨"Contains", raw⟩ = .ok (some (.transform t)) ∧
        (Primitive.ReadsAsText raw.toList → t.TestsText (raw.toList <:+: ·)) ∧
        (¬Primitive.ReadsAsText raw.toList → ∀ text : String,
          t.apply (.value (.single (.text text))) =
            .error (.unexpectedInput "Contains" .list .str))) ∧
    ∃ t, standard.stepOf position ⟨"SubstringContainedIn", raw⟩ = .ok (some (.transform t)) ∧
      (t.TestsText fun text => ∃ piece ∈ Text.sent standard.listDelimiter raw,
        text <:+: Primitive.respell piece) ∧
      ((∀ piece ∈ Text.sent standard.listDelimiter raw, Primitive.ShownAsSent piece) →
        t.TestsText fun text => ∃ piece ∈ Text.sent standard.listDelimiter raw,
          text <:+: piece) := by
  constructor
  · intro hraw
    refine ⟨_, stepOf_contains position hraw, ?_, ?_⟩
    · intro hreads
      rw [Primitive.coerce_eq_text_iff.2 hreads, String.ofList_toList]
      exact Predicate.apply_contains_text raw
    · intro hreads
      exact Predicate.apply_contains_other (Primitive.exists_coerce_of_not_readsAsText hreads)
  · refine ⟨_, stepOf_substringContainedIn raw position,
      Predicate.apply_substringContainedIn _, ?_⟩
    intro hshown
    refine (Predicate.apply_substringContainedIn _).congr ?_
    intro text
    refine exists_congr fun piece => and_congr_right fun hpiece => ?_
    rw [(hshown piece hpiece).respell_eq]

theorem standard_textTests_tone :
    (Text.contains "tone 3" standard.listDelimiter = false ∧
      Primitive.ReadsAsText "tone 3".toList) ∧
    (∃ t, standard.stepOf 0 ⟨"Contains", "tone 3"⟩ = .ok (some (.transform t)) ∧
      t.apply (.value (.single (.text "a tone 3 mark"))) = .ok (.single (.bool true))) ∧
    (Text.contains "+3" standard.listDelimiter = false ∧
      ¬Primitive.ReadsAsText "+3".toList) ∧
    (∃ t, standard.stepOf 0 ⟨"Contains", "+3"⟩ = .ok (some (.transform t)) ∧
      t.apply (.value (.single (.text "+3"))) =
        .error (.unexpectedInput "Contains" .list .str)) ∧
    (∀ piece ∈ Text.sent standard.listDelimiter "-7;;tone;true", Primitive.ShownAsSent piece) ∧
    ∃ t, standard.stepOf 1 ⟨"SubstringContainedIn", "-7;;tone;true"⟩ = .ok (some (.transform t)) ∧
      t.apply (.value (.single (.text "one"))) = .ok (.single (.bool true)) := by
  have htone : Text.contains "tone 3" standard.listDelimiter = false := by
    rw [listDelimiter_standard]
    rfl
  have hreads : Primitive.ReadsAsText "tone 3".toList := Primitive.coerce_eq_text_iff.1 (by rfl)
  have hthree : Text.contains "+3" standard.listDelimiter = false := by
    rw [listDelimiter_standard]
    rfl
  have hnumber : ¬Primitive.ReadsAsText "+3".toList := by
    rintro ⟨-, hword⟩
    cases hword
  have hshown : ∀ piece ∈ Text.sent standard.listDelimiter "-7;;tone;true",
      Primitive.ShownAsSent piece := by
    have hsent : Text.sent standard.listDelimiter "-7;;tone;true" =
        ["-7".toList, "tone".toList, "true".toList] := by
      rw [listDelimiter_standard]
      rfl
    rw [hsent, List.forall_mem_cons, List.forall_mem_cons, List.forall_mem_singleton]
    have hseven : ∃ n : Int64, "-7".toList = (toString n.toInt).toList := ⟨-7, by rfl⟩
    have hword : Primitive.ReadsAsText "tone".toList := Primitive.coerce_eq_text_iff.1 (by rfl)
    exact ⟨.inr (.inr hseven), .inl hword, .inr (.inl ⟨true, rfl⟩)⟩
  obtain ⟨t, ht, htests, -⟩ := (standard_textTests "tone 3" 0).1 htone
  obtain ⟨b, hb, hiff⟩ := htests hreads "a tone 3 mark"
  obtain rfl : b = true := hiff.2 ⟨"a ".toList, " mark".toList, by rfl⟩
  obtain ⟨u, hu, -, hfails⟩ := (standard_textTests "+3" 0).1 hthree
  obtain ⟨v, hv, -, hexact⟩ := (standard_textTests "-7;;tone;true" 1).2
  obtain ⟨b, hbv, hiff⟩ := hexact hshown "one"
  obtain rfl : b = true := hiff.2 ⟨"tone".toList, .tail _ (.head _), "t".toList, [], by rfl⟩
  exact ⟨⟨htone, hreads⟩, ⟨t, ht, hb⟩, ⟨hthree, hnumber⟩, ⟨u, hu, hfails hnumber "+3"⟩, hshown,
    v, hv, hbv⟩

/-- A text that reads as a number is found neither in itself nor when it is looked for in itself. -/
theorem textTests_numeral :
    Text.contains "007" standard.listDelimiter = false ∧ "007".toList <:+: "007".toList ∧
    (∃ t, standard.stepOf 0 ⟨"Contains", "007"⟩ = .ok (some (.transform t)) ∧
      t.apply (.value (.single (.text "007"))) =
        .error (.unexpectedInput "Contains" .list .str)) ∧
    ∃ t, standard.stepOf 0 ⟨"SubstringContainedIn", "007"⟩ = .ok (some (.transform t)) ∧
      t.apply (.value (.single (.text "007"))) = .ok (.single (.bool false)) := by
  have hraw : Text.contains "007" standard.listDelimiter = false := by
    rw [listDelimiter_standard]
    rfl
  have hsent : Text.sent standard.listDelimiter "007" = ["007".toList] := by
    rw [Text.sent, hraw]
    rfl
  have hsubstring := stepOf_substringContainedIn "007" 0
  rw [hsent] at hsubstring
  exact ⟨hraw, List.infix_refl _, ⟨_, stepOf_contains 0 hraw, by rfl⟩, ⟨_, hsubstring, by rfl⟩⟩

end Registry

end Typology
