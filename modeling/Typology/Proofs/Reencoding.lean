import Typology.Token
import Typology.Proofs.Numerals
import Typology.Proofs.Pieces

/-!
# Values that are sent again

The text of a token is read as a bool, a number, a text or a list of these. A value that was read
can be sent as it is shown, and a list with the delimiter in front of each item: then it is read as
the same value, although numbers and bools may have been spelled in another way before.
-/

namespace Typology

/-! ## Primitives -/

/-- The letters and digits of ASCII and the signs: what bools and numbers are spelled with. -/
def Text.Spells (c : Char) : Prop := c.isAlphanum = true ∨ c = '+' ∨ c = '-'

instance (c : Char) : Decidable (Text.Spells c) :=
  inferInstanceAs (Decidable (c.isAlphanum = true ∨ c = '+' ∨ c = '-'))

namespace Primitive

variable {chars : List Char} {n : Int64}

/-- A text is read as a bool in any case, as a number, or as itself. -/
theorem coerce_cases (chars : List Char) :
    (∃ b, chars.map Char.toLower = (boolText b).toList ∧ coerce chars = .bool b) ∨
      (∃ n, Decimal.word? chars = some n ∧ coerce chars = .int n) ∨
        coerce chars = .text (String.ofList chars) := by
  unfold coerce
  split
  · rename_i h
    exact .inl ⟨true, h, rfl⟩
  · rename_i h
    exact .inl ⟨false, h, rfl⟩
  · split
    · rename_i n h
      exact .inr (.inl ⟨n, h, rfl⟩)
    · exact .inr (.inr rfl)

theorem toLower_of_isDigit_or_sign {c : Char} (h : c.isDigit = true ∨ c = '+' ∨ c = '-') :
    c.toLower = c := by
  have hbelow : ¬(c.val ≥ 'A'.val ∧ c.val ≤ 'Z'.val) := by
    rintro ⟨hlow, -⟩
    rcases h with hdigit | rfl | rfl
    · have hhigh : c.toNat ≤ 57 := (Char.isDigit_iff_toNat.1 hdigit).2
      have hlow : 65 ≤ c.toNat := UInt32.le_iff_toNat_le.1 hlow
      omega
    · exact absurd hlow (by decide)
    · exact absurd hlow (by decide)
  exact dif_neg hbelow

/-- No spelling of a number is one of a bool. -/
theorem coerce_of_word? (h : Decimal.word? chars = some n) : coerce chars = .int n := by
  have hchars := Decimal.isDigit_or_sign_of_word? h
  have hlower : chars.map Char.toLower = chars := by
    calc
      chars.map Char.toLower
        = chars.map id := List.map_congr_left fun c hc => toLower_of_isDigit_or_sign (hchars c hc)
      _ = chars := List.map_id chars
  unfold coerce
  rw [hlower]
  split
  · exact absurd (hchars 't' List.mem_cons_self) (by decide)
  · exact absurd (hchars 'f' List.mem_cons_self) (by decide)
  · rw [h]

/-- The text that a value is shown with once it has been read from a text. -/
def respell (chars : List Char) : List Char := (coerce chars).display.toList

theorem respell_of_text (h : coerce chars = .text (String.ofList chars)) :
    respell chars = chars := by
  rw [respell, h]
  exact String.toList_ofList

theorem respell_of_int (h : coerce chars = .int n) :
    respell chars = (toString n.toInt).toList := by
  rw [respell, h]
  rfl

/-- What is shown of a value is read as the same value. -/
theorem coerce_respell (chars : List Char) : coerce (respell chars) = coerce chars := by
  rcases coerce_cases chars with ⟨b, -, hcoerce⟩ | ⟨n, hn, hcoerce⟩ | hcoerce
  · rw [respell, hcoerce]
    cases b <;> rfl
  · rw [respell_of_int hcoerce, hcoerce]
    exact coerce_of_word? (Decimal.word?_toString n)
  · rw [respell_of_text hcoerce]

theorem respell_cases (chars : List Char) :
    respell chars = chars ∨ ∀ c ∈ respell chars, Text.Spells c := by
  rcases coerce_cases chars with ⟨b, -, hcoerce⟩ | ⟨n, -, hcoerce⟩ | hcoerce
  · right
    intro c hc
    rw [respell, hcoerce] at hc
    have hletters : (boolText b).toList.all Char.isAlphanum = true := by cases b <;> rfl
    exact .inl (List.all_eq_true.1 hletters c hc)
  · right
    intro c hc
    rw [respell_of_int hcoerce] at hc
    rcases Decimal.isDigit_or_sign_of_word? (Decimal.word?_toString n) c hc with hdigit | hsign
    · exact .inl (by simp [Char.isAlphanum, hdigit])
    · exact .inr hsign
  · exact .inl (respell_of_text hcoerce)

theorem respell_ne_nil (h : chars ≠ []) : respell chars ≠ [] := by
  intro hnil
  have hcoerce : coerce chars = .text "" := by
    rw [← coerce_respell, hnil]
    rfl
  rcases coerce_cases chars with ⟨b, -, hother⟩ | ⟨n, -, hother⟩ | hother
  · cases hcoerce.symm.trans hother
  · cases hcoerce.symm.trans hother
  · exact h ((respell_of_text hother).symm.trans hnil)

end Primitive

/-! ## Values -/

namespace Text

variable {separator : List Char} {parts : List (List Char)}

/-- The pieces of a text that are not empty. -/
def segments (separator text : List Char) : List (List Char) :=
  (pieces separator text).filter (!·.isEmpty)

theorem ne_nil_of_mem_segments {text piece : List Char} (h : piece ∈ segments separator text) :
    piece ≠ [] := by
  simpa using (List.mem_filter.1 h).2

theorem segments_joined (hseparator : separator ≠ []) (h : Apart separator parts)
    (hparts : ∀ piece ∈ parts, piece ≠ []) :
    segments separator (separator ++ separator.intercalate parts) = parts := by
  have hkept : parts.filter (!·.isEmpty) = parts := by
    rw [List.filter_eq_self]
    intro piece hpiece
    simpa using hparts piece hpiece
  have hpieces : (pieces separator (separator.intercalate parts)).filter (!·.isEmpty) = parts := by
    cases parts with
    | nil => rfl
    | cons piece rest => rw [h.pieces_intercalate hseparator (List.cons_ne_nil _ _), hkept]
  rw [segments, pieces_separator_append hseparator]
  exact hpieces

end Text

namespace Value

variable {raw delimiter : String}

/-- A value in a form that tokens have: as it is shown, and a list with the delimiter in front of
each item, also of the first. -/
def encode (delimiter : String) : Value → String
  | .single p => p.display
  | .list items => delimiter ++ String.intercalate delimiter (items.map Primitive.display)

theorem coerce_of_contains (hdelimiter : delimiter ≠ "") (h : Text.contains raw delimiter = true) :
    coerce raw delimiter =
      .list ((Text.segments delimiter.toList raw.toList).map Primitive.coerce) := by
  rw [coerce, if_pos ⟨hdelimiter, h⟩]
  rfl

theorem coerce_of_not_contains (h : Text.contains raw delimiter = false) :
    coerce raw delimiter = .single (.coerce raw.toList) := by
  rw [coerce, if_neg]
  rintro ⟨-, hcontains⟩
  cases h.symm.trans hcontains

theorem toList_encode_list (delimiter : String) (pieces : List (List Char)) :
    (encode delimiter (.list (pieces.map Primitive.coerce))).toList =
      delimiter.toList ++ delimiter.toList.intercalate (pieces.map Primitive.respell) := by
  rw [encode, String.toList_append, String.toList_intercalate, List.map_map, List.map_map]
  rfl

section Delimited

variable (hdelimiter : delimiter ≠ "") (hspells : ∀ c ∈ delimiter.toList, ¬Text.Spells c)

include hspells in
/-- A new spelling shares no character with the delimiter. -/
theorem respell_disjoint (chars : List Char) : Primitive.respell chars = chars ∨
    ∀ c ∈ Primitive.respell chars, c ∉ delimiter.toList := by
  refine (Primitive.respell_cases chars).imp_right ?_
  intro hchars c hc hmem
  exact hspells c hmem (hchars c hc)

include hdelimiter hspells in
theorem contains_display (h : Text.contains raw delimiter = false) :
    Text.contains (Primitive.coerce raw.toList).display delimiter = false := by
  rw [← Bool.not_eq_true, Text.contains_iff] at h ⊢
  rcases respell_disjoint hspells raw.toList with hsame | hdisjoint
  · rw [Primitive.respell] at hsame
    rwa [hsame]
  · have hseparator : delimiter.toList ≠ [] := by simpa using hdelimiter
    exact (Text.clear_of_disjoint hseparator hdisjoint).not_occurs hseparator

include hdelimiter hspells in
theorem segments_respell (text : List Char) :
    Text.segments delimiter.toList (delimiter.toList ++ delimiter.toList.intercalate
        ((Text.segments delimiter.toList text).map Primitive.respell)) =
      (Text.segments delimiter.toList text).map Primitive.respell := by
  have hseparator : delimiter.toList ≠ [] := by simpa using hdelimiter
  have hapart : Text.Apart delimiter.toList (Text.segments delimiter.toList text) :=
    (Text.apart_pieces hseparator text).filter hseparator _
  refine Text.segments_joined hseparator (hapart.map hseparator (respell_disjoint hspells)) ?_
  intro piece hpiece
  obtain ⟨segment, hsegment, rfl⟩ := List.mem_map.1 hpiece
  exact Primitive.respell_ne_nil (Text.ne_nil_of_mem_segments hsegment)

end Delimited

/-- A value that was read from a text is read again from the form that tokens have. -/
theorem coerce_encode (hdelimiter : delimiter ≠ "")
    (hspells : ∀ c ∈ delimiter.toList, ¬Text.Spells c) (raw : String) :
    coerce ((coerce raw delimiter).encode delimiter) delimiter = coerce raw delimiter := by
  cases hraw : Text.contains raw delimiter with
  | false =>
      have hencode : encode delimiter (.single (.coerce raw.toList)) =
          (Primitive.coerce raw.toList).display := rfl
      rw [coerce_of_not_contains hraw, hencode,
        coerce_of_not_contains (contains_display hdelimiter hspells hraw)]
      exact congrArg Value.single (Primitive.coerce_respell raw.toList)
  | true =>
      have hencode := toList_encode_list delimiter (Text.segments delimiter.toList raw.toList)
      have hcontains : Text.contains (encode delimiter (.list
          ((Text.segments delimiter.toList raw.toList).map .coerce))) delimiter = true := by
        rw [Text.contains_iff, hencode]
        exact (List.prefix_append _ _).isInfix
      rw [coerce_of_contains hdelimiter hraw, coerce_of_contains hdelimiter hcontains, hencode,
        segments_respell hdelimiter hspells, List.map_map]
      congr 1
      exact List.map_congr_left fun segment _ => Primitive.coerce_respell segment

/-- Numbers and bools in other spellings, behind a delimiter that overlaps itself. -/
theorem coerce_encode_respelled :
    (";;" ≠ "" ∧ ∀ c ∈ ";;".toList, ¬Text.Spells c) ∧
    coerce "+007;;;TRUE;;;;-0;;False;;x;" ";;" =
      .list [.int 7, .text ";TRUE", .int 0, .bool false, .text "x;"] ∧
    coerce ((coerce "+007;;;TRUE;;;;-0;;False;;x;" ";;").encode ";;") ";;" =
      coerce "+007;;;TRUE;;;;-0;;False;;x;" ";;" := by
  have hdelimiter : ";;" ≠ "" := by decide
  have hspells : ∀ c ∈ ";;".toList, ¬Text.Spells c := by
    intro c hc
    obtain rfl : c = ';' := by simpa using hc
    decide
  exact ⟨⟨hdelimiter, hspells⟩, by rfl, coerce_encode hdelimiter hspells _⟩

end Value

end Typology
