import Typology.Text.Search
import Mathlib.Data.List.Infix
import Mathlib.Data.List.Flatten

/-!
# Pieces of texts

A text is its pieces joined by the separator, and pieces that are joined are found again if no
occurrence of the separator begins within one of them. That no piece is empty, or that a piece has
another spelling which shares no character with the separator, does not change this.
-/

namespace Typology.Text

variable {separator text piece needle : List Char} {parts others : List (List Char)} {c : Char}

/-! ## Occurrences -/

theorem occursIn_iff : occursIn needle text = true ↔ needle <:+: text := by
  induction text with
  | nil => simp [occursIn]
  | cons c text ih =>
      rw [occursIn, Bool.or_eq_true, ih, List.isPrefixOf_iff_prefix, List.infix_cons_iff]

theorem contains_iff {hay needle : String} :
    contains hay needle = true ↔ needle.toList <:+: hay.toList := occursIn_iff

/-- Where `separator` follows `piece`, no occurrence of it begins within the piece. -/
def Clear (separator : List Char) : List Char → Prop
  | [] => True
  | c :: piece => ¬separator <+: c :: piece ++ separator ∧ Clear separator piece

theorem Clear.not_occurs (hseparator : separator ≠ []) (h : Clear separator piece) :
    ¬separator <:+: piece := by
  induction piece with
  | nil => simpa using hseparator
  | cons c piece ih =>
      obtain ⟨hhere, hpiece⟩ := h
      rw [List.infix_cons_iff, not_or]
      constructor
      · intro hstart
        exact hhere (hstart.trans (List.prefix_append _ _))
      · exact ih hpiece

/-- A piece that shares no character with the separator. -/
theorem clear_of_disjoint (hseparator : separator ≠ []) (h : ∀ c ∈ piece, c ∉ separator) :
    Clear separator piece := by
  induction piece with
  | nil => trivial
  | cons c piece ih =>
      obtain ⟨hc, hpiece⟩ := List.forall_mem_cons.1 h
      refine ⟨?_, ih hpiece⟩
      intro hstart
      cases separator with
      | nil => exact hseparator rfl
      | cons s separator =>
          obtain ⟨rfl, -⟩ := List.cons_prefix_cons.1 hstart
          exact hc List.mem_cons_self

/-! ## Splitting -/

theorem piecesFrom_eq_drop (separator : List Char) (skip : Nat) (text : List Char) :
    piecesFrom separator skip text = pieces separator (text.drop skip) := by
  induction text generalizing skip with
  | nil => cases skip <;> simp [pieces, piecesFrom]
  | cons c text ih =>
      cases skip with
      | zero => rfl
      | succ skip => rw [piecesFrom, ih, List.drop_succ_cons]

theorem pieces_ne_nil (separator text : List Char) : pieces separator text ≠ [] :=
  piecesFrom_ne_nil separator 0 text

theorem pieces_separator_append (hseparator : separator ≠ []) (text : List Char) :
    pieces separator (separator ++ text) = [] :: pieces separator text := by
  cases separator with
  | nil => exact absurd rfl hseparator
  | cons s separator =>
      have hstart : (s :: separator).isPrefixOf (s :: (separator ++ text)) = true :=
        List.isPrefixOf_iff_prefix.2 (List.prefix_append (s :: separator) text)
      rw [List.cons_append, pieces, piecesFrom, if_pos hstart, piecesFrom_eq_drop]
      simp

theorem pieces_cons_of_not_start (h : ¬separator <+: c :: text) :
    pieces separator (c :: text) = consPiece c (pieces separator text) := by
  have hstart : ¬separator.isPrefixOf (c :: text) = true := by
    rwa [List.isPrefixOf_iff_prefix]
  rw [pieces, piecesFrom, if_neg hstart]
  rfl

theorem pieces_append (hseparator : separator ≠ []) (h : Clear separator piece)
    (text : List Char) :
    pieces separator (piece ++ separator ++ text) = piece :: pieces separator text := by
  induction piece with
  | nil => exact pieces_separator_append hseparator text
  | cons c piece ih =>
      obtain ⟨hhere, hpiece⟩ := h
      -- an occurrence at `c` would end with the separator that follows the piece at the latest
      have hnot : ¬separator <+: c :: (piece ++ separator ++ text) := by
        intro hstart
        have hlength : separator.length ≤ (c :: piece ++ separator).length := by
          rw [List.length_append]
          exact Nat.le_add_left _ _
        exact hhere (List.prefix_of_prefix_length_le hstart (List.prefix_append _ text) hlength)
      rw [List.cons_append, List.cons_append, pieces_cons_of_not_start hnot, ih hpiece]
      rfl

theorem pieces_of_not_occurs (h : ¬separator <:+: text) : pieces separator text = [text] := by
  induction text with
  | nil => rfl
  | cons c text ih =>
      rw [List.infix_cons_iff, not_or] at h
      rw [pieces_cons_of_not_start h.1, ih h.2]
      rfl

/-- A text is empty, or begins with an occurrence of the separator, or with a character that is
part of no such occurrence at the beginning. -/
theorem pieces_induction {motive : List Char → Prop} (hseparator : separator ≠ [])
    (nil : motive []) (found : ∀ text, motive text → motive (separator ++ text))
    (cons : ∀ c text, ¬separator <+: c :: text → motive text → motive (c :: text))
    (text : List Char) : motive text := by
  induction h : text.length using Nat.strong_induction_on generalizing text with
  | _ n ih =>
      subst h
      cases text with
      | nil => exact nil
      | cons c text =>
          by_cases hstart : separator <+: c :: text
          · obtain ⟨rest, hrest⟩ := hstart
            rw [← hrest]
            have hshorter : rest.length < (c :: text).length := by
              have hpos : 0 < separator.length := List.length_pos_iff.2 hseparator
              rw [← hrest, List.length_append]
              omega
            exact found rest (ih _ hshorter rest rfl)
          · exact cons c text hstart (ih _ (Nat.lt_succ_self _) text rfl)

theorem intercalate_consPiece (separator : List Char) (c : Char) (h : parts ≠ []) :
    separator.intercalate (consPiece c parts) = c :: separator.intercalate parts := by
  cases parts with
  | nil => exact absurd rfl h
  | cons part parts =>
      cases parts with
      | nil => simp [consPiece]
      | cons next parts => simp [consPiece]

/-- A text is its pieces with the separator between them. -/
theorem intercalate_pieces (hseparator : separator ≠ []) (text : List Char) :
    separator.intercalate (pieces separator text) = text := by
  induction text using pieces_induction hseparator with
  | nil => rfl
  | found text ih =>
      rw [pieces_separator_append hseparator,
        List.intercalate_cons_of_ne_nil (pieces_ne_nil separator text), ih, List.nil_append]
  | cons c text hstart ih =>
      rw [pieces_cons_of_not_start hstart,
        intercalate_consPiece separator c (pieces_ne_nil separator text), ih]

/-- Occurrences are taken from the left and do not overlap. -/
example : pieces [';', ';'] ['a', ';', ';', ';', 'b'] = [['a'], [';', 'b']] := rfl

/-! ## Joining -/

/-- Pieces that are found again once they are joined. -/
def Apart (separator : List Char) : List (List Char) → Prop
  | [] => True
  | [piece] => ¬separator <:+: piece
  | piece :: next :: rest => Clear separator piece ∧ Apart separator (next :: rest)

theorem apart_pieces (hseparator : separator ≠ []) (text : List Char) :
    Apart separator (pieces separator text) := by
  induction text using pieces_induction hseparator with
  | nil => simpa [pieces, piecesFrom, Apart] using hseparator
  | found text ih =>
      rw [pieces_separator_append hseparator]
      obtain ⟨piece, rest, hpieces⟩ := List.exists_cons_of_ne_nil (pieces_ne_nil separator text)
      rw [hpieces] at ih ⊢
      exact ⟨trivial, ih⟩
  | cons c text hstart ih =>
      have hjoined := intercalate_pieces hseparator text
      obtain ⟨piece, rest, hpieces⟩ := List.exists_cons_of_ne_nil (pieces_ne_nil separator text)
      rw [pieces_cons_of_not_start hstart]
      rw [hpieces] at ih hjoined ⊢
      cases rest with
      | nil =>
          obtain rfl : piece = text := by simpa using hjoined
          have hnot : ¬separator <:+: c :: piece := by
            rw [List.infix_cons_iff, not_or]
            exact ⟨hstart, ih⟩
          exact hnot
      | cons next rest =>
          obtain ⟨hpiece, hrest⟩ := ih
          refine ⟨⟨?_, hpiece⟩, hrest⟩
          intro hhere
          refine hstart (hhere.trans ?_)
          rw [← hjoined, List.intercalate_cons_cons]
          exact List.prefix_append (c :: piece ++ separator) _

/-- Pieces that are apart are those of the text that they make up. -/
theorem Apart.pieces_intercalate (hseparator : separator ≠ []) (h : Apart separator parts)
    (hparts : parts ≠ []) : pieces separator (separator.intercalate parts) = parts := by
  induction parts with
  | nil => exact absurd rfl hparts
  | cons piece rest ih =>
      cases rest with
      | nil =>
          rw [List.intercalate_singleton]
          exact pieces_of_not_occurs h
      | cons next rest =>
          obtain ⟨hpiece, hrest⟩ := h
          rw [List.intercalate_cons_cons, pieces_append hseparator hpiece,
            ih hrest (List.cons_ne_nil _ _)]

namespace Apart

theorem tail (h : Apart separator (piece :: parts)) : Apart separator parts := by
  cases parts with
  | nil => trivial
  | cons next rest => exact h.2

theorem cons_of_clear (hseparator : separator ≠ []) (hpiece : Clear separator piece)
    (h : Apart separator parts) : Apart separator (piece :: parts) := by
  cases parts with
  | nil => exact hpiece.not_occurs hseparator
  | cons next rest => exact ⟨hpiece, h⟩

/-- What stands behind a piece can be replaced, unless that would make the last piece another. -/
theorem replace_tail (hseparator : separator ≠ []) (h : Apart separator (piece :: parts))
    (hothers : Apart separator others) (hlast : parts = [] → others = []) :
    Apart separator (piece :: others) := by
  cases parts with
  | nil =>
      rw [hlast rfl]
      exact h
  | cons next rest => exact hothers.cons_of_clear hseparator h.1

theorem filter (hseparator : separator ≠ []) (p : List Char → Bool) (h : Apart separator parts) :
    Apart separator (parts.filter p) := by
  induction parts with
  | nil => trivial
  | cons piece rest ih =>
      have hrest := ih h.tail
      have hlast : rest = [] → rest.filter p = [] := by
        rintro rfl
        rfl
      rw [List.filter_cons]
      split
      · exact h.replace_tail hseparator hrest hlast
      · exact hrest

/-- Pieces stay apart when some are put in another spelling without characters of the separator. -/
theorem map (hseparator : separator ≠ []) {spell : List Char → List Char}
    (hspell : ∀ piece, spell piece = piece ∨ ∀ c ∈ spell piece, c ∉ separator)
    (h : Apart separator parts) : Apart separator (parts.map spell) := by
  induction parts with
  | nil => trivial
  | cons piece rest ih =>
      have hrest := ih h.tail
      rcases hspell piece with hsame | hdisjoint
      · rw [List.map_cons, hsame]
        exact h.replace_tail hseparator hrest List.map_eq_nil_iff.2
      · exact hrest.cons_of_clear hseparator (clear_of_disjoint hseparator hdisjoint)

end Apart

end Typology.Text
