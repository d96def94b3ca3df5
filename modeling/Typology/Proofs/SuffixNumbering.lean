import Typology.Proofs.Label
import Typology.Text.Utf8
import Mathlib.Data.List.Induction
import Mathlib.Data.List.Shortlex
import Mathlib.Data.Nat.PSub
import Mathlib.Data.Set.Function

/-!
# The numbering of suffixes

Every word of the letters `A` to `Z` is the suffix of one number. A larger number has a longer word,
or one that comes later in the alphabet. The loop that writes a suffix begins with its last letter,
and its number never goes below zero.
-/

namespace Typology

/-! ## Plain bytes -/

namespace Text

theorem FirstByte.ofByte_toUInt8 {c : Char} (h : c.toNat < 0x80) :
    ofByte c.toUInt8 = .whole c := by
  have hbyte : c.toUInt8.toNat = c.toNat := Nat.mod_eq_of_lt (Nat.lt_trans h (by decide))
  rw [ofByte, hbyte, if_pos h, Char.ofNat_toNat]

/-- Bytes below 128 are read as the characters that they are the numbers of. -/
theorem decodeUtf8_map_toUInt8 {cs : List Char} (h : ∀ c ∈ cs, c.toNat < 0x80) :
    decodeUtf8 (cs.map Char.toUInt8) = cs := by
  induction cs with
  | nil => rfl
  | cons c cs ih =>
      obtain ⟨hc, hcs⟩ := List.forall_mem_cons.1 h
      rw [decodeUtf8] at ih ⊢
      rw [List.map_cons, decodeFrom, FirstByte.ofByte_toUInt8 hc]
      exact congrArg (c :: ·) (ih hcs)

end Text

/-! ## The order of words -/

section Shortlex

variable {α : Type} {r : α → α → Prop} {xs ys : List α}

theorem lex_append (hlength : xs.length = ys.length) (h : List.Lex r xs ys) (us vs : List α) :
    List.Lex r (xs ++ us) (ys ++ vs) := by
  induction h with
  | nil => exact absurd hlength (Nat.succ_ne_zero _).symm
  | rel hr => exact .rel hr
  | cons _ ih => exact .cons (ih (Nat.succ.inj hlength))

/-- A last item does not change the order of different lists. -/
theorem shortlex_append_singleton (h : List.Shortlex r xs ys) (x y : α) :
    List.Shortlex r (xs ++ [x]) (ys ++ [y]) := by
  have hlast : ∀ (zs : List α) z, (zs ++ [z]).length = zs.length + 1 := fun _ _ =>
    List.length_append
  rcases List.shortlex_def.1 h with hshorter | ⟨hlength, hlex⟩
  · refine .of_length_lt ?_
    rw [hlast, hlast]
    exact Nat.succ_lt_succ hshorter
  · refine .of_lex ?_ (lex_append hlength hlex [x] [y])
    rw [hlast, hlast, hlength]

end Shortlex

namespace Alias

variable {m n d : Nat} {c : Char} {cs : List Char}

/-- One text comes before another: it is shorter, or as long and before it in the alphabet. -/
def Precedes (a b : String) : Prop := List.Shortlex (· < ·) a.toList b.toList

/-! ## Letters -/

theorem exists_letter_eq (h : IsLetter c) : ∃ d < 26, letter d = c := by
  have hA : 'A'.toNat = 65 := rfl
  rw [isLetter_iff] at h
  refine ⟨c.toNat - 65, by omega, Char.toNat_inj.1 ?_⟩
  rw [toNat_letter]
  omega

theorem letter_lt_letter (h : m % 26 < n % 26) : letter m < letter n := by
  have hcodes : (letter m).toNat < (letter n).toNat := by
    rw [toNat_letter, toNat_letter]
    exact Nat.add_lt_add_left h _
  exact hcodes

/-! ## Words -/

/-- A text of letters, one at least. -/
def IsWord (text : String) : Prop := text ≠ "" ∧ ∀ c ∈ text.toList, IsLetter c

/-- The letters of a suffix with one more behind them are those of another suffix. -/
theorem suffixChars_append_letter (n : Nat) (hd : d < 26) :
    suffixChars (26 * (n + 1) + d) = suffixChars n ++ [letter d] := by
  have hle : 26 ≤ 26 * (n + 1) + d := by omega
  have hfront : (26 * (n + 1) + d) / 26 - 1 = n := by omega
  have hlast : (26 * (n + 1) + d) % 26 = d % 26 := Nat.mul_add_mod _ _ _
  rw [suffixChars_of_le hle, hfront, letter, letter, hlast]

theorem suffixChars_ne_nil (n : Nat) : suffixChars n ≠ [] := by
  rcases Nat.lt_or_ge n 26 with h | h
  · rw [suffixChars_of_lt h]
    exact List.cons_ne_nil _ _
  · rw [suffixChars_of_le h]
    exact List.append_ne_nil_of_right_ne_nil _ (List.cons_ne_nil _ _)

theorem exists_suffixChars_eq (hne : cs ≠ []) (h : ∀ c ∈ cs, IsLetter c) :
    ∃ n, suffixChars n = cs := by
  induction cs using List.reverseRecOn with
  | nil => exact absurd rfl hne
  | append_singleton before c ih =>
      rw [List.forall_mem_append] at h
      obtain ⟨d, hd, rfl⟩ := exists_letter_eq (List.forall_mem_singleton.1 h.2)
      by_cases hbefore : before = []
      · exact ⟨d, by rw [suffixChars_of_lt hd, hbefore, List.nil_append]⟩
      · obtain ⟨n, rfl⟩ := ih hbefore h.1
        exact ⟨_, suffixChars_append_letter n hd⟩

theorem toList_suffix (n : Nat) : (suffix n).toList = suffixChars n := String.toList_ofList

theorem isWord_suffix (n : Nat) : IsWord (suffix n) := by
  refine ⟨fun h => suffixChars_ne_nil n ?_, fun c hc => ?_⟩
  · rw [← toList_suffix, h, String.toList_empty]
  · rw [toList_suffix] at hc
    exact isLetter_of_mem_suffixChars hc

theorem suffix_injective : Function.Injective suffix := by
  intro m n h
  have hchars := congrArg String.toList h
  rw [toList_suffix, toList_suffix] at hchars
  exact suffixChars_injective hchars

theorem exists_suffix_eq {text : String} (h : IsWord text) : ∃ n, suffix n = text := by
  have hne : text.toList ≠ [] := fun hnil => h.1 (String.toList_eq_nil_iff.1 hnil)
  obtain ⟨n, hn⟩ := exists_suffixChars_eq hne h.2
  exact ⟨n, String.toList_inj.1 ((toList_suffix n).trans hn)⟩

/-! ## Larger numbers -/

theorem suffixChars_shortlex (h : m < n) :
    List.Shortlex (· < ·) (suffixChars m) (suffixChars n) := by
  -- the letters in front are compared first, and are those of `n / 26 - 1`
  induction n using suffixChars.induct generalizing m with
  | case1 n hlt =>
      rw [suffixChars_of_lt (Nat.lt_trans h hlt), suffixChars_of_lt hlt,
        List.shortlex_singleton_iff]
      exact letter_lt_letter (by omega)
  | case2 n hge ih =>
      rw [suffixChars_of_le (Nat.not_lt.1 hge)]
      rcases Nat.lt_or_ge m 26 with hm | hm
      · refine .of_length_lt ?_
        rw [suffixChars_of_lt hm, List.length_append]
        exact Nat.succ_lt_succ (List.length_pos_of_ne_nil (suffixChars_ne_nil _))
      · rw [suffixChars_of_le hm]
        have hfront : m / 26 - 1 ≤ n / 26 - 1 := by omega
        rcases Nat.lt_or_eq_of_le hfront with hfront | hfront
        · exact shortlex_append_singleton (ih hfront) _ _
        · rw [hfront]
          refine List.Shortlex.append_left ?_ _
          rw [List.shortlex_singleton_iff]
          exact letter_lt_letter (by omega)

theorem lt_iff_precedes : m < n ↔ Precedes (suffix m) (suffix n) := by
  rw [Precedes, toList_suffix, toList_suffix]
  refine ⟨suffixChars_shortlex, fun h => ?_⟩
  rcases Nat.lt_trichotomy m n with hlt | rfl | hgt
  · exact hlt
  · exact absurd h (Std.Asymm.asymm _ _ h)
  · exact absurd h (Std.Asymm.asymm _ _ (suffixChars_shortlex hgt))

/-! ## Writing a suffix -/

/-- The byte of the last letter of the suffix with number `n`. -/
def lastByte (n : Nat) : UInt8 := 'A'.toUInt8 + UInt8.ofNat (n % 26)

/-- Writes the letters of the suffix with number `n` behind some bytes, the last letter first and
`passes` letters at most. It fails if the passes do not suffice, or if the number for the letters in
front would be below zero. -/
def write? : (passes n : Nat) → List UInt8 → Option (List UInt8)
  | 0, _, _ => none
  | passes + 1, n, bytes =>
    let bytes := bytes ++ [lastByte n]
    if n < 26 then some bytes else (n / 26).ppred.bind fun front => write? passes front bytes

/-- The text that is written for a number in `passes` passes at most. -/
def written? (passes n : Nat) : Option String :=
  (write? passes n []).map fun bytes => String.ofList (Text.decodeUtf8 bytes.reverse)

theorem lastByte_eq (n : Nat) : lastByte n = (letter n).toUInt8 := by
  have hA : 'A'.toUInt8.toNat = 65 := rfl
  have hA' : 'A'.toNat = 65 := rfl
  have hletter : (letter n).toUInt8.toNat = (letter n).toNat % 256 := rfl
  rw [← UInt8.toNat_inj, hletter, toNat_letter, lastByte, UInt8.toNat_add, UInt8.toNat_ofNat']
  omega

/-- A pass writes one letter, and has a number to go on with unless it is the last. -/
theorem write?_succ (passes n : Nat) (bytes : List UInt8) :
    write? (passes + 1) n bytes =
      if n < 26 then some (bytes ++ [(letter n).toUInt8])
      else write? passes (n / 26 - 1) (bytes ++ [(letter n).toUInt8]) := by
  rw [write?, lastByte_eq]
  refine ite_congr rfl (fun _ => rfl) fun hge => ?_
  have hpos : 0 < n / 26 := Nat.div_pos (Nat.not_lt.1 hge) (by decide)
  rw [Nat.ppred_eq_pred hpos, Option.bind_some, Nat.pred_eq_sub_one]

/-- A suffix is written if there is a pass for each of its letters. -/
theorem write?_eq (passes n : Nat) (bytes : List UInt8) :
    write? passes n bytes =
      if (suffixChars n).length ≤ passes then
        some (bytes ++ ((suffixChars n).map Char.toUInt8).reverse)
      else none := by
  induction passes generalizing n bytes with
  | zero =>
      have hpos := List.length_pos_of_ne_nil (suffixChars_ne_nil n)
      rw [write?, if_neg (Nat.not_le.2 hpos)]
  | succ passes ih =>
      rcases Nat.lt_or_ge n 26 with h | h
      · have hone : 1 ≤ passes + 1 := Nat.le_add_left 1 passes
        rw [write?_succ, if_pos h, suffixChars_of_lt h, List.length_singleton, if_pos hone]
        rfl
      · rw [write?_succ, if_neg (Nat.not_lt.2 h), ih, suffixChars_of_le h, List.length_append,
          List.length_singleton, List.map_append, List.reverse_append, List.append_assoc]
        exact ite_congr (propext Nat.succ_le_succ_iff.symm) (fun _ => rfl) fun _ => rfl

theorem written?_eq (passes n : Nat) :
    written? passes n = if (suffix n).length ≤ passes then some (suffix n) else none := by
  have hplain : ∀ c ∈ suffixChars n, c.toNat < 0x80 := fun c hc =>
    Nat.lt_of_le_of_lt (isLetter_iff.1 (isLetter_of_mem_suffixChars hc)).2 (by decide)
  rw [written?, write?_eq, ← String.length_toList, toList_suffix]
  split
  · rw [Option.map_some, List.nil_append, List.reverse_reverse,
      Text.decodeUtf8_map_toUInt8 hplain, suffix]
  · rfl

example : written? 2 701 = some "ZZ" ∧ written? 3 702 = some "AAA" := by decide

/-! ## The numbering -/

/-- Writing a suffix ends for every number after a pass for each letter, and never goes below zero.
The suffixes are the words of letters, each the suffix of one number, in the order of their length
and then of the alphabet. -/
theorem suffix_enumeratesWords :
    (∀ passes n, written? passes n =
      if (suffix n).length ≤ passes then some (suffix n) else none) ∧
      Set.BijOn suffix Set.univ {text | IsWord text} ∧
      ∀ m n, m < n ↔ Precedes (suffix m) (suffix n) := by
  refine ⟨written?_eq, ⟨fun n _ => isWord_suffix n, suffix_injective.injOn, ?_⟩,
    fun _ _ => lt_iff_precedes⟩
  intro text htext
  obtain ⟨n, hn⟩ := exists_suffix_eq htext
  exact ⟨n, Set.mem_univ n, hn⟩

end Alias

end Typology
