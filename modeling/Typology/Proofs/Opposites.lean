import Typology.Proofs.Verdicts
import Mathlib.Logic.Basic
import Mathlib.Data.List.Basic

/-!
# Opposite questions

Two questions are opposite if each asks for what the other rules out. Both have use for the same
values, and a value that is of use is as asked by exactly one of them.
-/

namespace Typology

/-- The mode that accepts what another one does not. -/
def Mode.opposite : Mode → Mode
  | eq => neq
  | neq => eq
  | gt => leq
  | leq => gt
  | lt => geq
  | geq => lt

@[simp] theorem Mode.opposite_opposite (mode : Mode) : mode.opposite.opposite = mode := by
  cases mode <;> rfl

@[simp] theorem Mode.accepts_opposite (mode : Mode) (o : Ordering) :
    mode.opposite.accepts o = !mode.accepts o := by
  cases mode <;> cases o <;> rfl

theorem Primitive.compareUnder_opposite (mode : Mode) (a b : Primitive) :
    a.compareUnder mode.opposite b = (a.compareUnder mode b).map (!·) := by
  cases mode with
  | eq => rfl
  | neq => exact congrArg some (Bool.not_not _).symm
  | gt | geq | lt | leq =>
      show Option.map _ (a.compareValues b) = Option.map _ (Option.map _ (a.compareValues b))
      rw [Option.map_map]
      exact congrArg (Option.map · _) (funext fun o => Mode.accepts_opposite _ o)

namespace FieldQuery

/-- The pairs of opposite questions about a field. -/
inductive Opposes : FieldQuery → FieldQuery → String → Prop where
  | list (field mode k targets) :
      Opposes (.list field mode k targets) (.list field mode.opposite k targets) field
  | number (field mode k) : Opposes (.number field mode k) (.number field mode.opposite k) field
  | text (field value) {mode} : mode = .eq ∨ mode = .neq →
      Opposes (.text field mode value) (.text field mode.opposite value) field
  | flag (field value) : Opposes (.flag field value) (.flag field !value) field

variable {q q' : FieldQuery} {field : String} {s : LanguageSet} {quorum : Quorum} {l : Language}
variable {v : Value}

/-- Both questions fail alike, or both are answered and the languages that are not set aside are
split between them. -/
inductive Splits (s : LanguageSet) :
    Except QueryError Matches → Except QueryError Matches → Prop where
  | shortfall (shortfall : Shortfall) :
      Splits s (.error (.quorum shortfall)) (.error (.quorum shortfall))
  | found {m m' : Matches} :
      m.noData = m'.noData →
      (∀ l ∈ s.languages, l ∉ m.noData →
        Xor (l ∈ m.toList.map Match.language) (l ∈ m'.toList.map Match.language)) →
      ((m.toList.map Match.language ++ m'.toList.map Match.language) ++ m.noData).Perm
        s.languages →
      Splits s (.ok m) (.ok m')

namespace Opposes

theorem symm (h : Opposes q q' field) : Opposes q' q field := by
  cases h with
  | list _ mode k targets =>
      have hback := Opposes.list field mode.opposite k targets
      rwa [Mode.opposite_opposite] at hback
  | number _ mode k =>
      have hback := Opposes.number field mode.opposite k
      rwa [Mode.opposite_opposite] at hback
  | @text _ value mode hmode =>
      have hback := @Opposes.text field value mode.opposite
        (hmode.symm.imp (congrArg Mode.opposite) (congrArg Mode.opposite))
      rwa [Mode.opposite_opposite] at hback
  | flag _ value =>
      have hback := Opposes.flag field !value
      rwa [Bool.not_not] at hback

theorem concerns (h : Opposes q q' field) : q.Concerns field := by
  cases h with
  | list => exact .list _ _ _ _
  | number => exact .number _ _ _
  | text _ _ hmode => exact .text _ _ hmode
  | flag => exact .flag _ _

theorem usable_eq (h : Opposes q q' field) (v : Value) : q'.usable v = q.usable v := by
  cases h with
  | number _ mode k =>
      cases v with
      | single p =>
          rw [usable_single, usable_single, Primitive.compareUnder_opposite, Option.isSome_map]
      | list items => rfl
  | list | text | flag => rcases v with (_ | _ | _ | _) | _ <;> rfl

theorem fulfilled_eq (h : Opposes q q' field) (hv : q.usable v = true) :
    q'.fulfilled v = !q.fulfilled v := by
  cases h with
  | list _ mode k targets =>
      cases v with
      | single p => cases hv
      | list items => exact Mode.accepts_opposite _ _
  | number _ mode k =>
      cases v with
      | list items => cases hv
      | single p =>
          rw [usable_single, Bool.and_eq_true] at hv
          obtain ⟨answer, hanswer⟩ := Option.isSome_iff_exists.1 hv.2
          rw [fulfilled, fulfilled, Primitive.compareUnder_opposite, hanswer]
          cases answer <;> rfl
  | text _ value hmode =>
      rcases v with (_ | _ | _ | t) | _
      case single.text =>
        rcases hmode with rfl | rfl
        · rfl
        · exact (Bool.not_not _).symm
      all_goals cases hv
  | flag _ value =>
      rcases v with (b | _ | _ | _) | _
      case single.bool => cases b <;> cases value <;> rfl
      all_goals cases hv

theorem lacks_eq (h : Opposes q q' field) (l : Language) : q'.lacks field l = q.lacks field l := by
  simp only [lacks, h.usable_eq]

theorem fits_eq (h : Opposes q q' field) (hl : q.lacks field l = false) :
    q'.fits field l = !q.fits field l := by
  cases hv : l.get? field with
  | none => rw [lacks_none q hv] at hl; cases hl
  | some v =>
      rw [lacks_some q hv, Bool.not_eq_false'] at hl
      rw [fits_some q hv, fits_some q' hv, h.usable_eq, hl, Bool.true_and, Bool.true_and,
        h.fulfilled_eq hl]

theorem aside_eq (h : Opposes q q' field) (s : LanguageSet) : q'.aside field s = q.aside field s :=
  List.filter_congr fun l _ => h.lacks_eq l

theorem present_eq (h : Opposes q q' field) (s : LanguageSet) :
    q'.present field s = q.present field s := by
  rw [present, present, h.aside_eq]

theorem mem_filter_fits_iff (h : Opposes q q' field) (hl : l ∈ s.languages)
    (haside : l ∉ q.aside field s) :
    l ∈ s.languages.filter (q'.fits field) ↔ l ∉ s.languages.filter (q.fits field) := by
  have hlacks : q.lacks field l = false :=
    Bool.eq_false_iff.2 fun hlacks => haside (List.mem_filter.2 ⟨hl, hlacks⟩)
  rw [List.mem_filter, List.mem_filter, h.fits_eq hlacks]
  simp [hl]

theorem filter_fits_perm (h : Opposes q q' field) (s : LanguageSet) :
    (s.languages.filter (q.fits field) ++ s.languages.filter (q'.fits field)).Perm
      (s.languages.filter fun l => !q.lacks field l) := by
  -- both filters are taken over the languages that are not set aside, where one negates the other
  have hfits : s.languages.filter (q.fits field) =
      (s.languages.filter fun l => !q.lacks field l).filter (q.fits field) := by
    rw [List.filter_filter]
    refine List.filter_congr fun l _ => ?_
    cases hl : q.lacks field l <;> simp [fits, hl]
  have hfits' : s.languages.filter (q'.fits field) =
      (s.languages.filter fun l => !q.lacks field l).filter fun l => !q.fits field l := by
    rw [List.filter_filter]
    refine List.filter_congr fun l _ => ?_
    cases hl : q.lacks field l with
    | true => simp [fits, h.lacks_eq, hl]
    | false => simp [h.fits_eq hl]
  rw [hfits, hfits']
  exact List.filter_append_perm _ _

theorem perm_languages (h : Opposes q q' field) (s : LanguageSet) :
    ((s.languages.filter (q.fits field) ++ s.languages.filter (q'.fits field)) ++
      q.aside field s).Perm s.languages :=
  ((h.filter_fits_perm s).append_right _).trans
    (List.perm_append_comm.trans (List.filter_append_perm _ _))

end Opposes

/-- Opposite questions miss the quorum together, or split the languages that have data. -/
theorem run_splits (h : Opposes q q' field) (s : LanguageSet) (quorum : Quorum) :
    Splits s (q.run s quorum) (q'.run s quorum) := by
  have hq := h.concerns
  have hq' := h.symm.concerns
  have hrun' := hq'.run_cases s quorum
  rw [h.present_eq] at hrun'
  rcases hq.run_cases s quorum with ⟨hcheck, hrun⟩ | ⟨hcheck, m, hrun⟩
  · rcases hrun' with ⟨-, hrun'⟩ | ⟨hcheck', -⟩
    · rw [hrun, hrun']
      exact .shortfall _
    · cases hcheck.symm.trans hcheck'
  · rcases hrun' with ⟨hcheck', -⟩ | ⟨-, m', hrun'⟩
    · cases hcheck.symm.trans hcheck'
    · rw [hrun, hrun']
      have hm : m.toList.map Match.language = _ :=
        (Matches.map_language_toList m).trans (hq.languages_eq hrun)
      have hm' : m'.toList.map Match.language = _ :=
        (Matches.map_language_toList m').trans (hq'.languages_eq hrun')
      have hnoData := hq.noData_eq hrun
      refine .found ?_ (fun l hl haside => ?_) ?_
      · rw [hnoData, hq'.noData_eq hrun', h.aside_eq]
      · rw [hnoData] at haside
        rw [hm, hm', xor_iff_not_iff, h.mem_filter_fits_iff hl haside]
        exact not_iff_self ∘ Iff.symm
      · rw [hm, hm', hnoData]
        exact h.perm_languages s

theorem run_splits_counted :
    Opposes (.number "num_consonants" .gt 20) (.number "num_consonants" .leq 20)
      "num_consonants" ∧
    Splits counted ((number "num_consonants" .gt 20).run counted ⟨0.25⟩)
      ((number "num_consonants" .leq 20).run counted ⟨0.25⟩) :=
  ⟨.number _ .gt _, run_splits (.number _ .gt _) counted ⟨0.25⟩⟩

end FieldQuery

end Typology
