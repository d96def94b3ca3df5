import Typology.Proofs.ElementCount
import Typology.Proofs.FirstFailure

/-!
# What a question finds

A question about a field sets aside the languages that lack it or have a value of another shape.
The quorum is asked about the others, and those whose value is as asked are found, each with the
cause that its own value gives.
-/

namespace Typology

variable {q : FieldQuery} {field : String} {s : LanguageSet} {quorum : Quorum} {l : Language}
variable {m : Matches} {v : Value} {cause : Cause}

theorem Primitive.isSome_compareUnder (mode : Mode) (a b : Primitive) :
    (a.compareUnder mode b).isSome =
      (mode == .eq || mode == .neq || (a.compareValues b).isSome) := by
  cases mode <;> simp [compareUnder]

namespace FieldQuery

/-! ## One value -/

/-- The questions about a field. A text is asked to be equal or not to be. -/
inductive Concerns : FieldQuery → String → Prop where
  | list (field mode k targets) : Concerns (.list field mode k targets) field
  | number (field mode k) : Concerns (.number field mode k) field
  | text (field value) {mode} : mode = .eq ∨ mode = .neq → Concerns (.text field mode value) field
  | flag (field value) : Concerns (.flag field value) field

/-- Whether a value has the shape that a question is about. A float without an order to the given
number is of use for the modes of equality only. -/
def usable : FieldQuery → Value → Bool
  | list _ _ _ _, .list _ => true
  | number _ _ _, .single (.int _) => true
  | number _ mode k, .single (.float x) =>
    mode == .eq || mode == .neq || ((Primitive.float x).compareValues (.int k)).isSome
  | text _ _ _, .single (.text _) => true
  | flag _ _, .single (.bool _) => true
  | _, _ => false

/-- Whether a usable value is as asked. -/
def fulfilled : FieldQuery → Value → Bool
  | list _ mode k targets, .list items => Accepted mode k targets items
  | number _ mode k, .single p => p.compareUnder mode (.int k) == some true
  | text _ .eq value, .single (.text t) => t == value
  | text _ .neq value, .single (.text t) => t != value
  | flag _ value, .single (.bool b) => b == value
  | _, _ => false

/-- The cause that a value gives: the targets among its items, the value itself, or nothing for a
flag. -/
def causeOf : FieldQuery → Value → Cause
  | list _ _ _ targets, .list items => .elements (intersection items targets)
  | flag _ _, _ => .none
  | _, v => .value v

theorem usable_single (field : String) (mode : Mode) (k : Int64) (p : Primitive) :
    (number field mode k).usable (.single p) =
      ((p.shape == .int || p.shape == .float) && (p.compareUnder mode (.int k)).isSome) := by
  rw [Primitive.isSome_compareUnder]
  cases p <;> simp [usable, Primitive.shape, Primitive.compareValues]

namespace Concerns

theorem field?_eq (hq : q.Concerns field) : q.field? = some field := by
  cases hq <;> rfl

theorem exists_answer (hq : q.Concerns field) (v : Value) :
    ∃ answer : Option Bool, q.judge v = verdictOf (q.causeOf v) answer ∧
      q.usable v = answer.isSome ∧ (q.usable v && q.fulfilled v) = (answer == some true) := by
  -- no answer stands for a value that is of no use
  cases hq with
  | list _ mode k targets =>
      cases v with
      | single p => exact ⟨none, rfl, rfl, rfl⟩
      | list items =>
          refine ⟨some (Accepted mode k targets items), ?_, rfl, by simp [usable, fulfilled]⟩
          rw [judge_list]
          cases Accepted mode k targets items <;> rfl
  | number _ mode k =>
      cases v with
      | list items => exact ⟨none, rfl, rfl, rfl⟩
      | single p =>
          have husable := usable_single field mode k p
          cases p with
          | int n | float x =>
              refine ⟨Primitive.compareUnder mode _ (.int k), rfl, husable, ?_⟩
              rw [husable, fulfilled]
              cases Primitive.compareUnder mode _ (.int k) <;> rfl
          | _ => exact ⟨none, rfl, rfl, rfl⟩
  | text _ value hmode =>
      cases v with
      | list items => exact ⟨none, rfl, rfl, rfl⟩
      | single p =>
          cases p with
          | text t =>
              rcases hmode with rfl | rfl
              · refine ⟨some (t == value), ?_, rfl, by simp [usable, fulfilled]⟩
                simp [judge, Value.asText?, Value.asPrimitive?, Primitive.asText?, causeOf]
              · refine ⟨some (t != value), ?_, rfl, by simp [usable, fulfilled]⟩
                simp [judge, Value.asText?, Value.asPrimitive?, Primitive.asText?, causeOf, bne,
                  show (Mode.neq == Mode.eq) = false from rfl]
          | _ => exact ⟨none, rfl, rfl, rfl⟩
  | flag _ value =>
      cases v with
      | list items => exact ⟨none, rfl, rfl, rfl⟩
      | single p =>
          cases p with
          | bool b => exact ⟨some (b == value), rfl, rfl, by simp [usable, fulfilled]⟩
          | _ => exact ⟨none, rfl, rfl, rfl⟩

end Concerns

/-! ## One language -/

/-- Whether a language has no value under a field, or one that is of no use. -/
def lacks (q : FieldQuery) (field : String) (l : Language) : Bool :=
  (l.get? field).all fun v => !q.usable v

/-- Whether a language has a usable value, and it is as asked. -/
def fits (q : FieldQuery) (field : String) (l : Language) : Bool :=
  !q.lacks field l && (l.get? field).any q.fulfilled

theorem lacks_none (q : FieldQuery) (h : l.get? field = none) : q.lacks field l = true := by
  rw [lacks, h, Option.all_none]

theorem lacks_some (q : FieldQuery) (h : l.get? field = some v) :
    q.lacks field l = !q.usable v := by
  rw [lacks, h, Option.all_some]

theorem fits_none (q : FieldQuery) (h : l.get? field = none) : q.fits field l = false := by
  rw [fits, lacks_none q h, Bool.not_true, Bool.false_and]

theorem fits_some (q : FieldQuery) (h : l.get? field = some v) :
    q.fits field l = (q.usable v && q.fulfilled v) := by
  rw [fits, lacks_some q h, h, Option.any_some, Bool.not_not]

theorem Concerns.setsAside_eq (hq : q.Concerns field) (l : Language) :
    q.setsAside field l = q.lacks field l := by
  cases h : l.get? field with
  | none => rw [setsAside_none q h, lacks_none q h]
  | some v =>
      obtain ⟨answer, hjudge, husable, -⟩ := hq.exists_answer v
      rw [setsAside, lacks_some q h, h, Option.map_some, hjudge, husable]
      rcases answer with _ | _ | _ <;> rfl

theorem Concerns.cause?_eq (hq : q.Concerns field) (l : Language) :
    q.cause? field l = if q.fits field l then (l.get? field).map q.causeOf else none := by
  cases h : l.get? field with
  | none => rw [cause?_none q h, fits_none q h]; rfl
  | some v =>
      obtain ⟨answer, hjudge, -, hfulfilled⟩ := hq.exists_answer v
      rw [cause?, fits_some q h, h, Option.map_some, hjudge, hfulfilled]
      rcases answer with _ | _ | _ <;> rfl

theorem Concerns.isSome_cause? (hq : q.Concerns field) (l : Language) :
    (q.cause? field l).isSome = q.fits field l := by
  rw [hq.cause?_eq]
  cases h : l.get? field with
  | none => rw [fits_none q h]; rfl
  | some v => cases q.fits field l <;> rfl

/-! ## All languages -/

/-- The languages of a set that have no usable value under a field. -/
def aside (q : FieldQuery) (field : String) (s : LanguageSet) : List Language :=
  s.languages.filter (q.lacks field)

/-- The number of the other languages. -/
def present (q : FieldQuery) (field : String) (s : LanguageSet) : Nat :=
  s.size - (q.aside field s).length

/-- What comes of a question about a field. Either the languages with a usable value are too few, or
the languages found are those that fit, each with the cause that its own value gives. -/
inductive Outcome (q : FieldQuery) (field : String) (s : LanguageSet) (quorum : Quorum) :
    Except QueryError Matches → Prop where
  | shortfall :
      quorum.check field (q.present field s) s.size =
        .error ⟨field, q.present field s, s.size, quorum.threshold⟩ →
      Outcome q field s quorum
        (.error (.quorum ⟨field, q.present field s, s.size, quorum.threshold⟩))
  | found {m : Matches} :
      quorum.check field (q.present field s) s.size = .ok () →
      m.noData = q.aside field s →
      m.toList.map Match.language = s.languages.filter (q.fits field) →
      m.languages.languages = m.toList.map Match.language →
      (∀ found ∈ m.toList, ∃ v, found.language.get? field = some v ∧ found.cause = q.causeOf v) →
      Outcome q field s quorum (.ok m)

theorem present_eq_countP (hq : q.Concerns field) (s : LanguageSet) :
    (s.languages.countP fun l => !q.setsAside field l) = q.present field s := by
  have hsum := List.length_eq_countP_add_countP (q.lacks field) (l := s.languages)
  simp only [hq.setsAside_eq, present, aside, LanguageSet.size, ← List.countP_eq_length_filter]
  simp only [Bool.not_eq_true, Bool.decide_eq_false] at hsum
  omega

namespace Concerns

theorem noData_eq (hq : q.Concerns field) (h : q.run s quorum = .ok m) :
    m.noData = q.aside field s := by
  rw [eq_ofJudged_of_run hq.field?_eq h, noData_ofJudged]
  exact List.filter_congr fun l _ => hq.setsAside_eq l

theorem languages_eq (hq : q.Concerns field) (h : q.run s quorum = .ok m) :
    m.languages.languages = s.languages.filter (q.fits field) := by
  rw [eq_ofJudged_of_run hq.field?_eq h, languages_ofJudged]
  exact List.filter_congr fun l _ => hq.isSome_cause? l

theorem cause_eq {found : Match} (hq : q.Concerns field) (h : q.run s quorum = .ok m)
    (hfound : found ∈ m.toList) :
    ∃ v, found.language.get? field = some v ∧ q.usable v = true ∧ found.cause = q.causeOf v := by
  rw [eq_ofJudged_of_run hq.field?_eq h, toList_ofJudged, List.mem_filterMap] at hfound
  obtain ⟨l, -, hl⟩ := hfound
  obtain ⟨cause, hcause, rfl⟩ := Option.map_eq_some_iff.1 hl
  rw [hq.cause?_eq] at hcause
  split at hcause
  · rename_i hfits
    obtain ⟨v, hv, rfl⟩ := Option.map_eq_some_iff.1 hcause
    rw [fits_some q hv, Bool.and_eq_true] at hfits
    exact ⟨v, hv, hfits.1, rfl⟩
  · cases hcause

theorem run_cases (hq : q.Concerns field) (s : LanguageSet) (quorum : Quorum) :
    (quorum.check field (q.present field s) s.size =
        .error ⟨field, q.present field s, s.size, quorum.threshold⟩ ∧
      q.run s quorum = .error (.quorum ⟨field, q.present field s, s.size, quorum.threshold⟩)) ∨
    quorum.check field (q.present field s) s.size = .ok () ∧ ∃ m, q.run s quorum = .ok m := by
  rw [run_eq hq.field?_eq, present_eq_countP hq]
  by_cases hcheck : quorum.check field (q.present field s) s.size = .ok ()
  · rw [hcheck]
    exact .inr ⟨rfl, _, rfl⟩
  · rw [Quorum.check_eq_error hcheck]
    exact .inl ⟨rfl, rfl⟩

end Concerns

/-- A question about a field accounts for every language of a set: it sets aside those that lack a
usable value, finds those that fit, and gives the cause of each from its own value. -/
theorem run_outcome (hq : q.Concerns field) (s : LanguageSet) (quorum : Quorum) :
    Outcome q field s quorum (q.run s quorum) := by
  rcases hq.run_cases s quorum with ⟨hcheck, hrun⟩ | ⟨hcheck, m, hrun⟩
  · rw [hrun]
    exact .shortfall hcheck
  · rw [hrun]
    have hlanguages := Matches.map_language_toList m
    refine .found hcheck (hq.noData_eq hrun) ?_ hlanguages.symm fun found hfound => ?_
    · rw [hlanguages, hq.languages_eq hrun]
    · obtain ⟨v, hv, -, hcause⟩ := hq.cause_eq hrun hfound
      exact ⟨v, hv, hcause⟩

/-- Five languages with a number of consonants that is whole, a float, not a number, a word, and not
recorded. -/
def counted : LanguageSet :=
  .ofUnique
    [.sample ⟨"English", "Ada", "a1"⟩ [("num_consonants", .single (.int 24))] rfl,
      .sample ⟨"Yoruba", "Ada", "a2"⟩ [("num_consonants", .single (.float (.ofFloat 18)))] rfl,
      .sample ⟨"Hausa", "Ben", "b1"⟩ [("num_consonants", .single (.float (.ofFloat (0 / 0))))] rfl,
      .sample ⟨"Zulu", "Ben", "b2"⟩ [("num_consonants", .single (.text "many"))] rfl,
      .sample ⟨"Ewe", "Ben", "b3"⟩ [] rfl]

set_option maxRecDepth 100000 in
theorem run_outcome_counted :
    (number "num_consonants" .leq 20).Concerns "num_consonants" ∧
    ((number "num_consonants" .leq 20).aside "num_consonants" counted).map Language.name =
      ["Hausa", "Zulu", "Ewe"] ∧
    Outcome (number "num_consonants" .leq 20) "num_consonants" counted ⟨0.25⟩
      ((number "num_consonants" .leq 20).run counted ⟨0.25⟩) :=
  ⟨.number _ _ _, by decide +kernel, run_outcome (.number _ _ _) counted ⟨0.25⟩⟩

end FieldQuery

end Typology
