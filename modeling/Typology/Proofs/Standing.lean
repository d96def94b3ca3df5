import Typology.Evaluation
import Typology.Proofs.Chain

/-!
# The steps of a query for one language

What becomes of a language in a query can be told from the language alone: a step gives it a new
standing or makes it leave. The quorum is the only thing that looks at several languages at once.
-/

namespace Typology

namespace Transformation

variable {t : Transformation} {source : TransformError}

/-- Whether a failure ends a query: all do but a datapoint that an extractor misses. -/
def Aborts (t : Transformation) (source : TransformError) : Prop :=
  ¬(t.kind = .extractor ∧ ∃ language field, source = .missingDatapoint language field)

theorem lacks?_eq_none_iff : t.lacks? source = none ↔ t.Aborts source := by
  unfold lacks? Aborts
  cases source with
  | missingDatapoint language field => by_cases hk : t.kind = .extractor <;> simp [hk]
  | _ => simp

/-- A transformation spares a reading unless it fails on it in a way that ends a query. -/
def Spares (t : Transformation) (r : Reading) : Prop :=
  ∀ source, t.apply r = .error source → ¬t.Aborts source

end Transformation

/-- All that a query knows of an active language. -/
structure Standing where
  language : Language
  reading : Reading
  /-- The values that were captured so far. -/
  captured : List Value
  rationale : Option Value

/-- How a language leaves a query. -/
inductive Departure where
  | missing (datum : MissingDatum)
  /-- A filter drops it, at the step with the given number. -/
  | dropped (step : Nat)
  | failed (error : QueryError)

namespace Standing

/-- The standing of a language before the first step. -/
def start (l : Language) : Standing := ⟨l, .language l, [], none⟩

/-- Takes over what a transformation gave. -/
def take (st : Standing) (t : Transformation) (output : Value) : Standing :=
  { st with
    reading := .value output
    rationale := if t.kind = .predicate then st.rationale else some output }

/-- Remembers a value. -/
def capture (st : Standing) (v : Value) : Standing := { st with captured := st.captured ++ [v] }

/-- The row of a language with this standing. -/
def row (st : Standing) : Row := ⟨st.language.name, st.reading, st.captured.map some, st.rationale⟩

/-- Carries out the step with the given number. -/
def pass (number : Nat) (st : Standing) : Step → Except Departure Standing
  | .transform t =>
    match t.apply st.reading with
    | .ok output => .ok (st.take t output)
    | .error source =>
      match t.lacks? source with
      | some field => .error (.missing ⟨number, field, st.language.name⟩)
      | none => .error (.failed (.transformation number t.name st.language.name source))
  | .directive .extractContext =>
    match st.reading with
    | .language _ => .error (.failed (.contextFromLanguages number))
    | .value v => .ok (st.capture v)
  | .directive .filter =>
    match st.reading.asBool? with
    | some true => .ok st
    | some false => .error (.dropped number)
    | none => .error (.failed (.nonBooleanFilter number st.language.name st.reading.typeName))

/-- Carries out steps one after the other, the first of them with the given number. -/
def course : Nat → List Step → Standing → Except Departure Standing
  | _, [], st => .ok st
  | number, s :: rest, st => (st.pass number s).bind (course (number + 1) rest)

/-- The datum that an outcome leaves a language out for. -/
def datumOf : Except Departure Standing → Option MissingDatum
  | .error (.missing datum) => some datum
  | _ => none

/-- The error that an outcome makes the whole query fail with. -/
def faultOf : Except Departure Standing → Option QueryError
  | .error (.failed error) => some error
  | _ => none

/-- The standings after one step of those that it keeps. -/
def survivors (number : Nat) (s : Step) (sts : List Standing) : List Standing :=
  sts.filterMap fun st => (st.pass number s).toOption

/-- What one step leaves languages out for. -/
def lacking (number : Nat) (s : Step) (sts : List Standing) : List MissingDatum :=
  sts.filterMap fun st => datumOf (st.pass number s)

/-- The fault of the first language that has one at a step. -/
def firstFault? (number : Nat) (s : Step) (sts : List Standing) : Option QueryError :=
  sts.findSome? fun st => faultOf (st.pass number s)

@[simp] theorem start_language (l : Language) : (start l).language = l := rfl

variable {n : Nat} {s : Step} {steps : List Step} {st st' : Standing} {d : MissingDatum}
variable {t : Transformation} {v : Value} {source : TransformError} {field : String}
variable {error : QueryError}

/-! ## One step -/

theorem pass_transform_ok (h : t.apply st.reading = .ok v) :
    st.pass n (.transform t) = .ok (st.take t v) := by
  simp only [pass, h]

theorem pass_transform_missing (h : t.apply st.reading = .error source)
    (hf : t.lacks? source = some field) :
    st.pass n (.transform t) = .error (.missing ⟨n, field, st.language.name⟩) := by
  simp only [pass, h, hf]

theorem pass_transform_failed (h : t.apply st.reading = .error source)
    (hf : t.lacks? source = none) :
    st.pass n (.transform t) =
      .error (.failed (.transformation n t.name st.language.name source)) := by
  simp only [pass, h, hf]

theorem pass_extractContext (h : st.reading = .value v) :
    st.pass n (.directive .extractContext) = .ok (st.capture v) := by
  simp only [pass, h]

theorem pass_extractContext_language {l : Language} (h : st.reading = .language l) :
    st.pass n (.directive .extractContext) = .error (.failed (.contextFromLanguages n)) := by
  simp only [pass, h]

theorem pass_filter (n : Nat) (st : Standing) :
    st.pass n (.directive .filter) =
      match st.reading.asBool? with
      | some true => .ok st
      | some false => .error (.dropped n)
      | none => .error (.failed (.nonBooleanFilter n st.language.name st.reading.typeName)) := rfl

/-- What a step can do to a standing that stays. -/
theorem pass_ok_cases (h : st.pass n s = .ok st') :
    (∃ t v, s = .transform t ∧ t.apply st.reading = .ok v ∧ st' = st.take t v) ∨
    (∃ v, s = .directive .extractContext ∧ st.reading = .value v ∧ st' = st.capture v) ∨
    (s = .directive .filter ∧ st.reading.asBool? = some true ∧ st' = st) := by
  unfold pass at h
  split at h
  · split at h
    · rename_i t _ v hv
      cases h
      exact .inl ⟨t, v, rfl, hv, rfl⟩
    · split at h <;> cases h
  · split at h
    · cases h
    · rename_i v hv
      cases h
      exact .inr (.inl ⟨v, rfl, hv, rfl⟩)
  · split at h
    · cases h
      exact .inr (.inr ⟨rfl, ‹_›, rfl⟩)
    · cases h
    · cases h

theorem pass_missing (h : st.pass n s = .error (.missing d)) :
    ∃ t source, s = .transform t ∧ t.apply st.reading = .error source ∧
      t.lacks? source = some d.field ∧ d.step = n ∧ d.language = st.language.name := by
  unfold pass at h
  split at h
  · split at h
    · cases h
    · rename_i t _ source hs
      split at h
      · rename_i field hf
        cases h
        exact ⟨t, source, rfl, hs, hf, rfl, rfl⟩
      · cases h
  · split at h <;> cases h
  · split at h <;> cases h

theorem pass_dropped {k : Nat} (h : st.pass n s = .error (.dropped k)) :
    s = .directive .filter ∧ st.reading.asBool? = some false := by
  unfold pass at h
  split at h
  · split at h
    · cases h
    · split at h <;> cases h
  · split at h <;> cases h
  · split at h
    · cases h
    · exact ⟨rfl, ‹_›⟩
    · cases h

theorem pass_language (h : st.pass n s = .ok st') : st'.language = st.language := by
  rcases pass_ok_cases h with ⟨t, v, -, -, rfl⟩ | ⟨v, -, -, rfl⟩ | ⟨-, -, rfl⟩ <;> rfl

theorem pass_directive_reading {d : Directive} (h : st.pass n (.directive d) = .ok st') :
    st'.reading = st.reading := by
  rcases pass_ok_cases h with ⟨u, v, hs, -⟩ | ⟨v, -, -, rfl⟩ | ⟨-, -, rfl⟩
  · cases hs
  · rfl
  · rfl

theorem pass_predicate_rationale (hk : t.kind = .predicate)
    (h : st.pass n (.transform t) = .ok st') : st'.rationale = st.rationale := by
  rcases pass_ok_cases h with ⟨u, v, hs, -, rfl⟩ | ⟨v, hs, -⟩ | ⟨hs, -⟩ <;> cases hs
  exact if_pos hk

theorem pass_directive_rationale {d : Directive} (h : st.pass n (.directive d) = .ok st') :
    st'.rationale = st.rationale := by
  rcases pass_ok_cases h with ⟨u, v, hs, -⟩ | ⟨v, -, -, rfl⟩ | ⟨-, -, rfl⟩
  · cases hs
  · rfl
  · rfl

/-! ## Faults of one language -/

theorem faultOf_transform_eq_some :
    faultOf (st.pass n (.transform t)) = some error ↔
      ∃ source, t.apply st.reading = .error source ∧ t.Aborts source ∧
        error = .transformation n t.name st.language.name source := by
  cases h : t.apply st.reading with
  | ok v => simp [pass_transform_ok h, faultOf]
  | error source =>
      cases hf : t.lacks? source with
      | none =>
          have ha := Transformation.lacks?_eq_none_iff.1 hf
          simp [pass_transform_failed h hf, faultOf, ha, eq_comm]
      | some field =>
          have ha : ¬t.Aborts source := by
            rw [← Transformation.lacks?_eq_none_iff, hf]
            exact Option.some_ne_none field
          simp [pass_transform_missing h hf, faultOf, ha]

theorem faultOf_transform_eq_none :
    faultOf (st.pass n (.transform t)) = none ↔ t.Spares st.reading := by
  rw [Option.eq_none_iff_forall_ne_some]
  constructor
  · intro h source hs ha
    exact h _ (faultOf_transform_eq_some.2 ⟨source, hs, ha, rfl⟩)
  · intro h error hf
    obtain ⟨source, hs, ha, -⟩ := faultOf_transform_eq_some.1 hf
    exact h source hs ha

theorem faultOf_extractContext_eq_some :
    faultOf (st.pass n (.directive .extractContext)) = some error ↔
      (∃ l, st.reading = .language l) ∧ error = .contextFromLanguages n := by
  cases h : st.reading with
  | language l => simp [pass_extractContext_language h, faultOf, eq_comm]
  | value v => simp [pass_extractContext h, faultOf]

theorem faultOf_filter_eq_some :
    faultOf (st.pass n (.directive .filter)) = some error ↔
      st.reading.asBool? = none ∧
        error = .nonBooleanFilter n st.language.name st.reading.typeName := by
  rw [pass_filter]
  cases st.reading.asBool? with
  | none => simp [faultOf, eq_comm]
  | some b => cases b <;> simp [faultOf]

theorem faultOf_filter_eq_none :
    faultOf (st.pass n (.directive .filter)) = none ↔ st.reading.asBool? ≠ none := by
  rw [Option.eq_none_iff_forall_ne_some]
  constructor
  · intro h hb
    exact h _ (faultOf_filter_eq_some.2 ⟨hb, rfl⟩)
  · intro h error hf
    exact h (faultOf_filter_eq_some.1 hf).1

/-! ## A course of steps -/

theorem course_cons_ok (h : st.pass n s = .ok st') (rest : List Step) :
    st.course n (s :: rest) = st'.course (n + 1) rest := by
  rw [course, h]
  rfl

theorem course_cons_error {departure : Departure} (h : st.pass n s = .error departure)
    (rest : List Step) : st.course n (s :: rest) = .error departure := by
  rw [course, h]
  rfl

theorem course_eq_chain : course = chain fun n st s => st.pass n s := by
  funext n steps st
  induction steps generalizing n st with
  | nil => rfl
  | cons s rest ih =>
      cases hp : st.pass n s with
      | error departure => rw [course_cons_error hp, chain_cons_error hp]
      | ok st' => rw [course_cons_ok hp, chain_cons_ok hp, ih]

theorem course_cons_eq_ok {rest : List Step} (h : st.course n (s :: rest) = .ok st') :
    ∃ st₁, st.pass n s = .ok st₁ ∧ st₁.course (n + 1) rest = .ok st' := by
  rw [course_eq_chain] at h ⊢
  exact chain_cons_eq_ok h

theorem course_language (h : course n steps st = .ok st') : st'.language = st.language := by
  induction steps generalizing n st with
  | nil => cases h; rfl
  | cons s rest ih =>
      obtain ⟨st₁, hp, hrest⟩ := course_cons_eq_ok h
      rw [ih hrest, pass_language hp]

theorem course_append (n : Nat) (before after : List Step) (st : Standing) :
    st.course n (before ++ after) =
      (st.course n before).bind (course (n + before.length) after) := by
  rw [course_eq_chain]
  exact chain_append _ n before after st

theorem course_append_eq_ok {before after : List Step}
    (h : st.course n (before ++ after) = .ok st') :
    ∃ st₁, st.course n before = .ok st₁ ∧ st₁.course (n + before.length) after = .ok st' := by
  rw [course_eq_chain] at h ⊢
  exact chain_append_eq_ok h

/-- A language leaves at a step that it reaches and that does not keep it. -/
theorem course_error_iff {departure : Departure} :
    st.course n steps = .error departure ↔
      ∃ before s after st', steps = before ++ s :: after ∧ st.course n before = .ok st' ∧
        st'.pass (n + before.length) s = .error departure := by
  rw [course_eq_chain]
  exact chain_error_iff

/-- A language is left out for a datum by a transformation that lacks a field in what the steps
before it gave. -/
theorem course_missing (h : course n steps st = .error (.missing d)) :
    ∃ before t after st' source, steps = before ++ .transform t :: after ∧
      course n before st = .ok st' ∧ t.apply st'.reading = .error source ∧
      t.lacks? source = some d.field ∧ d.step = n + before.length ∧
      d.language = st.language.name := by
  obtain ⟨before, s, after, st', hsteps, hc, hp⟩ := course_error_iff.1 h
  obtain ⟨t, source, rfl, hs, hf, hd, hl⟩ := pass_missing hp
  exact ⟨before, t, after, st', source, hsteps, hc, hs, hf, hd, by rw [hl, course_language hc]⟩

theorem course_missing_step (h : course n steps st = .error (.missing d)) : n ≤ d.step := by
  obtain ⟨_, _, _, _, _, _, _, _, _, hd, _⟩ := course_missing h
  omega

end Standing

end Typology
