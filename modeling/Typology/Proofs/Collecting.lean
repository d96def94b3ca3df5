import Typology.Proofs.Positions
import Typology.Proofs.Standing

/-!
# What a step keeps of several languages

The loops over the active languages gather positions and values. Both are told here from what the
step does to each language on its own: the positions are those of the languages that stay, and the
first fault is the fault of the loop.
-/

namespace Typology

variable {σ β : Type} {n : Nat} {s : Step} {sts : List Standing} {t : Transformation}

/-! ## What a step keeps -/

namespace Standing

/-- Whether a language stays at a step. -/
def stays (number : Nat) (s : Step) (st : Standing) : Bool := (st.pass number s).toBool

theorem isSome_toOption {ε : Type} (x : Except ε β) : x.toOption.isSome = x.toBool := by
  cases x <;> rfl

/-- A part that a function keeps is, after it, that of the items for which it succeeds. -/
theorem map_filterMap_toOption {ε : Type} {f : σ → Except ε σ} {g : σ → β}
    (hg : ∀ x y, f x = .ok y → g y = g x) (xs : List σ) :
    (xs.filterMap fun x => (f x).toOption).map g = (xs.filter fun x => (f x).toBool).map g := by
  induction xs with
  | nil => rfl
  | cons x xs ih =>
      cases h : f x with
      | ok y =>
          rw [List.filterMap_cons_some (by rw [h]; rfl), List.filter_cons_of_pos (by rw [h]; rfl),
            List.map_cons, List.map_cons, ih, hg x y h]
      | error d =>
          rw [List.filterMap_cons_none (by rw [h]; rfl),
            List.filter_cons_of_neg (by rw [h]; exact Bool.false_ne_true), ih]

theorem mem_filterMap_toOption {ε : Type} {f : σ → Except ε σ} {xs : List σ} {y : σ} :
    y ∈ xs.filterMap (fun x => (f x).toOption) ↔ ∃ x ∈ xs, f x = .ok y := by
  rw [List.mem_filterMap]
  refine exists_congr fun x => and_congr_right fun _ => ?_
  cases f x with
  | ok z => exact ⟨fun h => by cases h; rfl, fun h => by cases h; rfl⟩
  | error d => exact ⟨fun h => (nomatch h), fun h => (nomatch h)⟩

theorem mem_survivors {st' : Standing} :
    st' ∈ survivors n s sts ↔ ∃ st ∈ sts, st.pass n s = .ok st' :=
  mem_filterMap_toOption

theorem survivors_map {g : Standing → β}
    (hg : ∀ st st', st.pass n s = .ok st' → g st' = g st) (sts : List Standing) :
    (survivors n s sts).map g = (sts.filter (stays n s)).map g :=
  map_filterMap_toOption hg sts

theorem survivors_language (n : Nat) (s : Step) (sts : List Standing) :
    (survivors n s sts).map (·.language) = (sts.filter (stays n s)).map (·.language) :=
  survivors_map (fun _ _ => pass_language) sts

theorem length_survivors (n : Nat) (s : Step) (sts : List Standing) :
    (survivors n s sts).length = sts.countP (stays n s) := by
  have h := congrArg List.length (survivors_language n s sts)
  rwa [List.length_map, List.length_map, ← List.countP_eq_length_filter] at h

theorem lacking_cons (n : Nat) (s : Step) (st : Standing) (sts : List Standing) :
    lacking n s (st :: sts) = (datumOf (st.pass n s)).toList ++ lacking n s sts :=
  filterMap_cons_toList _ st sts

theorem firstFault?_cons (n : Nat) (s : Step) (st : Standing) (sts : List Standing) :
    firstFault? n s (st :: sts) = (faultOf (st.pass n s)).or (firstFault? n s sts) := by
  unfold firstFault?
  rw [List.findSome?_cons]
  cases faultOf (st.pass n s) <;> rfl

theorem lacking_directive (n : Nat) (d : Directive) (sts : List Standing) :
    lacking n (.directive d) sts = [] := by
  refine List.filterMap_eq_nil_iff.2 fun st _ => ?_
  cases h : st.pass n (.directive d) with
  | ok st' => rfl
  | error departure =>
      cases departure with
      | missing datum =>
          obtain ⟨t, source, hs, -⟩ := pass_missing h
          cases hs
      | dropped k => rfl
      | failed error => rfl

theorem firstFault?_eq_none (h : ∀ st ∈ sts, faultOf (st.pass n s) = none) :
    firstFault? n s sts = none :=
  List.findSome?_eq_none_iff.2 h

theorem survivors_map_of_stays {g : Standing → β}
    (hg : ∀ st st', st.pass n s = .ok st' → g st' = g st) (h : ∀ st ∈ sts, stays n s st) :
    (survivors n s sts).map g = sts.map g := by
  rw [survivors_map hg, List.filter_eq_self.2 h]

/-- What a transformation gives for the languages that it gives something for. -/
def outputs (t : Transformation) (sts : List Standing) : List Value :=
  sts.filterMap fun st => (t.apply st.reading).toOption

theorem outputs_cons (t : Transformation) (st : Standing) (sts : List Standing) :
    outputs t (st :: sts) = (t.apply st.reading).toOption.toList ++ outputs t sts :=
  filterMap_cons_toList _ st sts

theorem pass_transform_toOption (n : Nat) (t : Transformation) (st : Standing) :
    (st.pass n (.transform t)).toOption = (t.apply st.reading).toOption.map (st.take t) := by
  cases h : t.apply st.reading with
  | ok v => rw [pass_transform_ok h]; rfl
  | error source =>
      cases hf : t.lacks? source with
      | none => rw [pass_transform_failed h hf]; rfl
      | some field => rw [pass_transform_missing h hf]; rfl

theorem survivors_transform_map (g : Standing → β) (f : Value → β)
    (hg : ∀ (st : Standing) v, g (st.take t v) = f v) (sts : List Standing) :
    (survivors n (.transform t) sts).map g = (outputs t sts).map f := by
  unfold survivors outputs
  simp only [pass_transform_toOption]
  rw [List.map_filterMap, List.map_filterMap]
  congr 1
  funext st
  cases (t.apply st.reading).toOption with
  | none => rfl
  | some v => exact congrArg some (hg st v)

/-! ## Several steps -/

/-- The standings after a course of steps, of the languages that are still there. -/
def remaining (n : Nat) (steps : List Step) (sts : List Standing) : List Standing :=
  sts.filterMap fun st => (st.course n steps).toOption

/-- What is lacking in a course of steps, by step and then in the order of the languages. -/
def lackingIn (n : Nat) (steps : List Step) (sts : List Standing) : List MissingDatum :=
  (List.range' n steps.length).flatMap fun k =>
    sts.filterMap fun st => (datumOf (st.course n steps)).filter (·.step == k)

theorem remaining_nil (n : Nat) (sts : List Standing) : remaining n [] sts = sts :=
  List.filterMap_some

theorem remaining_cons (n : Nat) (s : Step) (steps : List Step) (sts : List Standing) :
    remaining n (s :: steps) sts = remaining (n + 1) steps (survivors n s sts) := by
  unfold remaining survivors
  rw [List.filterMap_filterMap]
  congr 1
  funext st
  cases hp : st.pass n s with
  | ok st₁ => rw [course_cons_ok hp]; rfl
  | error departure => rw [course_cons_error hp]; rfl

theorem remaining_language (n : Nat) (steps : List Step) (sts : List Standing) :
    (remaining n steps sts).map (·.language) =
      (sts.filter fun st => (st.course n steps).toBool).map (·.language) :=
  map_filterMap_toOption (fun _ _ => course_language) sts

theorem mem_remaining {st' : Standing} {steps : List Step} :
    st' ∈ remaining n steps sts ↔ ∃ st ∈ sts, st.course n steps = .ok st' :=
  mem_filterMap_toOption

theorem datumOf_eq_some {outcome : Except Departure Standing} {d : MissingDatum} :
    datumOf outcome = some d ↔ outcome = .error (.missing d) := by
  constructor
  · intro h
    unfold datumOf at h
    split at h
    · cases h; rfl
    · cases h
  · rintro rfl
    rfl

/-- Of what a course lacks, only its first step contributes under its own number. -/
theorem datumOf_course_first (n : Nat) (s : Step) (steps : List Step) (st : Standing) :
    (datumOf (st.course n (s :: steps))).filter (·.step == n) = datumOf (st.pass n s) := by
  cases hp : st.pass n s with
  | error departure =>
      rw [course_cons_error hp]
      cases hd : datumOf (.error departure) with
      | none => rfl
      | some d =>
          obtain ⟨_, _, _, _, _, hn, _⟩ := pass_missing (hp.trans (datumOf_eq_some.1 hd))
          exact Option.filter_some_pos (beq_iff_eq.2 hn)
  | ok st₁ =>
      rw [course_cons_ok hp]
      -- what the later steps lack has later numbers
      refine Option.filter_eq_none_iff.2 fun d hd => ?_
      have := course_missing_step (datumOf_eq_some.1 hd)
      simp only [beq_iff_eq]
      omega

theorem datumOf_course_later {n k : Nat} (hk : n < k) (s : Step) (steps : List Step)
    (st : Standing) :
    (datumOf (st.course n (s :: steps))).filter (·.step == k) =
      (st.pass n s).toOption.bind fun st₁ =>
        (datumOf (st₁.course (n + 1) steps)).filter (·.step == k) := by
  cases hp : st.pass n s with
  | ok st₁ => rw [course_cons_ok hp]; rfl
  | error departure =>
      rw [course_cons_error hp]
      refine Option.filter_eq_none_iff.2 fun d hd => ?_
      obtain ⟨_, _, _, _, _, hn, _⟩ := pass_missing (hp.trans (datumOf_eq_some.1 hd))
      simp only [beq_iff_eq]
      omega

theorem faultOf_eq_some {outcome : Except Departure Standing} {error : QueryError} :
    faultOf outcome = some error ↔ outcome = .error (.failed error) := by
  constructor
  · intro h
    unfold faultOf at h
    split at h
    · cases h; rfl
    · cases h
  · rintro rfl
    rfl

theorem lackingIn_nil (n : Nat) (sts : List Standing) : lackingIn n [] sts = [] := rfl

theorem lackingIn_cons (n : Nat) (s : Step) (steps : List Step) (sts : List Standing) :
    lackingIn n (s :: steps) sts =
      lacking n s sts ++ lackingIn (n + 1) steps (survivors n s sts) := by
  unfold lackingIn survivors
  rw [List.length_cons, List.range'_succ, List.flatMap_cons]
  congr 1
  · exact congrArg (List.filterMap · sts) (funext (datumOf_course_first n s steps))
  · refine List.flatMap_congr fun k hk => ?_
    have hlt : n < k := by have := List.mem_range'_1.1 hk; omega
    rw [List.filterMap_filterMap]
    exact congrArg (List.filterMap · sts) (funext (datumOf_course_later hlt s steps))

/-- If only the first step leaves languages out for a datum, the others lack nothing. -/
theorem lackingIn_cons_of_first {steps : List Step}
    (h : ∀ st ∈ sts, ∀ d, st.course n (s :: steps) = .error (.missing d) → d.step = n) :
    lackingIn n (s :: steps) sts = lacking n s sts := by
  have hrest : lackingIn (n + 1) steps (survivors n s sts) = [] := by
    refine List.flatMap_eq_nil_iff.2 fun k _ => List.filterMap_eq_nil_iff.2 fun st' hst' => ?_
    obtain ⟨st, hst, hp⟩ := mem_survivors.1 hst'
    refine Option.filter_eq_none_iff.2 fun d hd => ?_
    have hcourse := datumOf_eq_some.1 hd
    have hstep := h st hst d ((course_cons_ok hp steps).trans hcourse)
    have := course_missing_step hcourse
    omega
  rw [lackingIn_cons, hrest, List.append_nil]

end Standing

open Standing

/-! ## Collecting -/

/-- Collecting fails with the first fault; without one it keeps what stays. -/
theorem collect_eq (t : Transformation) (n position : Nat) (sts : List Standing) :
    collect t n position (sts.map fun st => (st.language, st.reading)) =
      match firstFault? n (.transform t) sts with
      | some error => .error error
      | none => .ok ⟨sts.findIdxs (stays n (.transform t)) position, outputs t sts,
          lacking n (.transform t) sts⟩ := by
  induction sts generalizing position with
  | nil => rfl
  | cons st sts ih =>
      rw [List.map_cons, collect, ih, firstFault?_cons, List.findIdxs_cons, outputs_cons,
        lacking_cons, stays]
      cases h : t.apply st.reading with
      | ok v =>
          rw [pass_transform_ok h]
          cases firstFault? n (.transform t) sts <;> rfl
      | error source =>
          cases hf : t.lacks? source with
          | none => rw [pass_transform_failed h hf]; simp only [hf]; rfl
          | some field =>
              rw [pass_transform_missing h hf]
              cases firstFault? n (.transform t) sts <;> simp only [hf] <;> rfl

theorem collectTrue_eq (n position : Nat) (sts : List Standing) {values : List Value}
    (hv : sts.map (·.reading) = values.map .value) :
    collectTrue n position ((sts.map (·.language)).zip values) =
      match firstFault? n (.directive .filter) sts with
      | some error => .error error
      | none => .ok ((sts.findIdxs (stays n (.directive .filter)) position).zip
          (values.filter (·.asBool? == some true))) := by
  induction sts generalizing position values with
  | nil => rfl
  | cons st sts ih =>
      cases values with
      | nil => cases hv
      | cons v values =>
          obtain ⟨hst, hrest⟩ := List.cons_eq_cons.1 hv
          have hbool : st.reading.asBool? = v.asBool? := congrArg Reading.asBool? hst
          have htype : st.reading.typeName = v.typeName := congrArg Reading.typeName hst
          rw [List.map_cons, List.zip_cons_cons, collectTrue, ih _ hrest, firstFault?_cons,
            List.findIdxs_cons, List.filter_cons, stays, pass_filter, hbool, htype]
          cases v.asBool? with
          | none => rfl
          | some b => cases b <;> cases firstFault? n (.directive .filter) sts <;> rfl

theorem stays_filter (n : Nat) (st : Standing) :
    stays n (.directive .filter) st = (st.reading.asBool? == some true) := by
  unfold stays
  rw [pass_filter]
  cases st.reading.asBool? with
  | none => rfl
  | some b => cases b <;> rfl

/-- What stays at a filter and which values are true is the same selection. -/
theorem filter_stays_readings (n : Nat) {values : List Value}
    (hv : sts.map (·.reading) = values.map .value) :
    (sts.filter (stays n (.directive .filter))).map (·.reading) =
      (values.filter (·.asBool? == some true)).map .value := by
  have h := congrArg (List.filter fun r : Reading => r.asBool? == some true) hv
  rw [List.filter_map, List.filter_map] at h
  rw [show stays n (.directive .filter) = (fun r => r.asBool? == some true) ∘ Standing.reading from
    funext (stays_filter n)]
  exact h

end Typology
