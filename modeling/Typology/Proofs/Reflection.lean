import Typology.Proofs.Collecting

/-!
# Evaluation language by language

The state of an evaluation holds its languages, what is in hand for them and their rationale in
separate lists. It reflects a list of standings if each list shows one part of them, in their
order. Every step keeps this up, with the standings that it gives to each language on its own.
-/

namespace Typology

open Standing

/-- Each list of the state shows one part of the standings. -/
structure Evaluation.Reflects (e : Evaluation) (sts : List Standing) : Prop where
  languages : e.languageSet.languages = sts.map (·.language)
  readings : e.results.toList = sts.map (·.reading)
  rationale : e.rationale = sts.map (·.rationale)
  /-- Until there are values, the languages in hand are the active ones. -/
  whole : ∀ s, e.results = .languages s → s = e.languageSet

/-- Why a step fails for a list of standings, with the error. `fresh` says that no transformation
has run: then there is nothing to capture, whatever the standings. -/
inductive Obstacle (quorum : Quorum) (n : Nat) (sts : List Standing) (fresh : Bool) :
    Step → QueryError → Prop where
  | fault {s error} : firstFault? n s sts = some error → Obstacle quorum n sts fresh s error
  | shortfall {t field shortfall} :
      firstFault? n (.transform t) sts = none → t.kind = .extractor → t.field = some field →
      quorum.check field (survivors n (.transform t) sts).length sts.length = .error shortfall →
      Obstacle quorum n sts fresh (.transform t) (.quorum shortfall)
  | context : fresh = true →
      Obstacle quorum n sts fresh (.directive .extractContext) (.contextFromLanguages n)

/-- Whether only the languages are in hand after a step, given whether they were before. -/
def Step.leavesFresh (fresh : Bool) : Step → Bool
  | .transform _ => false
  | .directive _ => fresh

namespace Evaluation

variable {e e' : Evaluation} {quorum : Quorum} {n : Nat} {s : Step} {t : Transformation}
variable {sts : List Standing} {steps : List Step} {error : QueryError} {values : List Value}

theorem Reflects.start (s : LanguageSet) :
    (start s).Reflects (s.languages.map Standing.start) where
  languages := by rw [List.map_map]; exact (List.map_id _).symm
  readings := by rw [List.map_map]; rfl
  rationale := by rw [List.map_map]; rfl
  whole := by rintro s' ⟨⟩; rfl

theorem Reflects.size_eq (hr : e.Reflects sts) : e.languageSet.size = sts.length := by
  rw [LanguageSet.size, hr.languages, List.length_map]

theorem Reflects.active_eq (hr : e.Reflects sts) :
    e.languageSet.languages.zip e.results.toList = sts.map fun st => (st.language, st.reading) := by
  rw [hr.languages, hr.readings, List.zip_map']

theorem Reflects.reading_value (hr : e.Reflects sts) (hv : e.results = .values values)
    {st : Standing} (hst : st ∈ sts) : ∃ v, st.reading = .value v := by
  have hmem : st.reading ∈ e.results.toList := hr.readings ▸ List.mem_map_of_mem hst
  rw [hv] at hmem
  obtain ⟨v, -, h⟩ := List.mem_map.1 hmem
  exact ⟨v, h.symm⟩

theorem Reflects.reading_language (hr : e.Reflects sts) {ls : LanguageSet}
    (hl : e.results = .languages ls) {st : Standing} (hst : st ∈ sts) :
    ∃ l, st.reading = .language l := by
  have hmem : st.reading ∈ e.results.toList := hr.readings ▸ List.mem_map_of_mem hst
  rw [hl] at hmem
  obtain ⟨l, -, h⟩ := List.mem_map.1 hmem
  exact ⟨l, h.symm⟩

/-! ## Taking over what was kept -/

theorem Reflects.select_stays (hr : e.Reflects sts) (n : Nat) (s : Step) :
    (e.languageSet.select (sts.findIdxs (stays n s))).languages =
      (survivors n s sts).map (·.language) := by
  show List.filterMap (e.languageSet.languages[·]?) _ = _
  rw [hr.languages, filterMap_getElem?_findIdxs, survivors_language]

theorem Reflects.realign_stays (hr : e.Reflects sts) (n : Nat) (s : Step) :
    realign e.rationale (sts.findIdxs (stays n s)) =
      (sts.filter (stays n s)).map (·.rationale) := by
  have h := map_getElem?_findIdxs (stays n s) (·.rationale) [] sts
  rw [List.nil_append, ← hr.rationale] at h
  have h' := congrArg (List.map Option.join) h
  rw [List.map_map, List.map_map] at h'
  exact h'.trans (List.map_id _)

theorem Reflects.filter_eq_self (hr : e.Reflects sts) {p : Standing → Bool}
    (h : ¬(sts.findIdxs p).length < e.languageSet.size) : sts.filter p = sts := by
  rw [List.length_findIdxs, hr.size_eq] at h
  have hle : sts.countP p ≤ sts.length := List.countP_le_length
  exact List.filter_eq_self.2 (List.countP_eq_length.1 (by omega))

theorem Reflects.absorb (hr : e.Reflects sts) (n : Nat) (t : Transformation) :
    (e.absorb t ⟨sts.findIdxs (stays n (.transform t)), outputs t sts,
      lacking n (.transform t) sts⟩).Reflects (survivors n (.transform t) sts) where
  languages := by
    unfold Evaluation.absorb languageSet
    dsimp only
    split
    · exact hr.select_stays n (.transform t)
    -- the set is kept as it is if as many stay as there are, and then all stay
    · rename_i h
      rw [survivors_language, hr.filter_eq_self h]
      exact hr.languages
  readings := (survivors_transform_map (·.reading) Reading.value (fun _ _ => rfl) sts).symm
  rationale := by
    unfold Evaluation.absorb
    dsimp only
    by_cases hk : t.kind = .predicate
    · rw [if_pos hk, survivors_map fun _ _ => pass_predicate_rationale hk]
      split
      · exact hr.realign_stays n (.transform t)
      · rename_i h
        rw [hr.filter_eq_self h]
        exact hr.rationale
    · rw [if_neg hk]
      exact (survivors_transform_map (·.rationale) some (fun st v => if_neg hk) sts).symm
  whole := by rintro s ⟨⟩

/-! ## The operations -/

theorem Reflects.transform_eq (hr : e.Reflects sts) (quorum : Quorum) (n : Nat)
    (t : Transformation) :
    e.transform quorum n t =
      match firstFault? n (.transform t) sts with
      | some error => .error error
      | none =>
        (checkQuorum t quorum (survivors n (.transform t) sts).length sts.length).map fun _ =>
          e.absorb t ⟨sts.findIdxs (stays n (.transform t)), outputs t sts,
            lacking n (.transform t) sts⟩ := by
  unfold Evaluation.transform
  rw [hr.active_eq, collect_eq]
  cases firstFault? n (.transform t) sts with
  | some error => rfl
  | none =>
      show (checkQuorum t quorum (List.findIdxs _ sts).length _).bind _ = _
      rw [List.length_findIdxs, ← length_survivors, hr.size_eq]
      rfl

theorem extractContext_values (hv : e.results = .values values) (n : Nat) :
    e.extractContext n =
      .ok { e with snapshots := e.snapshots ++ [⟨n, e.languageSet.languages, values⟩] } := by
  unfold Evaluation.extractContext
  rw [hv]

theorem extractContext_languages {ls : LanguageSet} (hl : e.results = .languages ls) (n : Nat) :
    e.extractContext n = .error (.contextFromLanguages n) := by
  unfold Evaluation.extractContext
  rw [hl]

theorem Reflects.filter_values (hr : e.Reflects sts) (hv : e.results = .values values) (n : Nat) :
    e.filter n =
      match firstFault? n (.directive .filter) sts with
      | some error => .error error
      | none => .ok { e with
          sets := e.sets.push
            (e.languageSet.select (sts.findIdxs (stays n (.directive .filter))))
          readings := e.readings.push (.values (values.filter (·.asBool? == some true)))
          rationale := realign e.rationale (sts.findIdxs (stays n (.directive .filter))) } := by
  have hread : sts.map (·.reading) = values.map .value := by rw [← hr.readings, hv]; rfl
  unfold Evaluation.filter
  rw [hv]
  dsimp only
  rw [hr.languages, collectTrue_eq n 0 sts hread]
  cases firstFault? n (.directive .filter) sts with
  | some error => rfl
  | none =>
      have hlen := congrArg List.length (filter_stays_readings n hread)
      rw [List.length_map, List.length_map, ← List.countP_eq_length_filter] at hlen
      rw [← List.length_findIdxs (s := 0)] at hlen
      show Except.ok { e with
        sets := e.sets.push (e.languageSet.select ((List.zip _ _).map Prod.fst))
        readings := e.readings.push (.values ((List.zip _ _).map Prod.snd))
        rationale := realign e.rationale ((List.zip _ _).map Prod.fst) } = _
      rw [List.map_fst_zip (Nat.le_of_eq hlen), List.map_snd_zip (Nat.le_of_eq hlen.symm)]

theorem Reflects.filter_languages (hr : e.Reflects sts) {ls : LanguageSet}
    (hl : e.results = .languages ls) (n : Nat) :
    e.filter n =
      match firstFault? n (.directive .filter) sts with
      | some error => .error error
      | none => .ok e := by
  have hset := hr.languages
  rw [← hr.whole ls hl] at hset
  unfold Evaluation.filter
  rw [hl]
  dsimp only
  cases sts with
  | nil => rw [hset]; rfl
  | cons st sts =>
      obtain ⟨l, hst⟩ := hr.reading_language hl List.mem_cons_self
      rw [hset, firstFault?_cons, pass_filter, hst]
      rfl

theorem Reflects.nil_of_filter_languages (hr : e.Reflects sts) {ls : LanguageSet}
    (hl : e.results = .languages ls) (h : firstFault? n (.directive .filter) sts = none) :
    sts = [] := by
  cases sts with
  | nil => rfl
  | cons st sts =>
      obtain ⟨l, hst⟩ := hr.reading_language hl List.mem_cons_self
      rw [firstFault?_cons, pass_filter, hst] at h
      cases h

/-! ## One step -/

theorem checkQuorum_error_iff {present total : Nat} :
    checkQuorum t quorum present total = .error error ↔
      ∃ field shortfall, t.kind = .extractor ∧ t.field = some field ∧
        quorum.check field present total = .error shortfall ∧ error = .quorum shortfall := by
  unfold checkQuorum
  split
  · rename_i field hk hf
    cases hc : quorum.check field present total with
    | ok u => simp [Except.mapError, hk, hf, hc]
    | error shortfall => simp [Except.mapError, hk, hf, hc, eq_comm]
  · rename_i hne
    constructor
    · rintro ⟨⟩
    · rintro ⟨field, shortfall, hk, hf, -⟩
      exact absurd hf (hne field hk)

/-- A step fails with exactly the error of its obstacle. -/
theorem Reflects.step_error_iff (hr : e.Reflects sts) :
    e.step quorum n s = .error error ↔ Obstacle quorum n sts e.results.areLanguages s error := by
  cases s with
  | transform t =>
      show e.transform quorum n t = _ ↔ _
      rw [hr.transform_eq]
      cases hf : firstFault? n (.transform t) sts with
      | some fault =>
          -- a fault goes before the quorum, which is asked only without one
          constructor
          · rintro ⟨⟩
            exact .fault hf
          · rintro (h | ⟨h, _⟩)
            · rw [hf] at h; cases h; rfl
            · rw [hf] at h; cases h
      | none =>
          dsimp only
          constructor
          · intro h
            cases hc : checkQuorum t quorum (survivors n (.transform t) sts).length sts.length with
            | ok u => rw [hc] at h; cases h
            | error err =>
                rw [hc] at h
                cases h
                obtain ⟨field, shortfall, hk, hfield, hcheck, rfl⟩ := checkQuorum_error_iff.1 hc
                exact .shortfall hf hk hfield hcheck
          · rintro (h | ⟨_, hk, hfield, hcheck⟩)
            · rw [hf] at h; cases h
            · rw [checkQuorum_error_iff.2 ⟨_, _, hk, hfield, hcheck, rfl⟩]; rfl
  | directive d =>
      cases d with
      | extractContext =>
          show e.extractContext n = _ ↔ _
          cases hres : e.results with
          | languages ls =>
              rw [extractContext_languages hres]
              constructor
              · rintro ⟨⟩
                exact .context rfl
              · rintro (h | - | -)
                · obtain ⟨st, hst, hfault⟩ := List.exists_of_findSome?_eq_some h
                  obtain ⟨l, hl⟩ := hr.reading_language hres hst
                  rw [pass_extractContext_language hl] at hfault
                  cases hfault
                  rfl
                · rfl
          | values vs =>
              rw [extractContext_values hres]
              constructor
              · rintro ⟨⟩
              -- a fault would need a standing with its language still in hand
              · rintro (h | - | h)
                · obtain ⟨st, hst, hfault⟩ := List.exists_of_findSome?_eq_some h
                  obtain ⟨v, hv⟩ := hr.reading_value hres hst
                  rw [pass_extractContext hv] at hfault
                  cases hfault
                · cases h
      | filter =>
          show e.filter n = _ ↔ _
          have hstep : e.filter n = .error error ↔
              firstFault? n (.directive .filter) sts = some error := by
            cases hres : e.results with
            | languages ls =>
                rw [hr.filter_languages hres]
                cases firstFault? n (.directive .filter) sts <;> simp
            | values vs =>
                rw [hr.filter_values hres]
                cases firstFault? n (.directive .filter) sts <;> simp
          rw [hstep]
          constructor
          · exact .fault
          · rintro (h | - | -)
            exact h

/-- The snapshots that a step adds. -/
def taken (e : Evaluation) (n : Nat) : Step → List Snapshot
  | .directive .extractContext =>
    match e.results with
    | .values values => [⟨n, e.languageSet.languages, values⟩]
    | .languages _ => []
  | _ => []

/-- What a step leaves: the standings that it gives, a datum for each language left out, and the
snapshots that there were with the one that it may take. -/
structure Follows (e' e : Evaluation) (n : Nat) (s : Step) (sts : List Standing) : Prop where
  reflects : e'.Reflects (survivors n s sts)
  noData : e'.noData = e.noData ++ lacking n s sts
  fresh : e'.results.areLanguages = s.leavesFresh e.results.areLanguages
  snapshots : e'.snapshots = e.snapshots ++ e.taken n s

/-- What a step that goes through makes of the state. -/
theorem Reflects.step_ok_cases (hr : e.Reflects sts) (h : e.step quorum n s = .ok e') :
    (∃ t, s = .transform t ∧ e' = e.absorb t ⟨sts.findIdxs (stays n s), outputs t sts,
      lacking n s sts⟩) ∨
    (∃ values, s = .directive .extractContext ∧ e.results = .values values ∧
      e' = { e with snapshots := e.snapshots ++ [⟨n, e.languageSet.languages, values⟩] }) ∨
    (∃ ls, s = .directive .filter ∧ e.results = .languages ls ∧ sts = [] ∧ e' = e) ∨
    (∃ values, s = .directive .filter ∧ e.results = .values values ∧
      e' = { e with
        sets := e.sets.push (e.languageSet.select (sts.findIdxs (stays n s)))
        readings := e.readings.push (.values (values.filter (·.asBool? == some true)))
        rationale := realign e.rationale (sts.findIdxs (stays n s)) }) := by
  cases s with
  | transform t =>
      refine .inl ⟨t, rfl, ?_⟩
      replace h : e.transform quorum n t = .ok e' := h
      rw [hr.transform_eq] at h
      cases hf : firstFault? n (.transform t) sts with
      | some fault => rw [hf] at h; cases h
      | none =>
          rw [hf] at h
          cases hc : checkQuorum t quorum (survivors n (.transform t) sts).length sts.length with
          | error err => rw [hc] at h; cases h
          | ok u => rw [hc] at h; cases h; rfl
  | directive d =>
      cases d with
      | extractContext =>
          replace h : e.extractContext n = .ok e' := h
          cases hres : e.results with
          | languages ls => rw [extractContext_languages hres] at h; cases h
          | values vs =>
              rw [extractContext_values hres] at h
              cases h
              exact .inr (.inl ⟨vs, rfl, rfl, rfl⟩)
      | filter =>
          replace h : e.filter n = .ok e' := h
          cases hres : e.results with
          | languages ls =>
              rw [hr.filter_languages hres] at h
              cases hf : firstFault? n (.directive .filter) sts with
              | some fault => rw [hf] at h; cases h
              | none =>
                  rw [hf] at h
                  cases h
                  have hempty := hr.nil_of_filter_languages hres hf
                  exact .inr (.inr (.inl ⟨ls, rfl, rfl, hempty, rfl⟩))
          | values vs =>
              rw [hr.filter_values hres] at h
              cases hf : firstFault? n (.directive .filter) sts with
              | some fault => rw [hf] at h; cases h
              | none =>
                  rw [hf] at h
                  cases h
                  exact .inr (.inr (.inr ⟨vs, rfl, rfl, rfl⟩))

/-- A step that goes through gives each language the standing that it gives it on its own. -/
theorem Reflects.follows (hr : e.Reflects sts) (h : e.step quorum n s = .ok e') :
    e'.Follows e n s sts := by
  rcases hr.step_ok_cases h with
    ⟨t, rfl, rfl⟩ | ⟨vs, rfl, hres, rfl⟩ | ⟨ls, rfl, hres, rfl, rfl⟩ | ⟨vs, rfl, hres, rfl⟩
  · exact ⟨hr.absorb n t, rfl, rfl, (List.append_nil _).symm⟩
  · have hstay : ∀ st ∈ sts, stays n (.directive .extractContext) st := by
      intro st hst
      obtain ⟨v, hv⟩ := hr.reading_value hres hst
      rw [stays, pass_extractContext hv]
      rfl
    refine ⟨⟨?_, ?_, ?_, hr.whole⟩, ?_, rfl, by rw [taken, hres]⟩
    · rw [survivors_map_of_stays (fun _ _ => pass_language) hstay]; exact hr.languages
    · rw [survivors_map_of_stays (fun _ _ => pass_directive_reading) hstay]; exact hr.readings
    · rw [survivors_map_of_stays (fun _ _ => pass_directive_rationale) hstay]
      exact hr.rationale
    · rw [lacking_directive, List.append_nil]
  · exact ⟨hr, (List.append_nil _).symm, rfl, (List.append_nil _).symm⟩
  · have hread : sts.map (·.reading) = vs.map .value := by rw [← hr.readings, hres]; rfl
    refine ⟨⟨hr.select_stays n (.directive .filter), ?_, ?_, ?_⟩, ?_, ?_,
      (List.append_nil _).symm⟩
    · rw [survivors_map (fun _ _ => pass_directive_reading), filter_stays_readings n hread]
      rfl
    · rw [survivors_map (fun _ _ => pass_directive_rationale)]
      exact hr.realign_stays n (.directive .filter)
    · rintro ls ⟨⟩
    · rw [lacking_directive, List.append_nil]
    · rw [hres]; rfl

theorem Reflects.step_ok (hr : e.Reflects sts)
    (h : ∀ error, ¬Obstacle quorum n sts e.results.areLanguages s error) :
    ∃ e', e.step quorum n s = .ok e' := by
  cases hstep : e.step quorum n s with
  | ok e' => exact ⟨e', rfl⟩
  | error error => exact absurd (hr.step_error_iff.1 hstep) (h error)

end Evaluation

end Typology
