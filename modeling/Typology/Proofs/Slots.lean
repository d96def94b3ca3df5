import Typology.Proofs.ByteOrder
import Typology.Proofs.Records
import Mathlib.Data.List.Induction
import Mathlib.Data.Set.Card

/-!
# What a language holds

Entries are written into slots: the spellings of a property name one slot, and any other name has
one of its own. A language holds the last value that was written into each slot, and `stress` as it
follows from its kinds where nothing was written there.
-/

namespace Typology

open Property

/-! ## Slots -/

/-- Where the value under a name stands: at a property of the survey, or under the name itself. -/
inductive Slot where
  | known (p : Property)
  | extra (name : String)
deriving DecidableEq

namespace Slot

variable {slot : Slot} {p : Property} {name a b : String} {written : List (String × Value)}

/-- The slot that a name names. -/
def ofName (name : String) : Slot :=
  match parse? name with
  | some p => known p
  | none => extra name

/-- The name that a slot is listed under. -/
def label : Slot → String
  | known p => p.label
  | extra name => name

/-- The order in which slots are listed: properties in schema order come before other names, which
stand in the order of their bytes. -/
def Before : Slot → Slot → Prop
  | known p, known q => Property.all.idxOf p < Property.all.idxOf q
  | known _, extra _ => True
  | extra _, known _ => False
  | extra a, extra b => Text.bytes a < Text.bytes b

theorem ofName_of_some (h : parse? name = some p) : ofName name = known p := by
  rw [ofName, h]

theorem ofName_of_none (h : parse? name = none) : ofName name = extra name := by
  rw [ofName, h]

theorem ofName_eq_known_iff : ofName name = known p ↔ parse? name = some p := by
  cases h : parse? name <;> simp [ofName, h]

@[simp] theorem ofName_label (p : Property) : ofName p.label = known p :=
  ofName_of_some (parse?_label p)

theorem label_ofName (name : String) : (ofName name).label = canonical name := by
  cases h : parse? name with
  | some p => rw [ofName_of_some h, canonical_of_some h, label]
  | none => rw [ofName_of_none h, canonical_of_none h, label]

theorem ofName_canonical (name : String) : ofName (canonical name) = ofName name := by
  cases h : parse? name with
  | some p => rw [canonical_of_some h, ofName_label, ofName_of_some h]
  | none => rw [canonical_of_none h]

theorem canonical_canonical (name : String) : canonical (canonical name) = canonical name := by
  rw [← label_ofName, ofName_canonical, label_ofName]

/-- Two names name one slot if they are spellings of one name. -/
theorem ofName_eq_iff : ofName a = ofName b ↔ canonical a = canonical b := by
  constructor
  · intro h
    rw [← label_ofName, h, label_ofName]
  · intro h
    rw [← ofName_canonical, h, ofName_canonical]

example : ofName " Num-Consonants" = ofName "num_consonants" := by decide +kernel

theorem Before.ne {slot' : Slot} (h : slot.Before slot') : slot ≠ slot' := by
  rintro rfl
  cases slot with
  | known p => exact Nat.lt_irrefl _ h
  | extra name => exact List.lt_irrefl _ h

/-! ## What is written -/

/-- The last value that is written into a slot. -/
def last? (written : List (String × Value)) (slot : Slot) : Option Value :=
  (written.filter fun e => ofName e.1 = slot).getLast?.map (·.2)

/-- The last value that is written for a property, if it is a bool. -/
def lastBool? (written : List (String × Value)) (p : Property) : Option Bool :=
  (last? written (known p)).bind Value.asBool?

/-- Whether one of two kinds of stress is present, if the last value of one of them is a bool. What
is missing or no bool counts as absent. -/
def derived? (written : List (String × Value)) : Option Value :=
  let predictable := lastBool? written .predictableStress
  let unpredictable := lastBool? written .unpredictableStress
  if predictable.isSome || unpredictable.isSome then
    some (.single (.bool (predictable == some true || unpredictable == some true)))
  else none

/-- What a slot holds in the end. -/
def held? (written : List (String × Value)) (slot : Slot) : Option Value :=
  (last? written slot).or (if slot = known .stress then derived? written else none)

theorem last?_append_singleton (written : List (String × Value)) (e : String × Value)
    (slot : Slot) :
    last? (written ++ [e]) slot = if ofName e.1 = slot then some e.2 else last? written slot := by
  unfold last?
  rw [List.filter_append]
  by_cases h : ofName e.1 = slot <;> simp [h]

theorem exists_ofName_of_last? {value : Value} (h : last? written slot = some value) :
    ∃ name, ofName name = slot := by
  obtain ⟨e, he, -⟩ := Option.map_eq_some_iff.1 h
  have hmem := List.mem_of_getLast? he
  exact ⟨e.1, by simpa using (List.mem_filter.1 hmem).2⟩

theorem exists_ofName_of_held? {value : Value} (h : held? written slot = some value) :
    ∃ name, ofName name = slot := by
  cases slot with
  | known p => exact ⟨p.label, ofName_label p⟩
  | extra name =>
      rw [held?, if_neg (by simp), Option.or_none] at h
      exact exists_ofName_of_last? h

end Slot

open Slot

/-! ## Datapoints -/

namespace Datapoints

variable {d : Datapoints} {p : Property} {name : String} {value : Value}

theorem get?_ofList (written : List (String × Value)) (name : String) :
    (ofList written).get? name = last? written (ofName name) := by
  induction written using List.reverseRecOn with
  | nil => exact get?_empty name
  | append_singleton before e ih =>
      rw [ofList, List.foldl_append, List.foldl_cons, List.foldl_nil, get?_insert,
        last?_append_singleton, ← ih]
      by_cases h : canonical name = canonical e.1
      · rw [if_pos h, if_pos (ofName_eq_iff.2 h.symm)]
      · rw [if_neg h, if_neg fun heq => h (ofName_eq_iff.1 heq).symm]
        rfl

theorem known_ofList (written : List (String × Value)) (p : Property) :
    (ofList written).known p = last? written (.known p) := by
  rw [← get?_label, get?_ofList, ofName_label]

/-- Only the slot of `stress` is filled in, and only if it is empty. -/
theorem get?_deriveStress (d : Datapoints) (name : String) :
    d.deriveStress.get? name = (d.get? name).or
      (if ofName name = .known .stress then d.anyStress?.map fun any => .single (.bool any)
        else none) := by
  simp only [ofName_eq_known_iff]
  by_cases h : parse? name = some .stress
  · rw [if_pos h, get?_of_some h, get?_of_some h]
    cases hstress : d.known .stress with
    | some value => rw [deriveStress_of_some hstress, hstress, Option.some_or]
    | none =>
        unfold deriveStress
        rw [hstress]
        cases hany : d.anyStress? with
        | none => exact hstress
        | some any =>
            show (d.setKnown .stress (.single (.bool any))).known .stress = _
            rw [known_setKnown, if_pos rfl]
            rfl
  · rw [if_neg h, Option.or_none]
    rcases d.deriveStress_eq_or with heq | ⟨any, heq⟩
    · rw [heq]
    · rw [heq, get?_setKnown, if_neg h]

theorem anyStress?_ofList (written : List (String × Value)) :
    ((ofList written).anyStress?.map fun any => .single (.bool any)) = derived? written := by
  unfold anyStress? derived? lastBool?
  rw [known_ofList, known_ofList]
  dsimp only
  cases (last? written (.known .predictableStress)).bind Value.asBool? <;>
    cases (last? written (.known .unpredictableStress)).bind Value.asBool?
  · rfl
  all_goals simp

/-- After the last write and the derivation of `stress`, every name finds what its slot holds. -/
theorem get?_deriveStress_ofList (written : List (String × Value)) (name : String) :
    (ofList written).deriveStress.get? name = held? written (ofName name) := by
  rw [get?_deriveStress, get?_ofList, anyStress?_ofList, held?]

/-! ## Entries -/

/-- The slots that datapoints are listed under. -/
def slots (d : Datapoints) : List Slot := d.entries.map fun e => ofName e.1

theorem pairwise_all : Property.all.Pairwise fun p q => all.idxOf p < all.idxOf q := by decide

theorem slots_eq (h : d.Settled) :
    d.slots = d.knownEntries.map (fun e => .known e.1) ++
      d.extra.entries.map fun e => .extra e.1 := by
  rw [slots, entries, List.map_append, List.map_map]
  refine congrArg₂ (· ++ ·) ?_ (List.map_congr_left fun e he => ofName_of_none ?_)
  · simp only [Function.comp_def, ofName_label]
  · cases hp : parse? e.1 with
    | none => rfl
    | some p =>
        have hnone := h e.1 p hp
        rw [Dictionary.get?_eq_some_iff.2 he] at hnone
        cases hnone

theorem map_fst_knownEntries (d : Datapoints) :
    d.knownEntries.map (·.1) = all.filter fun p => (d.known p).isSome := by
  rw [knownEntries, List.map_filterMap, ← List.filterMap_eq_filter]
  refine congrArg (List.filterMap · all) (funext fun p => ?_)
  cases h : d.known p <;> simp [h, Option.guard]

theorem pairwise_knownEntries (d : Datapoints) :
    d.knownEntries.Pairwise fun a b => all.idxOf a.1 < all.idxOf b.1 := by
  have hall := pairwise_all.filter fun p => (d.known p).isSome
  rw [← map_fst_knownEntries, List.pairwise_map] at hall
  exact hall

theorem pairwise_slots (h : d.Settled) : d.slots.Pairwise Slot.Before := by
  rw [slots_eq h, List.pairwise_append]
  refine ⟨List.pairwise_map.2 d.pairwise_knownEntries, ?_, ?_⟩
  · exact List.pairwise_map.2 (d.extra.sorted.imp Text.bytes_lt)
  · intro a ha b hb
    obtain ⟨_, -, rfl⟩ := List.mem_map.1 ha
    obtain ⟨_, -, rfl⟩ := List.mem_map.1 hb
    exact trivial

theorem mem_entries_iff (h : d.Settled) :
    (name, value) ∈ d.entries ↔ canonical name = name ∧ d.get? name = some value := by
  rw [← lookup_entries h, ← Dictionary.lookup_eq_some_iff (nodup_keys h)]
  constructor
  · intro hlookup
    have hentry := (Dictionary.lookup_eq_some_iff (nodup_keys h)).1 hlookup
    have hname := canonical_of_mem_entries h hentry
    dsimp only at hname
    rw [hname]
    exact ⟨rfl, hlookup⟩
  · rintro ⟨hname, hlookup⟩
    rwa [hname] at hlookup

theorem mem_slots (h : (name, value) ∈ d.entries) : ofName name ∈ d.slots :=
  List.mem_map_of_mem (a := (name, value)) (f := fun e => ofName e.1) h

theorem mem_slots_iff (h : d.Settled) : ofName name ∈ d.slots ↔ (d.get? name).isSome := by
  constructor
  · intro hmem
    obtain ⟨⟨other, value⟩, he, hother⟩ := List.mem_map.1 hmem
    obtain ⟨hname, hvalue⟩ := (mem_entries_iff h).1 he
    rw [← lookup_entries h, ← ofName_eq_iff.1 hother, lookup_entries h, hvalue]
    rfl
  · intro hsome
    obtain ⟨value, hvalue⟩ := Option.isSome_iff_exists.1 hsome
    rw [← lookup_entries h, ← canonical_canonical, lookup_entries h] at hvalue
    rw [← ofName_canonical]
    exact mem_slots ((mem_entries_iff h).2 ⟨canonical_canonical name, hvalue⟩)

theorem length_slots (d : Datapoints) : d.slots.length = d.size := by
  rw [slots, size, entries, List.length_map, List.length_append, List.length_map, Dictionary.size]

end Datapoints

namespace Language

variable {l : Language} {written : List (String × Value)}

/-- Whether the last value that is written for a property is a text that is not empty. -/
def identifies (written : List (String × Value)) (p : Property) : Bool :=
  match last? written (.known p) with
  | some (.single (.text t)) => t != ""
  | _ => false

/-- The first identity field that is not a text, or empty. -/
def unidentified? (written : List (String × Value)) : Option Property :=
  [Property.name, .student, .netid].find? fun p => !identifies written p

/-- What a language holds of what was written. -/
structure Holds (written : List (String × Value)) (l : Language) : Prop where
  /-- Every spelling of a name finds what its slot holds. -/
  get?_eq : ∀ name, l.get? name = held? written (ofName name)
  /-- The slots that hold something are listed. -/
  listed : ∀ slot, slot ∈ l.datapoints.slots ↔ (held? written slot).isSome
  once : l.datapoints.slots.Nodup
  inOrder : l.datapoints.slots.Pairwise Slot.Before
  /-- What is listed stands under the name of its slot, and is found there. -/
  entry : ∀ e ∈ l.entries, e.1 = (ofName e.1).label ∧ l.get? e.1 = some e.2
  size_eq : l.size = {slot | (held? written slot).isSome}.ncard

/-- What comes of a list of datapoints: a missing identity field, or a language that holds them. -/
inductive Recording (written : List (String × Value)) : Except RecordError Language → Prop where
  | unidentified {p : Property} : unidentified? written = some p →
      Recording written (.error (.missingIdentity p))
  | language {l : Language} : unidentified? written = none → l.Holds written →
      Recording written (.ok l)

theorem identityField_cases (written : List (String × Value)) (p : Property) :
    (identifies written p = true ∧ ∃ t, (Datapoints.ofList written).identityField p = .ok t) ∨
    (identifies written p = false ∧
      (Datapoints.ofList written).identityField p = .error (.missingIdentity p)) := by
  unfold identifies Datapoints.identityField
  rw [Datapoints.known_ofList]
  cases last? written (.known p) with
  | none => exact .inr ⟨rfl, rfl⟩
  | some v =>
      cases v with
      | list items => exact .inr ⟨rfl, rfl⟩
      | single q =>
          cases q with
          | text t =>
              by_cases ht : t = ""
              · exact .inr ⟨by simp [ht], if_pos ht⟩
              · exact .inl ⟨by simp [ht], t, if_neg ht⟩
          | _ => exact .inr ⟨rfl, rfl⟩

theorem identity_cases (written : List (String × Value)) :
    (∃ p, unidentified? written = some p ∧
      (Datapoints.ofList written).identity = .error (.missingIdentity p)) ∨
    unidentified? written = none ∧ ∃ who, (Datapoints.ofList written).identity = .ok who := by
  unfold unidentified? Datapoints.identity
  -- the fields are read one after the other, up to the first that is missing
  rcases identityField_cases written .name with ⟨hname, name, hfield⟩ | ⟨hname, hfield⟩
  · rw [hfield]
    rcases identityField_cases written .student with
      ⟨hstudent, student, hfield⟩ | ⟨hstudent, hfield⟩
    · rw [hfield]
      rcases identityField_cases written .netid with ⟨hnetid, netid, hfield⟩ | ⟨hnetid, hfield⟩
      · rw [hfield]
        exact .inr ⟨by simp [hname, hstudent, hnetid], _, rfl⟩
      · rw [hfield]
        exact .inl ⟨.netid, by simp [hname, hstudent, hnetid], rfl⟩
    · rw [hfield]
      exact .inl ⟨.student, by simp [hname, hstudent], rfl⟩
  · rw [hfield]
    exact .inl ⟨.name, by simp [hname], rfl⟩

theorem holds_of_ofList (hl : ofList written = .ok l) : l.Holds written := by
  obtain ⟨-, hdatapoints⟩ := ofDatapoints_eq_ok.1 hl
  have hsettled := (recorded_of_ofList hl).settled
  have hget : ∀ name, l.get? name = held? written (ofName name) := fun name => by
    rw [get?, hdatapoints, Datapoints.get?_deriveStress_ofList]
  have horder := Datapoints.pairwise_slots hsettled
  have hnodup : l.datapoints.slots.Nodup := horder.imp Slot.Before.ne
  have hlisted : ∀ slot, slot ∈ l.datapoints.slots ↔ (held? written slot).isSome := by
    intro slot
    -- a slot without a name (an extra one under a spelling of a property) holds nothing
    by_cases hname : ∃ name, ofName name = slot
    · obtain ⟨name, rfl⟩ := hname
      rw [Datapoints.mem_slots_iff hsettled, ← hget, get?]
    · refine iff_of_false (fun hmem => ?_) fun hsome => ?_
      · obtain ⟨e, -, he⟩ := List.mem_map.1 hmem
        exact hname ⟨e.1, he⟩
      · obtain ⟨value, hvalue⟩ := Option.isSome_iff_exists.1 hsome
        exact hname (exists_ofName_of_held? hvalue)
  refine ⟨hget, hlisted, hnodup, horder, fun e he => ?_, ?_⟩
  · obtain ⟨hcanonical, hvalue⟩ := (Datapoints.mem_entries_iff hsettled).1 he
    rw [label_ofName, hcanonical]
    exact ⟨rfl, hvalue⟩
  · have hset : {slot | (held? written slot).isSome} =
        (l.datapoints.slots.toFinset : Set Slot) := by
      ext slot
      rw [Set.mem_ofPred_eq, ← hlisted, List.coe_toFinset, Set.mem_ofPred_eq]
    rw [hset, Set.ncard_coe_finset, List.toFinset_card_of_nodup hnodup, Datapoints.length_slots]
    rfl

/-- A list of datapoints describes a language that holds the last value written into each slot,
unless one of the identity fields is missing. -/
theorem ofList_recording (written : List (String × Value)) :
    Recording written (Language.ofList written) := by
  rcases identity_cases written with ⟨p, hp, herror⟩ | ⟨hnone, who, hwho⟩
  · have hl : Language.ofList written = .error (.missingIdentity p) := by
      rw [Language.ofList, ofDatapoints, herror]
      rfl
    rw [hl]
    exact .unidentified hp
  · have hl : Language.ofList written = .ok ⟨who, (Datapoints.ofList written).deriveStress⟩ := by
      rw [Language.ofList, ofDatapoints, hwho]
      rfl
    rw [hl]
    exact .language hnone (holds_of_ofList hl)

end Language

end Typology
