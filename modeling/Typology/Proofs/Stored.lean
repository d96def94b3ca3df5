import Typology.Json.Printer
import Typology.Json.Reader
import Typology.Proofs.BuiltSet
import Typology.Proofs.FiniteFloat
import Typology.Proofs.Numerals
import Typology.Proofs.Records

/-!
# Records that are written and read again

A record may spell its properties in any way, hold nulls and leave `stress` to be derived. What is
written of a language has none of this, and reads as the same language again, although a reader
finds the entries of an object in another order than the language has its datapoints.
-/

namespace Typology

/-! ## Written values -/

namespace Json

mutual

/-- What a reader finds when a value was written, if it finds each number as it was: the entries of
an object stand in key order, and there is `null` for a float that is not finite. -/
def stored : Json → Json
  | .null => .null
  | .bool b => .bool b
  | .int n => .int n
  | .float x => if x.isFinite then .float x else .null
  | .text s => .text s
  | .array items => .array (storedItems items)
  | .object entries => ofEntries (storedEntries entries)

/-- The items of a written array. -/
def storedItems : List Json → List Json
  | [] => []
  | item :: rest => item.stored :: storedItems rest

/-- The entries of a written object, still in the order of writing. -/
def storedEntries : List (String × Json) → List (String × Json)
  | [] => []
  | (key, value) :: rest => (key, value.stored) :: storedEntries rest

end

set_option maxRecDepth 100000 in
/-- So it is for what is printed here and read here. -/
example : let v := object [("student", .text "Ada"), ("name", .array [.text "\"X\"", .null]),
      ("size", .int (-7)), ("share", .float 2.5), ("netid", .object []), ("area", .float (0 / 0))]
    read? v.compact = some v.stored := by rfl

mutual

/-- Whether JSON has each number of a value: whole numbers take up to 64 bits, and floats are
finite. -/
def representable : Json → Bool
  | .int n => -0x8000000000000000 ≤ n ∧ n < 0x10000000000000000
  | .float x => x.isFinite
  | .array items => representableItems items
  | .object entries => representableEntries entries
  | .null | .bool _ | .text _ => true

/-- Whether JSON has each number of the items. -/
def representableItems : List Json → Bool
  | [] => true
  | item :: rest => item.representable && representableItems rest

/-- Whether JSON has each number of the values. -/
def representableEntries : List (String × Json) → Bool
  | [] => true
  | (_, value) :: rest => value.representable && representableEntries rest

end

theorem storedItems_eq (items : List Json) : storedItems items = items.map stored := by
  induction items with
  | nil => rfl
  | cons item rest ih => rw [storedItems, ih, List.map_cons]

theorem storedEntries_eq (entries : List (String × Json)) :
    storedEntries entries = entries.map fun e => (e.1, e.2.stored) := by
  induction entries with
  | nil => rfl
  | cons entry rest ih => rw [storedEntries, ih, List.map_cons]

theorem representableItems_iff {items : List Json} :
    representableItems items = true ↔ ∀ item ∈ items, item.representable = true := by
  induction items with
  | nil => simp [representableItems]
  | cons item rest ih => rw [representableItems, Bool.and_eq_true, ih, List.forall_mem_cons]

theorem representableEntries_iff {entries : List (String × Json)} :
    representableEntries entries = true ↔ ∀ e ∈ entries, e.2.representable = true := by
  induction entries with
  | nil => simp [representableEntries]
  | cons entry rest ih => rw [representableEntries, Bool.and_eq_true, ih, List.forall_mem_cons]

end Json

open Json

namespace Primitive

variable {p : Primitive} {v : Json}

/-- Whether a primitive is a finite float, or no float. -/
def isFinite : Primitive → Bool
  | float x => x.toFloat.isFinite
  | _ => true

theorem stored_ne_array (p : Primitive) (items : List Json) : p.toJson.stored ≠ .array items := by
  cases p with
  | bool | int | text => exact nofun
  | float x =>
      show (if x.toFloat.isFinite then _ else _) ≠ _
      split <;> exact nofun

theorem ofJson_stored (p : Primitive) :
    ofJson p.toJson.stored = .ok (if p.isFinite then some p else none) := by
  cases p with
  | bool b => rfl
  | int n =>
      show Except.ok (some (if Decimal.fitsWord n.toInt then int (Int64.ofInt n.toInt) else _)) = _
      rw [if_pos (Decimal.fitsWord_toInt n), Int64.ofInt_toInt]
      rfl
  | float x =>
      show ofJson (stored (.float x.toFloat)) = .ok (if x.toFloat.isFinite then _ else _)
      rw [stored]
      split
      · show Except.ok (some (float (.ofFloat x.toFloat))) = _
        rw [Binary64.ofFloat_toFloat ‹_›]
      · rfl
  | text s => rfl

theorem isFinite_of_ofJson (hv : v.representable = true) (h : ofJson v = .ok (some p)) :
    p.isFinite = true := by
  have hfloat : ∀ x : Float, (float (.ofFloat x)).isFinite = x.isFinite := fun x =>
    congrArg Float.isFinite (Float.ofBits_toBits x)
  cases v with
  | null | array | object => cases h
  | bool b => cases h; rfl
  | text s => cases h; rfl
  | float x =>
      cases h
      rw [hfloat]
      exact hv
  | int n =>
      rw [ofJson] at h
      split at h
      · cases h; rfl
      · rename_i hfits
        cases h
        rw [hfloat]
        -- only a number that needs all 64 bits is read as a float
        obtain ⟨hlow, hhigh⟩ := of_decide_eq_true hv
        have hlarge : ¬n < 0x8000000000000000 := fun hn => hfits (decide_eq_true ⟨hlow, hn⟩)
        exact Binary64.isFinite_ofInt (by omega) (by omega)

end Primitive

namespace Value

variable {v : Value} {j : Json} {items : List Primitive}

/-- Whether all floats of a value are finite. -/
def isFinite : Value → Bool
  | single p => p.isFinite
  | list items => items.all Primitive.isFinite

/-- What is left of a value that is written and read again. -/
def kept? : Value → Option Value
  | single p => if p.isFinite then some (single p) else none
  | list items => some (list (items.filter Primitive.isFinite))

theorem ofJson_of_ne_array (h : ∀ items, j ≠ .array items) :
    ofJson j = (Primitive.ofJson j).map (·.map single) := by
  cases j with
  | array items => exact absurd rfl (h items)
  | null | bool | int | float | text | object => rfl

theorem itemsOfJson_stored (items : List Primitive) :
    itemsOfJson (storedItems (items.map Primitive.toJson)) =
      .ok (items.filter Primitive.isFinite) := by
  induction items with
  | nil => rfl
  | cons item rest ih =>
      rw [List.map_cons, storedItems, itemsOfJson, Primitive.ofJson_stored, ih, List.filter_cons]
      cases item.isFinite <;> rfl

theorem ofJson_stored (v : Value) : ofJson v.toJson.stored = .ok v.kept? := by
  cases v with
  | list items =>
      show (itemsOfJson (storedItems (items.map Primitive.toJson))).map _ = _
      rw [itemsOfJson_stored]
      rfl
  | single p =>
      show ofJson p.toJson.stored = .ok (if p.isFinite then _ else _)
      rw [ofJson_of_ne_array p.stored_ne_array, Primitive.ofJson_stored]
      cases p.isFinite <;> rfl

theorem kept?_of_isFinite (h : v.isFinite = true) : v.kept? = some v := by
  cases v with
  | single p => exact if_pos h
  | list items =>
      show some (list (items.filter _)) = _
      rw [List.filter_eq_self.2 (List.all_eq_true.1 h)]

theorem isFinite_of_itemsOfJson {raws : List Json} (hraws : ∀ raw ∈ raws, raw.representable = true)
    (h : itemsOfJson raws = .ok items) : items.all Primitive.isFinite = true := by
  induction raws generalizing items with
  | nil => cases h; rfl
  | cons raw rest ih =>
      obtain ⟨first, hfirst, hbind⟩ := bind_eq_ok h
      obtain ⟨others, hothers, ⟨⟩⟩ := bind_eq_ok hbind
      have hrest := ih (fun raw hraw => hraws raw (List.mem_cons_of_mem _ hraw)) hothers
      cases first with
      | none => exact hrest
      | some p =>
          rw [Option.toList_some, List.singleton_append, List.all_cons, hrest,
            Primitive.isFinite_of_ofJson (hraws raw List.mem_cons_self) hfirst]
          rfl

theorem isFinite_of_ofJson (hj : j.representable = true) (h : ofJson j = .ok (some v)) :
    v.isFinite = true := by
  by_cases harray : ∃ raws, j = .array raws
  · obtain ⟨raws, rfl⟩ := harray
    replace h : (itemsOfJson raws).map (fun items => some (list items)) = .ok (some v) := h
    cases hitems : itemsOfJson raws with
    | error fault => rw [hitems] at h; cases h
    | ok items =>
        rw [hitems] at h
        cases h
        exact isFinite_of_itemsOfJson (representableItems_iff.1 hj) hitems
  · rw [ofJson_of_ne_array fun raws hraws => harray ⟨raws, hraws⟩] at h
    cases hp : Primitive.ofJson j with
    | error fault => rw [hp] at h; cases h
    | ok p =>
        rw [hp] at h
        cases p with
        | none => cases h
        | some p => cases h; exact Primitive.isFinite_of_ofJson hj hp

end Value

/-! ## Written datapoints -/

namespace Datapoints

variable {d d' : Datapoints}

/-- All floats among the datapoints are finite. -/
def Finite (d : Datapoints) : Prop := ∀ name value, d.get? name = some value → value.isFinite = true

theorem Finite.empty : Finite empty := fun name value h => by
  rw [get?_empty] at h
  cases h

theorem Finite.insert (h : d.Finite) (name : String) {value : Value} (hv : value.isFinite = true) :
    (d.insert name value).Finite := by
  intro query found hfound
  rw [get?_insert] at hfound
  split at hfound
  · cases hfound; exact hv
  · exact h query found hfound

theorem Finite.insertJson {entries : List (String × Json)} (h : d.Finite)
    (hentries : ∀ e ∈ entries, e.2.representable = true)
    (hd : d.insertJson entries = .ok d') : d'.Finite := by
  induction entries generalizing d with
  | nil => cases hd; exact h
  | cons entry rest ih =>
      have hrest : ∀ e ∈ rest, e.2.representable = true := fun e he =>
        hentries e (List.mem_cons_of_mem _ he)
      unfold Datapoints.insertJson at hd
      split at hd
      · cases hd
      · exact ih h hrest hd
      · rename_i value hvalue
        have hfinite := Value.isFinite_of_ofJson (hentries entry List.mem_cons_self) hvalue
        exact ih (h.insert entry.1 hfinite) hrest hd

theorem Finite.deriveStress (h : d.Finite) : d.deriveStress.Finite := by
  rcases d.deriveStress_eq_or with heq | ⟨any, heq⟩
  · rwa [heq]
  · rw [heq]
    intro query found hfound
    rw [get?_setKnown] at hfound
    split at hfound
    · cases hfound; rfl
    · exact h query found hfound

theorem insertJson_stored (d : Datapoints) (written : List (String × Value)) :
    d.insertJson (written.map fun e => (e.1, e.2.toJson.stored)) =
      .ok ((written.filterMap fun e => e.2.kept?.map (e.1, ·)).foldl
        (fun d e => d.insert e.1 e.2) d) := by
  induction written generalizing d with
  | nil => rfl
  | cons entry rest ih =>
      rw [List.map_cons, insertJson, Value.ofJson_stored, List.filterMap_cons]
      cases entry.2.kept? with
      | none => exact ih d
      | some value => exact ih (d.insert entry.1 value)

end Datapoints

/-! ## Written languages -/

namespace Language

variable {l : Language} {v : Json}

/-- The entries of a written language, in the order in which a reader finds them. -/
def storedEntries (l : Language) : List (String × Value) := (Dictionary.ofList l.entries).entries

/-- The datapoints that a reader finds: those of the language as far as they are kept. -/
def storedDatapoints (l : Language) : Datapoints :=
  .ofList (l.storedEntries.filterMap fun e => e.2.kept?.map (e.1, ·))

theorem ofJson_stored (l : Language) :
    ofJson l.toJson.stored = ofDatapoints l.storedDatapoints := by
  have hstored : l.toJson.stored =
      .object (l.storedEntries.map fun e => (e.1, e.2.toJson.stored)) := by
    rw [toJson, stored, Json.storedEntries_eq, List.map_map, ofEntries, storedEntries]
    exact congrArg Json.object (Dictionary.ofList_map (fun v : Value => v.toJson.stored) l.entries)
  rw [hstored]
  show (Datapoints.insertJson .empty _).bind ofDatapoints = _
  rw [Datapoints.insertJson_stored]
  rfl

theorem Recorded.storedEntries_perm (h : l.Recorded) : l.storedEntries.Perm l.entries :=
  Dictionary.ofList_perm (Datapoints.nodup_keys h.settled)

theorem Recorded.get?_storedDatapoints (h : l.Recorded) (name : String) :
    l.storedDatapoints.get? name = (l.get? name).bind Value.kept? := by
  have hkeys := Datapoints.nodup_keys h.settled
  have hstored := (h.storedEntries_perm.map (·.1)).nodup_iff.2 hkeys
  have hcanonical : ∀ e ∈ l.storedEntries.filterMap fun e => e.2.kept?.map (e.1, ·),
      Property.canonical e.1 = e.1 := by
    intro e he
    obtain ⟨written, hwritten, hkept⟩ := List.mem_filterMap.1 he
    obtain ⟨value, -, rfl⟩ := Option.map_eq_some_iff.1 hkept
    show Property.canonical written.1 = written.1
    exact Datapoints.canonical_of_mem_entries h.settled (h.storedEntries_perm.mem_iff.1 hwritten)
  rw [storedDatapoints, Datapoints.ofList, Datapoints.get?_foldl_insert hcanonical
      (hstored.sublist (Dictionary.keys_filterMap_sublist Value.kept? _)),
    Dictionary.lookup_filterMap _ hstored, Dictionary.lookup_perm hkeys h.storedEntries_perm,
    Datapoints.lookup_entries h.settled, Datapoints.get?_empty, Option.or_none]
  rfl

theorem Recorded.storedDatapoints_eq (h : l.Recorded) (hfinite : l.datapoints.Finite) :
    l.storedDatapoints = l.datapoints := by
  refine Datapoints.ext_get? (.ofList _) h.settled fun name => ?_
  rw [h.get?_storedDatapoints, get?]
  cases hvalue : l.datapoints.get? name with
  | none => rfl
  | some value => exact Value.kept?_of_isFinite (hfinite name value hvalue)

theorem Recorded.ofJson_stored (h : l.Recorded) (hfinite : l.datapoints.Finite) :
    ofJson l.toJson.stored = .ok l := by
  rw [Language.ofJson_stored, h.storedDatapoints_eq hfinite]
  exact h.ofDatapoints_eq

theorem finite_of_ofJson (hv : v.representable = true) (h : ofJson v = .ok l) :
    l.datapoints.Finite := by
  obtain ⟨entries, d, rfl, hd, hl⟩ := ofJson_eq_ok h
  rw [(ofDatapoints_eq_ok.1 hl).2]
  exact (Datapoints.Finite.empty.insertJson (representableEntries_iff.1 hv) hd).deriveStress

end Language

namespace LanguageSet

variable {s : LanguageSet} {languages : List Language} {v : Json}

theorem languagesOfJson_stored
    (h : ∀ l ∈ languages, Language.ofJson l.toJson.stored = .ok l) :
    languagesOfJson (languages.map fun l => l.toJson.stored) = .ok languages := by
  induction languages with
  | nil => rfl
  | cons l rest ih =>
      rw [List.map_cons, languagesOfJson, h l List.mem_cons_self,
        ih fun l hl => h l (List.mem_cons_of_mem _ hl)]
      rfl

theorem exists_record_of_languagesOfJson {records : List Json}
    (h : languagesOfJson records = .ok languages) {l : Language} (hl : l ∈ languages) :
    ∃ record ∈ records, Language.ofJson record = .ok l := by
  induction records generalizing languages with
  | nil => cases h; exact absurd hl List.not_mem_nil
  | cons record rest ih =>
      obtain ⟨first, hfirst, hbind⟩ := bind_eq_ok h
      obtain ⟨others, hothers, ⟨⟩⟩ := bind_eq_ok hbind
      rcases List.mem_cons.1 hl with rfl | hl
      · exact ⟨record, List.mem_cons_self, hfirst⟩
      · obtain ⟨other, hother, hread⟩ := ih hothers hl
        exact ⟨other, List.mem_cons_of_mem _ hother, hread⟩

theorem ofJson_eq_ok (h : ofJson v = .ok s) :
    ∃ records languages, v = .array records ∧ languagesOfJson records = .ok languages ∧
      ofList languages = .ok s := by
  cases v with
  | array records =>
      obtain ⟨languages, hlanguages, hs⟩ := bind_eq_ok h
      exact ⟨records, languages, rfl, hlanguages, hs⟩
  | null | bool | int | float | text | object => cases h

theorem toJson_stored (s : LanguageSet) :
    s.toJson.stored = .array (s.languages.map fun l => l.toJson.stored) := by
  rw [toJson, stored, storedItems_eq, List.map_map]
  rfl

theorem ofJson_stored (h : ofJson v = .ok s)
    (hread : ∀ l ∈ s.languages, Language.ofJson l.toJson.stored = .ok l) :
    ofJson s.toJson.stored = .ok s := by
  obtain ⟨records, languages, rfl, hlanguages, hs⟩ := ofJson_eq_ok h
  rw [toJson_stored]
  show (languagesOfJson _).bind ofList = _
  rw [languagesOfJson_stored hread, languages_of_ofList hs]
  exact hs

end LanguageSet

/-- What is written of a language, or of a set of languages, that was read from JSON reads as the
same again, with all datapoints and in the same order. -/
theorem ofJson_toJson_stored :
    (∀ v l, v.representable = true → Language.ofJson v = .ok l →
      Language.ofJson l.toJson.stored = .ok l) ∧
    ∀ v s, v.representable = true → LanguageSet.ofJson v = .ok s →
      LanguageSet.ofJson s.toJson.stored = .ok s := by
  have hlanguage : ∀ v l, v.representable = true → Language.ofJson v = .ok l →
      Language.ofJson l.toJson.stored = .ok l := fun v l hv h =>
    (Language.recorded_of_ofJson h).ofJson_stored (Language.finite_of_ofJson hv h)
  refine ⟨hlanguage, fun v s hv h => LanguageSet.ofJson_stored h fun l hl => ?_⟩
  obtain ⟨records, languages, rfl, hlanguages, hs⟩ := LanguageSet.ofJson_eq_ok h
  rw [LanguageSet.languages_of_ofList hs] at hl
  obtain ⟨record, hrecord, hread⟩ :=
    LanguageSet.exists_record_of_languagesOfJson hlanguages hl
  exact hlanguage record l (representableItems_iff.1 hv record hrecord) hread

/-- A record that spells properties in other ways, with nulls, and with stress to be derived. -/
def spelledRecord : Json :=
  .object [("3+ consonant places", .bool true), ("Name", .text "English"), ("altitude", .float 2.5),
    ("case", .null), ("consonants", .array [.text "p", .null, .text "t"]), ("NETID", .text "a1"),
    ("num-vowels", .int 12), ("predictable stress", .bool false), ("sky", .int 0x8000000000000000),
    ("student", .text "Ada")]

set_option maxRecDepth 100000 in
theorem ofJson_toJson_stored_spelledRecord :
    spelledRecord.representable = true ∧
    (∃ l, Language.ofJson spelledRecord = .ok l ∧ Language.ofJson l.toJson.stored = .ok l) ∧
    ∃ s, LanguageSet.ofJson (.array [spelledRecord]) = .ok s ∧
      LanguageSet.ofJson s.toJson.stored = .ok s := by
  have hrecord : spelledRecord.representable = true := by decide
  have hrecords : (Json.array [spelledRecord]).representable = true :=
    representableItems_iff.2 (List.forall_mem_singleton.2 hrecord)
  obtain ⟨l, hl⟩ : ∃ l, Language.ofJson spelledRecord = .ok l := ⟨_, rfl⟩
  obtain ⟨s, hs⟩ : ∃ s, LanguageSet.ofJson (.array [spelledRecord]) = .ok s := ⟨_, rfl⟩
  exact ⟨hrecord, ⟨l, hl, ofJson_toJson_stored.1 _ l hrecord hl⟩,
    s, hs, ofJson_toJson_stored.2 _ s hrecords hs⟩

end Typology
