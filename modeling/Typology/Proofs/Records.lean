import Typology.Proofs.Chain
import Typology.Proofs.Entries

/-!
# Records of languages

A language keeps the datapoints that it was made from, with `stress` filled in, and its identity is
among them. So its datapoints describe the same language again.
-/

namespace Typology

open Property

namespace Datapoints

variable {d d' : Datapoints} {p : Property}

theorem deriveStress_eq_or (d : Datapoints) :
    d.deriveStress = d ∨ ∃ any, d.deriveStress = d.setKnown .stress (.single (.bool any)) := by
  unfold deriveStress
  split
  · exact .inr ⟨_, rfl⟩
  · exact .inl rfl

theorem deriveStress_of_some {value : Value} (h : d.known .stress = some value) :
    d.deriveStress = d := by
  unfold deriveStress
  rw [h]

theorem deriveStress_deriveStress (d : Datapoints) :
    d.deriveStress.deriveStress = d.deriveStress := by
  rcases d.deriveStress_eq_or with h | ⟨any, h⟩
  · rw [h, h]
  · have hset : (d.setKnown .stress (.single (.bool any))).known .stress =
        some (.single (.bool any)) := by rw [known_setKnown, if_pos rfl]
    rw [h, deriveStress_of_some hset]

theorem known_deriveStress (d : Datapoints) (hp : p ≠ .stress) :
    d.deriveStress.known p = d.known p := by
  rcases d.deriveStress_eq_or with h | ⟨any, h⟩
  · rw [h]
  · rw [h, known_setKnown, if_neg hp]

theorem identityField_deriveStress (d : Datapoints) (hp : p ≠ .stress) :
    d.deriveStress.identityField p = d.identityField p := by
  rw [identityField, identityField, known_deriveStress d hp]

theorem identity_deriveStress (d : Datapoints) : d.deriveStress.identity = d.identity := by
  unfold identity
  rw [identityField_deriveStress d (by decide), identityField_deriveStress d (by decide),
    identityField_deriveStress d (by decide)]

theorem Settled.deriveStress (h : d.Settled) : d.deriveStress.Settled := by
  rcases d.deriveStress_eq_or with heq | ⟨any, heq⟩
  · rwa [heq]
  · rw [heq]
    exact h.setKnown _ _

theorem Settled.insertJson {entries : List (String × Json)} (h : d.Settled)
    (hd : d.insertJson entries = .ok d') : d'.Settled := by
  induction entries generalizing d with
  | nil => cases hd; exact h
  | cons entry rest ih =>
      unfold Datapoints.insertJson at hd
      split at hd
      · cases hd
      · exact ih h hd
      · exact ih (h.insert _ _) hd

end Datapoints

namespace Language

variable {l : Language} {d : Datapoints}

/-- A language as it is made from datapoints: they name the properties in one way, hold the identity
of the language, and leave nothing to derive. -/
structure Recorded (l : Language) : Prop where
  settled : l.datapoints.Settled
  identity : l.datapoints.identity = .ok l.identity
  stress : l.datapoints.deriveStress = l.datapoints

theorem ofDatapoints_eq_ok :
    ofDatapoints d = .ok l ↔ d.identity = .ok l.identity ∧ l.datapoints = d.deriveStress := by
  unfold ofDatapoints
  cases d.identity with
  | error fault => exact iff_of_false nofun fun h => nomatch h.1
  | ok who =>
      constructor
      · rintro ⟨⟩
        exact ⟨rfl, rfl⟩
      · rintro ⟨⟨⟩, hd⟩
        rw [← hd]
        rfl

theorem recorded_of_ofDatapoints (hd : d.Settled) (h : ofDatapoints d = .ok l) : l.Recorded := by
  obtain ⟨hidentity, hdatapoints⟩ := ofDatapoints_eq_ok.1 h
  constructor
  · rw [hdatapoints]; exact hd.deriveStress
  · rw [hdatapoints, Datapoints.identity_deriveStress, hidentity]
  · rw [hdatapoints, Datapoints.deriveStress_deriveStress]

theorem recorded_of_ofList {entries : List (String × Value)} (h : ofList entries = .ok l) :
    l.Recorded :=
  recorded_of_ofDatapoints (.ofList entries) h

/-- A language is read from an object whose entries give the datapoints that describe it. -/
theorem ofJson_eq_ok {v : Json} (h : ofJson v = .ok l) :
    ∃ entries d, v = .object entries ∧ Datapoints.empty.insertJson entries = .ok d ∧
      ofDatapoints d = .ok l := by
  cases v with
  | object entries =>
      obtain ⟨d, hd, hl⟩ := bind_eq_ok h
      exact ⟨entries, d, rfl, hd, hl⟩
  | null | bool | int | float | text | array => cases h

theorem recorded_of_ofJson {v : Json} (h : ofJson v = .ok l) : l.Recorded := by
  obtain ⟨entries, d, -, hd, hl⟩ := ofJson_eq_ok h
  exact recorded_of_ofDatapoints (Datapoints.Settled.empty.insertJson hd) hl

theorem Recorded.ofDatapoints_eq (h : l.Recorded) : ofDatapoints l.datapoints = .ok l :=
  ofDatapoints_eq_ok.2 ⟨h.identity, h.stress.symm⟩

end Language

end Typology
