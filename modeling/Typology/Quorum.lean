import Typology.Value
/-!
The quorum: the share of languages that must have data for a question to be answered.
-/

namespace Typology

/-- The least share of languages that must have data. -/
structure Quorum where
  threshold : Float
deriving DecidableEq, Repr

/-- Too few languages had data: `present` of `total`. -/
structure Shortfall where
  field : String
  present : Nat
  total : Nat
  threshold : Float
deriving DecidableEq, Repr

namespace Shortfall

/-- The number of languages without data. -/
def missing (s : Shortfall) : Nat := s.total - s.present

/-- The wording of a shortfall. -/
def message (s : Shortfall) : String :=
  "Insufficient data for '" ++ s.field ++ "': only " ++ toString s.present ++ " of " ++
    toString s.total ++ " languages have it (quorum " ++
    Decimal.Layout.plain.render s.threshold ++ ")"

end Shortfall

namespace Quorum

/-- Half of the languages. -/
def half : Quorum := ⟨1 / 2⟩

instance : Inhabited Quorum := ⟨half⟩

/-- A quorum that is always met. -/
def disabled : Quorum := ⟨0⟩

/-- The quorum for a share, which is brought into the interval from 0 to 1; what is no number
stands for half. -/
def ofShare (share : Float) : Quorum :=
  if share.isNaN then half
  else if share < 0 then ⟨0⟩
  else if 1 < share then ⟨1⟩
  else ⟨share⟩

/-- The shortfall if `present` of `total` languages are too few; of none, none are enough. -/
def check (q : Quorum) (field : String) (present total : Nat) : Except Shortfall Unit :=
  if 0 < total ∧ Float.ofNat present < q.threshold * Float.ofNat total then
    .error ⟨field, present, total, q.threshold⟩
  else .ok ()

end Quorum

end Typology
