/-!
The shortest decimal that reads back as a given binary number: the coarsest grid of powers of ten
with a point among the numbers that round to it, and on that grid the point nearest to it.
-/

namespace Typology.Decimal

/-- A decimal number `digits · 10 ^ exponent`. -/
structure Number where
  digits : Nat
  exponent : Int
deriving DecidableEq, Repr

/-- Which of two equally near grid points is taken. -/
inductive Tie where
  | upward
  | toEven
deriving DecidableEq, Repr

/-- A positive binary number `mantissa · 2 ^ exponent`. -/
structure Binary where
  mantissa : Nat
  exponent : Int
  /-- Whether the next smaller number lies half as far away as the next larger one. -/
  narrowBelow : Bool
deriving DecidableEq, Repr

namespace Binary

/-- The bits of a finite positive `Float`, as mantissa and exponent. -/
def ofBits (bits : UInt64) : Binary :=
  let fraction := (bits &&& 0xFFFFFFFFFFFFF).toNat
  let biased := ((bits >>> 52) &&& 0x7FF).toNat
  if biased = 0 then ⟨fraction, -1074, false⟩
  else ⟨fraction + 0x10000000000000, (biased : Int) - 1075, fraction = 0 ∧ 1 < biased⟩

/-- The lengths of one grid step and of a quarter unit of the mantissa, in a common unit. -/
def scales (v : Binary) (grid : Int) : Nat × Nat :=
  let quarter := v.exponent - 2
  (Nat.pow 10 grid.toNat * Nat.pow 2 (-quarter).toNat,
    Nat.pow 10 (-grid).toNat * Nat.pow 2 quarter.toNat)

/-- Whether `d` grid steps is one of the numbers that round to `v`. The ends of that interval
round to `v` exactly when its mantissa is even. -/
def covers (v : Binary) (grid : Int) (d : Nat) : Bool :=
  let (step, quarter) := v.scales grid
  let low := (4 * v.mantissa - if v.narrowBelow then 1 else 2) * quarter
  let high := (4 * v.mantissa + 2) * quarter
  if v.mantissa % 2 = 0 then low ≤ d * step ∧ d * step ≤ high
  else low < d * step ∧ d * step < high

/-- The grid point nearest to `v` among its two neighbours that round to it, if there is one. -/
def gridPoint? (v : Binary) (tie : Tie) (grid : Int) : Option Nat :=
  let (step, quarter) := v.scales grid
  let value := 4 * v.mantissa * quarter
  let d := value / step
  match v.covers grid d, v.covers grid (d + 1) with
  | false, false => none
  | true, false => some d
  | false, true => some (d + 1)
  | true, true =>
    let below := value - d * step
    let above := (d + 1) * step - value
    if below < above then some d
    else if above < below then some (d + 1)
    else match tie with
      | .upward => some (d + 1)
      | .toEven => some (if d % 2 = 0 then d else d + 1)

/-- Tries the grid `10 ^ grid` and then the finer ones, `fuel` of them. -/
def search (v : Binary) (tie : Tie) : Nat → Int → Number
  | 0, grid => ⟨4 * v.mantissa * (v.scales grid).2 / (v.scales grid).1, grid⟩
  | fuel + 1, grid =>
    match v.gridPoint? tie grid with
    | some d => ⟨d, grid⟩
    | none => search v tie fuel (grid - 1)

/-- The shortest decimal that reads back as `v`. The first grid is coarser than `v`, and the
seventeenth digit always suffices, so 24 grids are enough. -/
def shortest (v : Binary) (tie : Tie) : Number :=
  v.search tie 24 (((v.mantissa.log2 : Int) + 1 + v.exponent) * 30103 / 100000 + 1)

end Binary

end Typology.Decimal
