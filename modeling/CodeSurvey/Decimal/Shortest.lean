import CodeSurvey.Decimal.Binary

set_option autoImplicit false

namespace CodeSurvey.Decimal

/-- The reals that round to a double, as fractions with one denominator: the lowest, the double
itself and the highest; `closed` says whether the ends belong to them. -/
structure Interval where
  low : Nat
  mid : Nat
  high : Nat
  den : Nat
  closed : Bool

/-- The interval of `units · 2 ^ scale`. Below a power of two the doubles lie twice as close. -/
def interval (units : Nat) (scale : Int) : Interval :=
  let below := if units = Nat.pow 2 52 ∧ -1074 < scale then 1 else 2
  let size := if 0 ≤ scale then Nat.pow 2 scale.toNat else 1
  let den := if 0 ≤ scale then 4 else 4 * Nat.pow 2 (-scale).toNat
  ⟨(4 * units - below) * size, 4 * units * size, (4 * units + 2) * size, den, units % 2 = 0⟩

namespace Interval

/-- Numerators on a grid: the fraction `num / den` in units of `10 ^ grid`. -/
def onGrid (num den : Nat) (grid : Int) : Nat × Nat :=
  if 0 ≤ grid then (num, den * Nat.pow 10 grid.toNat) else (num * Nat.pow 10 (-grid).toNat, den)

def has (i : Interval) (grid : Int) (digits : Nat) : Bool :=
  let (low, den) := onGrid i.low i.den grid
  let (high, _) := onGrid i.high i.den grid
  if i.closed then low ≤ digits * den && digits * den ≤ high
  else low < digits * den && digits * den < high

/-- The decimal on a grid that lies in the interval and is nearest to the double. -/
def nearest? (i : Interval) (grid : Int) : Option Nat :=
  let (mid, den) := onGrid i.mid i.den grid
  let below := mid / den
  match i.has grid below, i.has grid (below + 1) with
  | true, true => some (roundQuotient mid den)
  | true, false => some below
  | false, true => some (below + 1)
  | false, false => none

/-- The first grid of at most `fuel` finer ones that has a decimal in the interval. -/
def firstGrid (i : Interval) : Nat → Int → Nat × Int
  | 0, grid => ((i.nearest? grid).getD 0, grid)
  | fuel + 1, grid =>
    match i.nearest? grid with
    | some digits => (digits, grid)
    | none => firstGrid i fuel (grid - 1)

end Interval

/-- The least power of ten above a fraction, counted up from a lower bound. -/
def magnitude (num den : Nat) : Nat → Int → Int
  | 0, power => power
  | fuel + 1, power =>
    let (num', den') := Interval.onGrid num den power
    if den' ≤ num' then magnitude num den fuel (power + 1) else power

/-- Digits without the zeros they end with, and the power of ten of the last one. -/
def dropZeros : Nat → Nat → Int → Nat × Int
  | 0, digits, power => (digits, power)
  | fuel + 1, digits, power =>
    if digits ≠ 0 ∧ digits % 10 = 0 then dropZeros fuel (digits / 10) (power + 1)
    else (digits, power)

/-- The shortest decimal `digits · 10 ^ power` for a positive `units · 2 ^ scale`. -/
def shortest (units : Nat) (scale : Int) : Nat × Int :=
  let i := interval units scale
  -- A lower bound from the binary logarithm, too low by a few powers at most.
  let guess := ((units.log2 : Int) + scale) * 30103 / 100000 - 1
  let top := magnitude i.mid i.den 4 guess
  let (digits, power) := i.firstGrid 17 (top - 1)
  dropZeros 20 digits power

end CodeSurvey.Decimal
