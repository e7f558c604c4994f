import SlotPool.Decimal

/-!
# Fewest digits that read back

A binary floating-point number is printed with the fewest decimal digits from
which it can be read back.  Every number owns an interval: all reals that are
nearer to it than to its neighbours.  A decimal reads back when it lies in that
interval, and a coarser power of ten means fewer digits, so the grids of
multiples of powers of ten are tried from the coarsest one downwards.  On a grid
only the two multiples next to the number matter; of two that fit the nearer one
is taken, and the upper one when both are equally near.

Main definitions:

- `Binary.ofBits`: significand and exponent of a 64-bit pattern.
- `Binary.onGrid?`: the multiple of a power of ten that stands for the number.
- `Binary.shortest`: the decimal with the fewest digits.
- `floatText`: the printed form of a 64-bit pattern.
-/

namespace SlotPool.Decimal

/-- A nonnegative finite floating-point number `significand * 2 ^ exponent`. -/
structure Binary where
  significand : Nat
  exponent : Int
  /-- The neighbour below is only half as far away as the neighbour above. -/
  narrowBelow : Bool
deriving DecidableEq

namespace Binary

/-- Significand and exponent of a finite 64-bit pattern; the sign is left out. -/
def ofBits (bits : UInt64) : Binary :=
  let fraction : Nat := (bits &&& 0xfffffffffffff).toNat
  let scale : Nat := (bits >>> 52 &&& 0x7ff).toNat
  if scale = 0 then
    ⟨fraction, -1074, false⟩
  else
    ⟨0x10000000000000 + fraction, (scale : Int) - 1075, fraction = 0 && 1 < scale⟩

/-- The multiple of `10 ^ power` that reads back as the number and is nearest to it,
counted in units of `10 ^ power`.  All lengths are compared in quarters of the gap above,
so that the ends of the interval are whole numbers. -/
def onGrid? (x : Binary) (power : Int) : Option Nat :=
  let quarter := Nat.pow 10 (-power).toNat <<< (x.exponent - 2).toNat
  let step := Nat.pow 10 power.toNat <<< (2 - x.exponent).toNat
  let value := 4 * x.significand * quarter
  let low := (4 * x.significand - if x.narrowBelow then 1 else 2) * quarter
  let high := (4 * x.significand + 2) * quarter
  let endsIncluded := x.significand % 2 == 0
  let below := value / step
  let above := below + 1
  let belowFits := low < below * step || endsIncluded && low == below * step
  let aboveFits := above * step < high || endsIncluded && above * step == high
  match belowFits, aboveFits with
  | true, true => if 2 * (value - below * step) < step then some below else some above
  | true, false => some below
  | false, true => some above
  | false, false => none

/-- The coarsest power of ten that is tried, one above the largest finite number. -/
def coarsest : Nat :=
  309

/-- The number of grids tried; the finest is finer than the smallest gap between numbers. -/
def gridCount : Nat :=
  640

/-- The decimal with the fewest digits that reads back as a positive number. -/
def shortest (x : Binary) : Decimal :=
  let onPower (k : Nat) : Option Decimal :=
    let power := (coarsest : Int) - k
    (x.onGrid? power).map fun digits => ⟨digits, power⟩
  ((List.range gridCount).findSome? onPower).getD ⟨0, 0⟩

end Binary

/-- Printed form of a 64-bit floating-point pattern.  A zero keeps its sign. -/
def floatText (bits : UInt64) : String :=
  let sign := if bits >>> 63 = 1 then "-" else ""
  let magnitude := bits &&& 0x7fffffffffffffff
  let infinite := 0x7ff0000000000000
  if magnitude = 0 then sign ++ "0.0"
  else if magnitude < infinite then sign ++ (Binary.ofBits bits).shortest.positional
  else if magnitude = infinite then sign ++ "inf"
  else "NaN"

end SlotPool.Decimal
