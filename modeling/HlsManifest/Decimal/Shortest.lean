import HlsManifest.Decimal.Binary

/-!
# Shortest decimal digits

The decimal text of a binary64 value uses the fewest significant digits that read back as the
same value, and of those the decimal nearest to it. Reading back rounds to nearest, so the
decimals that read back are those of the rounding interval: the reals between the value and its
two neighbours' midpoints, ends included when the significand is even. The neighbour below is
half as far away when the significand is the least normal one and the exponent can still go down.

`shortest` tries 1, 2, … 17 significant digits. For each count the decimals on that grid nearest
to the value from below and from above are the only candidates: if any grid point lies in the
interval, one of these two does. The first count with a candidate in the interval wins, the
nearer of two candidates is taken, and an exact tie goes to the even one. All of it is exact
arithmetic on naturals.
-/

set_option autoImplicit false

namespace HlsManifest

/-- A decimal `significand · 10^exponent`, the significand without trailing zeros (or zero). -/
structure DecimalDigits where
  significand : Nat
  exponent : Int
  deriving DecidableEq, Repr

namespace DecimalDigits

/-- The number of decimal digits of a natural, at least one. -/
def digitCount (value : Nat) : Nat :=
  (Nat.toDigits 10 value).length

/-- Removes trailing zero digits, raising the exponent to keep the value. -/
def normalize (significand : Nat) (exponent : Int) : DecimalDigits :=
  if significand ≠ 0 ∧ significand % 10 = 0 then normalize (significand / 10) (exponent + 1)
  else ⟨significand, exponent⟩
termination_by significand
decreasing_by omega

/-- A positive rational `numerator / denominator`, the denominator positive. -/
structure Ratio where
  numerator : Nat
  denominator : Nat

/-- `⌊log₁₀ r⌋` of a positive ratio. -/
def Ratio.floorLog10 (ratio : Ratio) : Int :=
  if ratio.denominator ≤ ratio.numerator then
    (digitCount (ratio.numerator / ratio.denominator) : Int) - 1
  else
    let below := digitCount (ratio.denominator / ratio.numerator) - 1
    if ratio.denominator = ratio.numerator * Nat.pow 10 below then -(below : Int) else -(below : Int) - 1

/-- The points of a rounding interval, in quarters of the last place: the value is `4m` quarters,
the ends are `low` and `high` quarters, all times `2^(exponent - 2)`; `inclusive` says whether
the ends read back as the value. -/
structure Interval where
  center : Nat
  low : Nat
  high : Nat
  scale : Int
  inclusive : Bool

/-- The rounding interval of a positive binary64 value. -/
def Interval.ofBinary (value : Binary64) : Interval :=
  let lowGap := if value.mantissa = Nat.pow 2 (Binary64.precision - 1) ∧ Binary64.minExponent < value.exponent
    then 1 else 2
  ⟨4 * value.mantissa, 4 * value.mantissa - lowGap, 4 * value.mantissa + 2, value.exponent - 2,
    value.mantissa % 2 == 0⟩

/-- Compares `quarters · 2^scale` with `digits · 10^place`, by cross multiplication. -/
def compareScaled (quarters : Nat) (scale : Int) (digits : Nat) (place : Int) : Ordering :=
  compare (quarters * Nat.pow 2 scale.toNat * Nat.pow 10 (-place).toNat)
    (digits * Nat.pow 10 place.toNat * Nat.pow 2 (-scale).toNat)

/-- `⌊quarters · 2^scale / 10^place⌋`. -/
def floorScaled (quarters : Nat) (scale : Int) (place : Int) : Nat :=
  (quarters * Nat.pow 2 scale.toNat * Nat.pow 10 (-place).toNat) / (Nat.pow 10 place.toNat * Nat.pow 2 (-scale).toNat)

/-- Whether `digits · 10^place` lies in the interval. -/
def Interval.holds (interval : Interval) (digits : Nat) (place : Int) : Bool :=
  let aboveLow := match compareScaled interval.low interval.scale digits place with
    | .lt => true
    | .eq => interval.inclusive
    | .gt => false
  let belowHigh := match compareScaled interval.high interval.scale digits place with
    | .gt => true
    | .eq => interval.inclusive
    | .lt => false
  aboveLow && belowHigh

/-- The decimal with `count` significant digits that reads back as the value, when there is one:
of the grid points on either side of the value, the one inside the interval, the nearer one if
both are, the even one on a tie. -/
def Interval.candidate (interval : Interval) (leading : Int) (count : Nat) : Option DecimalDigits :=
  let place := leading - count + 1
  let below := floorScaled interval.center interval.scale place
  let belowHolds := interval.holds below place
  let aboveHolds := interval.holds (below + 1) place
  if belowHolds && aboveHolds then
    match compareScaled (2 * interval.center) interval.scale (2 * below + 1) place with
    | .lt => some (normalize below place)
    | .gt => some (normalize (below + 1) place)
    | .eq => some (normalize (if below % 2 = 0 then below else below + 1) place)
  else if belowHolds then some (normalize below place)
  else if aboveHolds then some (normalize (below + 1) place)
  else none

/-- The shortest decimal that reads back as a binary64 value, nearest of the shortest; zero for
zero. Seventeen significant digits always suffice. -/
def shortest (value : Binary64) : DecimalDigits :=
  if value.mantissa = 0 then ⟨0, 0⟩
  else
    let interval := Interval.ofBinary value
    let center : Ratio :=
      ⟨interval.center * Nat.pow 2 interval.scale.toNat, Nat.pow 2 (-interval.scale).toNat⟩
    let leading := center.floorLog10
    match (List.range' 1 17).findSome? (interval.candidate leading) with
    | some digits => digits
    | none => normalize (floorScaled interval.center interval.scale (leading - 16)) (leading - 16)

end DecimalDigits

end HlsManifest
