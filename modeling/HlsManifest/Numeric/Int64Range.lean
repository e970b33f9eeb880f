/-!
# The signed 64-bit range

Every number a manifest carries is held in a signed 64-bit word. The readers never wrap: a value
beyond the range is pinned to the nearer end, which is `clamp`. This module fixes the two ends,
the clamp, and the two's complement reduction `wrap` for the one place where a sum of two words
is reported as a word.

The saturating operations are written as word arithmetic must write them: the overflow test comes
before the operation, by a division truncated toward zero or a subtraction that cannot overflow
(`mulCapped`, `addCapped`, `scale`). Each is proved equal to the exact result pinned to the range.

Main statements: `clamp` lands in the range and is the identity inside it; `scale_eq_clamp`.
-/

set_option autoImplicit false

namespace HlsManifest

namespace Int64Range

/-- The largest signed 64-bit value, `2^63 - 1`. -/
def max : Int := 9223372036854775807

/-- The smallest signed 64-bit value, `-2^63`. -/
def min : Int := -9223372036854775808

/-- Pins a value to the range: above it gives `max`, below it gives `min`. -/
def clamp (value : Int) : Int :=
  if max < value then max else if value < min then min else value

/-- Caps a value from above at `max`; used for magnitudes, which are never negative. -/
def capAbove (value : Int) : Int :=
  if max < value then max else value

/-- The two's complement word that a sum of words leaves behind: the value reduced modulo `2^64`
into the range. -/
def wrap (value : Int) : Int :=
  Int.bmod value (Nat.pow 2 64)

theorem clamp_of_mem {value : Int} (low : min ≤ value) (high : value ≤ max) :
    clamp value = value := by
  unfold clamp
  rw [if_neg (Int.not_lt.mpr high), if_neg (Int.not_lt.mpr low)]

/-- The product of two non-negative words, capped at `max`. The test divides first: the product
passes `max` exactly when `a` passes `max / b`. -/
def mulCapped (a b : Int) : Int :=
  if b ≠ 0 ∧ max.tdiv b < a then max else a * b

/-- The sum of two non-negative words, capped at `max`; the test subtracts first. -/
def addCapped (a b : Int) : Int :=
  if max - b < a then max else a + b

/-- Multiplies a word by a positive factor, pinning the product to the range. A negative word is
tested against `min / factor`, truncated toward zero, so that `min` itself is reached; a
non-negative one goes through `mulCapped`. -/
def scale (factor value : Int) : Int :=
  if value < 0 then
    if value < min.tdiv factor then min else value * factor
  else mulCapped value factor

-- Truncation rounds the negative quotient up, so comparing below it is comparing the product.
theorem lt_tdiv_min_iff {value factor : Int} (positive : 0 < factor) :
    value < min.tdiv factor ↔ value * factor < min := by
  have quotient : min.tdiv factor = -((-min) / factor) := by
    rw [← Int.tdiv_eq_ediv_of_nonneg (by decide), Int.neg_tdiv, Int.neg_neg]
  have bound : (-min) / factor < -value ↔ -min < -value * factor :=
    Int.ediv_lt_iff_lt_mul positive
  rw [quotient, Int.neg_mul] at *
  omega

theorem tdiv_max_lt_iff {value factor : Int} (positive : 0 < factor) :
    max.tdiv factor < value ↔ max < value * factor := by
  rw [Int.tdiv_eq_ediv_of_nonneg (by decide), Int.ediv_lt_iff_lt_mul positive]

theorem mulCapped_eq {a b : Int} (positive : 0 < b) : mulCapped a b = capAbove (a * b) := by
  unfold mulCapped capAbove
  simp only [ne_eq, Int.ne_of_gt positive, not_false_eq_true, true_and, tdiv_max_lt_iff positive]

theorem addCapped_eq (a b : Int) : addCapped a b = capAbove (a + b) := by
  unfold addCapped capAbove
  by_cases exceeds : max < a + b
  · rw [if_pos (by omega), if_pos exceeds]
  · rw [if_neg (by omega), if_neg exceeds]

/-- The word product by a positive factor is the exact product pinned to the range, for every
value. -/
theorem scale_eq_clamp {factor : Int} (positive : 0 < factor) (value : Int) :
    scale factor value = clamp (value * factor) := by
  unfold scale clamp
  by_cases negative : value < 0
  · have nonpos : value * factor ≤ 0 := Int.mul_nonpos_of_nonpos_of_nonneg (by omega) (by omega)
    rw [if_pos negative, if_neg (show ¬max < value * factor by unfold max; omega)]
    simp only [lt_tdiv_min_iff positive]
  · have nonneg : 0 ≤ value * factor := Int.mul_nonneg (by omega) (by omega)
    rw [if_neg negative, mulCapped_eq positive, capAbove,
      if_neg (show ¬value * factor < min by unfold min; omega)]

end Int64Range

end HlsManifest
