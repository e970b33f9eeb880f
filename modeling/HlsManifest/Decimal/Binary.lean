/-!
# Binary floating point values

Durations are also reported in seconds as binary64 floating point numbers: the microsecond count is
first taken to the nearest binary64 value, and that value is divided by a million, again to the
nearest binary64 value. `Binary64.ofRatio` is that rounding for any positive ratio of naturals, in
exact arithmetic: 53 significant bits, ties to the even neighbour, and gradual underflow below
`2^-1022`. Magnitudes are assumed below `2^1024`, which every ratio here is by far.
-/

set_option autoImplicit false

namespace HlsManifest

/-- A finite binary64 value, `(-1)^negative · mantissa · 2^exponent`, with the mantissa below
`2^53` and the exponent, that of the mantissa's last bit, at least `-1074`. -/
structure Binary64 where
  negative : Bool
  mantissa : Nat
  exponent : Int
  deriving DecidableEq, Repr

namespace Binary64

def precision : Nat := 53

/-- The exponent of the least subnormal value. -/
def minExponent : Int := -1074

/-- The nearest natural to `numerator / denominator`; of two equally near, the even one. -/
def roundHalfEven (numerator denominator : Nat) : Nat :=
  let quotient := numerator / denominator
  let twiceRemainder := 2 * (numerator % denominator)
  if twiceRemainder < denominator then quotient
  else if denominator < twiceRemainder then quotient + 1
  else if quotient % 2 = 0 then quotient else quotient + 1

/-- `numerator · 2^shift` over `denominator`, compared by cross multiplication: whether it is at
least one. -/
def atLeastOne (numerator denominator : Nat) (shift : Int) : Bool :=
  if 0 ≤ shift then denominator ≤ numerator * Nat.pow 2 shift.toNat
  else denominator * Nat.pow 2 (-shift).toNat ≤ numerator

/-- `⌊log₂ (numerator / denominator)⌋` for positive numbers: the bit lengths give it within
one. -/
def floorLog2 (numerator denominator : Nat) : Int :=
  let guess : Int := (numerator.log2 : Int) - denominator.log2
  if atLeastOne numerator denominator (-guess) then guess else guess - 1

/-- The nearest natural to `numerator / (denominator · 2^exponent)`, ties to even. -/
def scaledRound (numerator denominator : Nat) (exponent : Int) : Nat :=
  if 0 ≤ exponent then roundHalfEven numerator (denominator * Nat.pow 2 exponent.toNat)
  else roundHalfEven (numerator * Nat.pow 2 (-exponent).toNat) denominator

/-- The binary64 value nearest to `±numerator / denominator`, ties to an even significand. The
exponent is chosen so that the significand has 53 bits, or fewer at the bottom of the range;
a significand that rounds up to `2^53` moves to the next exponent. -/
def ofRatio (negative : Bool) (numerator denominator : Nat) : Binary64 :=
  if numerator = 0 ∨ denominator = 0 then ⟨negative, 0, 0⟩
  else
    let exponent := max (floorLog2 numerator denominator - (precision - 1 : Nat)) minExponent
    let mantissa := scaledRound numerator denominator exponent
    if mantissa = Nat.pow 2 precision then ⟨negative, Nat.pow 2 (precision - 1), exponent + 1⟩
    else ⟨negative, mantissa, exponent⟩

def ofInt (value : Int) : Binary64 :=
  ofRatio (value < 0) value.natAbs 1

/-- The binary64 value nearest to this value divided by a positive natural. -/
def divide (value : Binary64) (divisor : Nat) : Binary64 :=
  if 0 ≤ value.exponent then
    ofRatio value.negative (value.mantissa * Nat.pow 2 value.exponent.toNat) divisor
  else
    ofRatio value.negative value.mantissa (divisor * Nat.pow 2 (-value.exponent).toNat)

def isZero (value : Binary64) : Bool :=
  value.mantissa == 0

end Binary64

end HlsManifest
