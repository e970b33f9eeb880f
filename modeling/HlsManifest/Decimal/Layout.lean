import HlsManifest.Decimal.Shortest

/-!
# Laying out decimal digits

The shortest digits of a value are written either positionally (`0.0015`, `86400`) or with an
exponent (`1e-06`, `9.223372036854775e+12`). A `FloatLayout` holds the decisions that differ
between output formats: the range of decimal exponents written positionally, and the least
number of exponent digits. The exponent always carries its sign, and a single significant digit
has no point.
-/

set_option autoImplicit false

namespace HlsManifest

/-- How a format writes a floating point value: positionally when the decimal exponent of the
leading digit is at least `positionalFrom` and below `positionalBelow`, and otherwise with an
exponent of at least `exponentWidth` digits. -/
structure FloatLayout where
  positionalFrom : Int
  positionalBelow : Int
  exponentWidth : Nat
  deriving DecidableEq, Repr

namespace FloatLayout

/-- Digits with the decimal point after the first `point` of them; a point at or before the start
gives leading zeros after `0.`, a point past the end gives trailing zeros and no point. -/
def positional (digits : List Char) (point : Int) : String :=
  if point ≤ 0 then
    "0." ++ String.ofList (List.replicate (-point).toNat '0') ++ String.ofList digits
  else if digits.length ≤ point.toNat then
    String.ofList digits ++ String.ofList (List.replicate (point.toNat - digits.length) '0')
  else
    String.ofList (digits.take point.toNat) ++ "." ++ String.ofList (digits.drop point.toNat)

/-- Digits as `d.ddd` followed by `e`, the exponent's sign and at least `width` exponent
digits. -/
def scientific (digits : List Char) (exponent : Int) (width : Nat) : String :=
  let mantissa := match digits with
    | first :: rest@(_ :: _) => String.singleton first ++ "." ++ String.ofList rest
    | _ => String.ofList digits
  let magnitude := Nat.toDigits 10 exponent.natAbs
  let padded := List.replicate (width - magnitude.length) '0' ++ magnitude
  mantissa ++ "e" ++ (if exponent < 0 then "-" else "+") ++ String.ofList padded

/-- The text of a binary64 value in this layout, from its shortest digits. -/
def render (layout : FloatLayout) (value : Binary64) : String :=
  let sign := if value.negative then "-" else ""
  let decimal := DecimalDigits.shortest value
  if decimal.significand = 0 then sign ++ "0"
  else
    let digits := Nat.toDigits 10 decimal.significand
    let leading : Int := (digits.length : Int) - 1 + decimal.exponent
    if layout.positionalFrom ≤ leading ∧ leading < layout.positionalBelow then
      sign ++ positional digits (leading + 1)
    else
      sign ++ scientific digits leading layout.exponentWidth

end FloatLayout

end HlsManifest
