import HlsManifest.Numeric.Integer
import HlsManifest.Decimal.Binary

/-!
# Durations in microseconds

Every time in a playlist is a whole number of microseconds held in a signed 64-bit word. Seconds
are written in decimal with at most six fraction digits: `Micros.read` takes such text in, keeping
the first six fraction digits and dropping the rest, and `Micros.render` writes a value back with
its trailing fraction zeros removed.

`Micros.nanoseconds` is the same span in nanoseconds, pinned to the 64-bit range, and
`Micros.seconds` the nearest binary64 number of seconds.
-/

set_option autoImplicit false

namespace HlsManifest

/-- A duration in microseconds. -/
abbrev Micros := Int

namespace Micros

def perSecond : Nat := 1000000

theorem perSecond_pos : (0 : Int) < perSecond := by
  decide

/-- How many fraction digits a duration keeps. -/
def fractionDigits : Nat := 6

/-- Takes one fraction digit into the value so far while fewer than six are held; a later digit
is read past and dropped. The pair is the value and the count of digits it holds. -/
def keepFractionDigit (kept : Nat × Nat) (byte : UInt8) : Nat × Nat :=
  if kept.2 < fractionDigits then (kept.1 * 10 + Bytes.digitValue byte, kept.2 + 1) else kept

/-- The fraction of a second that the first six digits after the point name, in microseconds:
the digits kept, then one factor ten for each of the six places they leave empty. -/
def fractionValue (digits : Bytes) : Nat :=
  let (value, count) := digits.foldl keepFractionDigit (0, 0)
  value * Nat.pow 10 (fractionDigits - count)

theorem foldl_keepFractionDigit (digits : Bytes) (value count : Nat) (le : count ≤ fractionDigits) :
    digits.foldl keepFractionDigit (value, count) =
      ((digits.take (fractionDigits - count)).foldl
          (fun sofar byte => sofar * 10 + Bytes.digitValue byte) value,
        count + (digits.take (fractionDigits - count)).length) := by
  induction digits generalizing value count with
  | nil => simp
  | cons byte rest ih =>
    by_cases room : count < fractionDigits
    · obtain ⟨left, remaining⟩ : ∃ left, fractionDigits - count = left + 1 :=
        ⟨fractionDigits - count - 1, by omega⟩
      have after : fractionDigits - (count + 1) = left := by omega
      rw [List.foldl_cons, keepFractionDigit, if_pos room, ih _ _ room, after, remaining,
        List.take_succ_cons, List.foldl_cons, List.length_cons]
      simp only [Prod.mk.injEq, true_and]
      omega
    · have full : fractionDigits - count = 0 := by omega
      rw [List.foldl_cons, keepFractionDigit, if_neg room, ih _ _ le, full]
      simp

/-- The fraction is the value of its first six digits, padded on the right to six places. -/
theorem fractionValue_eq (digits : Bytes) :
    fractionValue digits = Bytes.digitsValue (digits.take fractionDigits) *
      Nat.pow 10 (fractionDigits - (digits.take fractionDigits).length) := by
  rw [fractionValue, foldl_keepFractionDigit digits 0 0 (Nat.zero_le _), Nat.sub_zero,
    Nat.zero_add]
  rfl

/-- The whole seconds and the fraction digits of a seconds text, and how many bytes each took
(the fraction's count includes its point). -/
structure SecondsText where
  whole : Bytes
  fraction : Bytes
  point : Bool

/-- Splits the unsigned part of a seconds text into its digit runs. -/
def SecondsText.scan (body : Bytes) : SecondsText :=
  let whole := body.takeWhile Bytes.isDigit
  match body.dropWhile Bytes.isDigit with
  | byte :: rest =>
    if byte == 46 then ⟨whole, rest.takeWhile Bytes.isDigit, true⟩ else ⟨whole, [], false⟩
  | [] => ⟨whole, [], false⟩

/-- Bytes that the digit runs and the point take. -/
def SecondsText.width (text : SecondsText) : Nat :=
  text.whole.length + (if text.point then 1 + text.fraction.length else 0)

/-- Reads seconds written `[blanks][sign]digits[.digits]` into microseconds. At least one digit,
before or after the point, is needed. The magnitude saturates at `Int64Range.max` in three steps
(the whole seconds, their product by a million, the added fraction), and the sign is applied after,
so the smallest value read is `-Int64Range.max`. -/
def read (text : Bytes) : Option Reading :=
  let blanks := (text.takeWhile Bytes.isBlank).length
  let (negative, signWidth, body) := Reading.sign (text.dropWhile Bytes.isBlank)
  let parts := SecondsText.scan body
  if parts.whole.isEmpty && parts.fraction.isEmpty then none
  else
    let whole := Integer.accumulate false parts.whole
    let magnitude :=
      Int64Range.addCapped (Int64Range.mulCapped whole perSecond) (fractionValue parts.fraction)
    some ⟨if negative then -magnitude else magnitude, blanks + signWidth + parts.width⟩

def readOrZero (text : Bytes) : Micros :=
  match read text with
  | some reading => reading.value
  | none => 0

/-- The six fraction digits of a remainder below a million, with trailing zeros removed. -/
def fractionText (remainder : Nat) : Bytes :=
  let padded := (List.replicate fractionDigits 48 ++ Bytes.ofNat remainder).drop
    (Bytes.ofNat remainder).length
  (padded.reverse.dropWhile (· == 48)).reverse

/-- Writes a duration as decimal seconds: a minus sign when negative, the whole seconds, and,
when the fraction is not zero, a point and its digits without trailing zeros. -/
def render (duration : Micros) : Bytes :=
  let magnitude := duration.natAbs
  let sign : Bytes := if duration < 0 then [45] else []
  let whole := Bytes.ofNat (magnitude / perSecond)
  let remainder := magnitude % perSecond
  if remainder = 0 then sign ++ whole
  else sign ++ whole ++ 46 :: fractionText remainder

/-- The duration in nanoseconds, pinned to the signed 64-bit range. -/
def nanoseconds (duration : Micros) : Int :=
  Int64Range.clamp (duration * 1000)

/-- The duration in seconds as a binary64 value: the count of microseconds is first rounded to
binary64, then divided by a million with a second rounding. -/
def seconds (duration : Micros) : Binary64 :=
  (Binary64.ofInt duration).divide perSecond

/-- A target duration rounded up to whole seconds: the quotient toward zero, plus one when the
remainder is positive. A negative duration is therefore never rounded. -/
def wholeSecondsUp (duration : Micros) : Int :=
  duration.tdiv perSecond + (if 0 < duration.tmod perSecond then 1 else 0)

end Micros

end HlsManifest
