import HlsManifest.Bytes
import HlsManifest.Numeric.Int64Range

/-!
# Reading a decimal integer

Tag values such as the target duration, the media sequence number and the bandwidth are decimal
integers at the start of a byte run: an optional `+` or `-`, then digits up to the first byte that
is not one. The digits are taken one at a time into a signed 64-bit word that saturates, so a
value beyond the range reads as the nearer end of it and stays there whatever digits follow.

`Integer.read` answers the value and the number of bytes it took, or nothing when no digit
follows the sign.
-/

set_option autoImplicit false

namespace HlsManifest

/-- A number read from the start of a byte run, and how many bytes it took, sign and digits
together. -/
structure Reading where
  value : Int
  consumed : Nat
  deriving DecidableEq, Repr

/-- The sign in front of a number: whether it is negative, how many bytes it takes (0 or 1),
and the bytes after it. -/
def Reading.sign (text : Bytes) : Bool × Nat × Bytes :=
  match text with
  | byte :: rest =>
    if byte == 45 then (true, 1, rest)
    else if byte == 43 then (false, 1, rest)
    else (false, 0, text)
  | [] => (false, 0, [])

namespace Integer

/-- Appends one decimal digit to a word, saturating towards the number's sign: a negative number
grows downwards and stops at `Int64Range.min`, a positive one grows upwards and stops at
`Int64Range.max`. The word is tested before it is multiplied, against the end less the digit
divided by ten (truncated toward zero), so the step itself never leaves the range. -/
def pushDigit (negative : Bool) (value : Int) (byte : UInt8) : Int :=
  let digit : Int := Bytes.digitValue byte
  if negative then
    if value < (Int64Range.min + digit).tdiv 10 then Int64Range.min else value * 10 - digit
  else
    if (Int64Range.max - digit).tdiv 10 < value then Int64Range.max else value * 10 + digit

theorem pushDigit_true (value : Int) (byte : UInt8) :
    pushDigit true value byte = max (value * 10 - Bytes.digitValue byte) Int64Range.min := by
  have small := Bytes.digitValue_lt byte
  have quotient : (Int64Range.min + Bytes.digitValue byte).tdiv 10 =
      -((-Int64Range.min - Bytes.digitValue byte) / 10) := by
    rw [← Int.tdiv_eq_ediv_of_nonneg (by unfold Int64Range.min; omega), ← Int.neg_tdiv]
    congr 1
    omega
  unfold pushDigit
  simp only [↓reduceIte, quotient]
  unfold Int64Range.min
  split <;> omega

theorem pushDigit_false (value : Int) (byte : UInt8) :
    pushDigit false value byte = min (value * 10 + Bytes.digitValue byte) Int64Range.max := by
  have small := Bytes.digitValue_lt byte
  have quotient : (Int64Range.max - Bytes.digitValue byte).tdiv 10 =
      (Int64Range.max - Bytes.digitValue byte) / 10 :=
    Int.tdiv_eq_ediv_of_nonneg (by unfold Int64Range.max; omega)
  unfold pushDigit
  simp only [Bool.false_eq_true, ↓reduceIte, quotient]
  unfold Int64Range.max
  split <;> omega

/-- The saturating word of a run of digits. -/
def accumulate (negative : Bool) (digits : Bytes) : Int :=
  digits.foldl (pushDigit negative) 0

/-- Reads an optionally signed decimal integer at the start of `text`. A space or tab ends the
number like any other non-digit. Without a digit after the sign there is no reading. -/
def read (text : Bytes) : Option Reading :=
  let (negative, signWidth, body) := Reading.sign text
  let digits := body.takeWhile Bytes.isDigit
  if digits.isEmpty then none
  else some ⟨accumulate negative digits, signWidth + digits.length⟩

def readOrZero (text : Bytes) : Int :=
  match read text with
  | some reading => reading.value
  | none => 0

end Integer

namespace Bandwidth

/-- The attribute name whose value is a variant's bandwidth. -/
def attributeName : Bytes := Bytes.ofString "BANDWIDTH="

/-- The integer after the first occurrence of `BANDWIDTH=` anywhere in an attribute list. The
search is textual: a longer attribute name ending in it, or the text inside a quoted value, is
found as well when it comes first. -/
def read (attributes : Bytes) : Option Int :=
  match Bytes.find? attributeName attributes with
  | some position =>
    (Integer.read (attributes.drop (position + attributeName.length))).map Reading.value
  | none => none

end Bandwidth

end HlsManifest
