import HlsManifest.Bytes

/-!
# Integer and boolean literals of the command line

Numeric flags take an integer literal in any of the usual bases: a sign, then `0b`, `0o` or `0x`
with at least one more character after the prefix, or a leading `0` for octal, or plain decimal.
Underscores may separate digits: each must stand between two digits, where the base prefix
counts as a digit. The value must fit a signed 64-bit integer.

Boolean flags written with a value take `1`, `t`, `T`, `TRUE`, `true`, `True` for true and `0`,
`f`, `F`, `FALSE`, `false`, `False` for false.
-/

set_option autoImplicit false

namespace HlsManifest

namespace Literal

inductive Failure where
  | malformed
  | outOfRange
  deriving DecidableEq, Repr

def Failure.message : Failure → String
  | .malformed => "parse error"
  | .outOfRange => "value out of range"

/-- A byte with bit 5 set: ASCII letters in lower case. -/
def lower (byte : UInt8) : UInt8 :=
  byte ||| 32

/-- The value of a digit or letter in bases up to 36. -/
def digitOf? (byte : UInt8) : Option Nat :=
  if Bytes.isDigit byte then some (byte.toNat - 48)
  else if 97 ≤ lower byte && lower byte ≤ 122 then some ((lower byte).toNat - 87)
  else none

/-- The base of an unsigned literal and its digits after the prefix. -/
def splitBase (text : Bytes) : Nat × Bytes :=
  match text with
  | 48 :: marker :: first :: rest =>
    if lower marker == 98 then (2, first :: rest)
    else if lower marker == 111 then (8, first :: rest)
    else if lower marker == 120 then (16, first :: rest)
    else (8, marker :: first :: rest)
  | 48 :: rest => (8, rest)
  | _ => (10, text)

/-- The largest unsigned 64-bit value. -/
def unsignedLimit : Nat := Nat.pow 2 64 - 1

/-- Reads digits of a base, skipping underscores, stopping at the first value past 64 bits. -/
def accumulate (base : Nat) : Nat → Bytes → Except Failure Nat
  | value, [] => .ok value
  | value, byte :: rest =>
    if byte == 95 then accumulate base value rest
    else match digitOf? byte with
      | some digit =>
        if digit < base then
          let next := value * base + digit
          if unsignedLimit < next then .error .outOfRange else accumulate base next rest
        else .error .malformed
      | none => .error .malformed

/-- Where an underscore check stands: at the start, after a digit, after an underscore, or after
anything else. -/
inductive Seen where
  | start
  | digit
  | underscore
  | other
  deriving DecidableEq, Repr

/-- Whether the underscores of digits stand between digits. -/
def underscoresFrom (hex : Bool) : Seen → Bytes → Bool
  | seen, [] => seen != .underscore
  | seen, byte :: rest =>
    if Bytes.isDigit byte || (hex && 97 ≤ lower byte && lower byte ≤ 102) then
      underscoresFrom hex .digit rest
    else if byte == 95 then
      seen == .digit && underscoresFrom hex .underscore rest
    else
      seen != .underscore && underscoresFrom hex .other rest

/-- Whether the underscores of an unsigned literal stand between digits, a base prefix counting
as a digit. -/
def underscoresFit (text : Bytes) : Bool :=
  let body := match text with
    | 43 :: rest => rest
    | 45 :: rest => rest
    | _ => text
  match body with
  | 48 :: marker :: rest =>
    if lower marker == 98 || lower marker == 111 || lower marker == 120 then
      underscoresFrom (lower marker == 120) .digit rest
    else underscoresFrom false .start body
  | _ => underscoresFrom false .start body

/-- Reads an unsigned literal within 64 bits. -/
def readUnsigned (text : Bytes) : Except Failure Nat := do
  if text.isEmpty then throw .malformed
  let (base, digits) := splitBase text
  let value ← accumulate base 0 digits
  if text.contains 95 && !underscoresFit text then throw .malformed
  pure value

/-- Reads a signed literal within 64 bits. -/
def readInt (text : String) : Except Failure Int := do
  let bytes := Bytes.ofString text
  if bytes.isEmpty then throw .malformed
  let (negative, unsigned) := match bytes with
    | 43 :: rest => (false, rest)
    | 45 :: rest => (true, rest)
    | _ => (false, bytes)
  let magnitude ← readUnsigned unsigned
  if negative then
    if Nat.pow 2 63 < magnitude then throw .outOfRange
    pure (-(magnitude : Int))
  else
    if Nat.pow 2 63 ≤ magnitude then throw .outOfRange
    pure magnitude

def readBool : String → Except Failure Bool
  | "1" | "t" | "T" | "TRUE" | "true" | "True" => .ok true
  | "0" | "f" | "F" | "FALSE" | "false" | "False" => .ok false
  | _ => .error .malformed

end Literal

end HlsManifest
