/-!
# Byte buffers

A manifest is read as the bytes it is stored in, not as text: a byte that is not valid UTF-8
stays a byte, and every position the library reports is a byte offset. `Bytes` is a plain list of
octets, so that splitting, searching and the reading of numbers are list functions with list
lemmas behind them.

This module also names the few byte classes that the manifest grammar uses: decimal digits and
the two blanks, space and tab.
-/

set_option autoImplicit false

namespace HlsManifest

/-- A buffer of octets. -/
abbrev Bytes := List UInt8

namespace Bytes

/-- The UTF-8 encoding of a string. Tag names and fixed texts are written this way. -/
def ofString (text : String) : Bytes :=
  text.toUTF8.toList

def isDigit (byte : UInt8) : Bool :=
  48 ≤ byte && byte ≤ 57

/-- The value of a digit byte; only meaningful when `isDigit` holds. -/
def digitValue (byte : UInt8) : Nat :=
  byte.toNat - 48

theorem digitValue_lt (byte : UInt8) : digitValue byte < 256 := by
  unfold digitValue
  have := byte.toNat_lt
  omega

/-- A blank inside a line: space or horizontal tab. -/
def isBlank (byte : UInt8) : Bool :=
  byte == 32 || byte == 9

/-- The byte that ends a record. -/
def newline : UInt8 := 10

/-- The byte that one record may carry before its newline. -/
def carriageReturn : UInt8 := 13

/-- The value of a run of decimal digits, most significant first, without any bound. -/
def digitsValue (digits : Bytes) : Nat :=
  digits.foldl (fun value byte => value * 10 + digitValue byte) 0

/-- The decimal digits of a natural number, most significant first, with no leading zero
(zero itself is the single digit `0`). -/
def ofNat (value : Nat) : Bytes :=
  (Nat.toDigits 10 value).map (fun digit => digit.toNat.toUInt8)

/-- The decimal text of an integer: a minus sign for a negative one, then its magnitude. -/
def ofInt (value : Int) : Bytes :=
  if value < 0 then 45 :: ofNat value.natAbs else ofNat value.natAbs

/-- The first position where `pattern` occurs in `text`, if it occurs. -/
def find? (pattern : Bytes) : Bytes → Option Nat
  | [] => if pattern.isEmpty then some 0 else none
  | byte :: rest =>
    if pattern.isPrefixOf (byte :: rest) then some 0
    else (find? pattern rest).map (· + 1)

/-- The two sides of the first occurrence of `separator`, if any. -/
def splitAtFirst (separator : UInt8) (text : Bytes) : Option (Bytes × Bytes) :=
  match text.idxOf? separator with
  | some index => some (text.take index, text.drop (index + 1))
  | none => none

def hexPair (byte : UInt8) : String :=
  let digit (value : Nat) : Char :=
    if value < 10 then Char.ofNat (48 + value) else Char.ofNat (87 + value)
  String.ofList [digit (byte.toNat / 16), digit (byte.toNat % 16)]

/-- Lowercase hexadecimal text of a buffer, two digits per byte. -/
def toHex (bytes : Bytes) : String :=
  bytes.foldl (fun text byte => text ++ hexPair byte) ""

end Bytes

namespace Text

def ofNat (value : Nat) : String :=
  String.ofList (Nat.toDigits 10 value)

/-- The decimal text of an integer: a minus sign for a negative one, then its magnitude. -/
def ofInt (value : Int) : String :=
  if value < 0 then "-" ++ ofNat value.natAbs else ofNat value.natAbs

/-- A buffer whose bytes are all ASCII, as a string. -/
def ofAscii (bytes : Bytes) : String :=
  String.ofList (bytes.map fun byte => Char.ofNat byte.toNat)

end Text

end HlsManifest
