import HlsManifest.Bytes

/-!
# Reading bytes as UTF-8

Reports and error messages show manifest bytes as text. A buffer is cut into pieces: a character
encoded in well-formed UTF-8 (RFC 3629: no overlong form, no surrogate, nothing above U+10FFFF), or
a single byte that does not start one. A stray byte is one piece and reading goes on at the next
byte, so every buffer has exactly one cutting and the pieces put together give the buffer back.

Main statement: `flatten_pieces`, the pieces concatenate to the buffer.
-/

set_option autoImplicit false

namespace HlsManifest

namespace Utf8

/-- One piece of a buffer read as UTF-8: a well-formed character, by its code point and its
encoding, or a byte that does not start one. -/
inductive Piece where
  | char (code : Nat) (encoding : Bytes)
  | stray (byte : UInt8)
  deriving DecidableEq, Repr

def Piece.bytes : Piece → Bytes
  | .char _ encoding => encoding
  | .stray byte => [byte]

/-- A continuation byte lies in `0x80 ..= 0xBF`. -/
def isTail (byte : UInt8) : Bool :=
  0x80 ≤ byte && byte ≤ 0xBF

/-- Whether `byte` lies in `low ..= high`. -/
def within (low high byte : UInt8) : Bool :=
  low ≤ byte && byte ≤ high

/-- The length of the well-formed character at the start of a buffer, or zero when the first byte
does not start one. The second byte's range depends on the first, which rules out overlong forms,
surrogates and code points above U+10FFFF. -/
def charWidth : Bytes → Nat
  | [] => 0
  | first :: rest =>
    if first < 0x80 then 1
    else if within 0xC2 0xDF first then
      match rest with
      | second :: _ => if isTail second then 2 else 0
      | [] => 0
    else if within 0xE0 0xEF first then
      let low : UInt8 := if first == 0xE0 then 0xA0 else 0x80
      let high : UInt8 := if first == 0xED then 0x9F else 0xBF
      match rest with
      | second :: third :: _ => if within low high second && isTail third then 3 else 0
      | _ => 0
    else if within 0xF0 0xF4 first then
      let low : UInt8 := if first == 0xF0 then 0x90 else 0x80
      let high : UInt8 := if first == 0xF4 then 0x8F else 0xBF
      match rest with
      | second :: third :: fourth :: _ =>
        if within low high second && isTail third && isTail fourth then 4 else 0
      | _ => 0
    else 0

/-- The code point of a well-formed encoding: the payload bits of the first byte, then six bits
from each continuation byte. -/
def codePoint (encoding : Bytes) : Nat :=
  match encoding with
  | [] => 0
  | first :: rest =>
    let lead := match rest.length with
      | 0 => first.toNat
      | 1 => first.toNat % 32
      | 2 => first.toNat % 16
      | _ => first.toNat % 8
    rest.foldl (fun code byte => code * 64 + byte.toNat % 64) lead

/-- Cuts a buffer into characters and stray bytes. -/
def pieces (bytes : Bytes) : List Piece :=
  match bytes with
  | [] => []
  | first :: rest =>
    let width := charWidth (first :: rest)
    if width = 0 then .stray first :: pieces rest
    else
      .char (codePoint ((first :: rest).take width)) ((first :: rest).take width) ::
        pieces ((first :: rest).drop width)
termination_by bytes.length
decreasing_by
  all_goals simp only [List.length_drop, List.length_cons]
  all_goals omega

/-- Whether a buffer is well-formed UTF-8 throughout. -/
def isValid (bytes : Bytes) : Bool :=
  (pieces bytes).all fun piece => match piece with
    | .char _ _ => true
    | .stray _ => false

def toChar (code : Nat) : Char :=
  Char.ofNat code

def encode (code : Nat) : Bytes :=
  (String.singleton (toChar code)).toUTF8.toList

/-- A buffer as text, with every stray byte replaced by U+FFFD. -/
def lossy (bytes : Bytes) : String :=
  (pieces bytes).foldl (fun text piece => match piece with
    | .char code _ => text.push (toChar code)
    | .stray _ => text.push (Char.ofNat 0xFFFD)) ""

theorem flatten_pieces (bytes : Bytes) :
    ((pieces bytes).map Piece.bytes).flatten = bytes := by
  induction bytes using pieces.induct with
  | case1 => simp [pieces]
  | case2 first rest width hwidth ih =>
    rw [pieces, if_pos hwidth]
    simp [Piece.bytes, ih]
  | case3 first rest width hwidth ih =>
    rw [pieces, if_neg hwidth]
    simp only [List.map_cons, List.flatten_cons, Piece.bytes]
    rw [ih, List.take_append_drop]

end Utf8

end HlsManifest
