import HlsManifest.Text.Utf8
import HlsManifest.Text.Printable

/-!
# Quoted text

Error messages and text reports show a run of bytes between double quotes. A printable character
stands for itself, and everything else is escaped so that the quoted form is plain, visible ASCII
punctuation plus printable characters:

* a double quote and a backslash get a backslash in front;
* the seven controls with a letter escape are written `\a \b \f \n \r \t \v`;
* any other control below U+0020, and U+007F, is `\x` with two lowercase hex digits;
* any other character that is not printable is `\u` with four hex digits, or `\U` with eight
  above U+FFFF;
* a byte that does not start well-formed UTF-8 is `\x` with its two hex digits.
-/

set_option autoImplicit false

namespace HlsManifest

namespace Quoted

/-- The lowercase hex digit of a value below 16. -/
def hexDigit (value : Nat) : Char :=
  if value < 10 then Char.ofNat (48 + value) else Char.ofNat (87 + value)

/-- The last `count` hex digits of a value, most significant first, in lowercase. -/
def hexDigits (count value : Nat) : String :=
  String.ofList ((List.range count).reverse.map fun place => hexDigit (value / Nat.pow 16 place % 16))

/-- The escape of one character that is not written as itself. -/
def escapeCode (code : Nat) : String :=
  if code == 7 then "\\a"
  else if code == 8 then "\\b"
  else if code == 12 then "\\f"
  else if code == 10 then "\\n"
  else if code == 13 then "\\r"
  else if code == 9 then "\\t"
  else if code == 11 then "\\v"
  else if code < 32 || code == 127 then "\\x" ++ hexDigits 2 code
  else if code < 0x10000 then "\\u" ++ hexDigits 4 code
  else "\\U" ++ hexDigits 8 code

/-- The quoted form of one piece, without the surrounding quotes. -/
def piece : Utf8.Piece → String
  | .stray byte => "\\x" ++ hexDigits 2 byte.toNat
  | .char code _ =>
    if code == 34 then "\\\""
    else if code == 92 then "\\\\"
    else if Printable.isPrintable code then String.singleton (Utf8.toChar code)
    else escapeCode code

/-- A run of bytes between double quotes, escaped as the module describes. -/
def render (bytes : Bytes) : String :=
  "\"" ++ (Utf8.pieces bytes).foldl (fun text part => text ++ piece part) "" ++ "\""

/-- A string between double quotes, escaped as the module describes. -/
def ofString (text : String) : String :=
  render (Bytes.ofString text)

end Quoted

end HlsManifest
