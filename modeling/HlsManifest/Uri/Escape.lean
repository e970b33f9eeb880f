import HlsManifest.Uri.Basic

/-!
# Percent-encoding

Each component of a URI reference has its own set of bytes that may stand for themselves; every
other byte is written `%` and two uppercase hex digits. Letters, digits and `- _ . ~` stand for
themselves everywhere. Of the reserved bytes `$ & + , / : ; = ? @`, a path escapes only `?`, user
information escapes `@ / ? :`, and a fragment escapes none; a fragment also keeps `! ( ) *`. A host
keeps the sub-delimiters and `: [ ] < > "`.

Decoding checks every escape first: a `%` needs two hex digits after it, a host may escape only
bytes from 0x80 up (and `%25`), a zone only what a host could hold, and a host may not hold a
byte it would escape.
-/

set_option autoImplicit false

namespace HlsManifest

namespace Uri

/-- The component a text belongs to, which decides what it escapes. -/
inductive Component where
  | path
  | host
  | zone
  | userInfo
  | fragment
  deriving DecidableEq, Repr

/-- Whether a byte occurs in an ASCII text. -/
def isOneOf (text : String) (byte : UInt8) : Bool :=
  (Bytes.ofString text).contains byte

def isAlphanumeric (byte : UInt8) : Bool :=
  (65 ≤ byte && byte ≤ 90) || (97 ≤ byte && byte ≤ 122) || Bytes.isDigit byte

/-- Whether a component writes a byte escaped. -/
def Component.escapes (component : Component) (byte : UInt8) : Bool :=
  if isAlphanumeric byte then false
  else if (component == .host || component == .zone) && isOneOf "!$&'()*+,;=:[]<>\"" byte then false
  else if isOneOf "-_.~" byte then false
  else if isOneOf "$&+,/:;=?@" byte then
    match component with
    | .path => byte == 63
    | .userInfo => isOneOf "@/?:" byte
    | .fragment => false
    | .host | .zone => true
  else if component == .fragment && isOneOf "!()*" byte then false
  else true

/-- The uppercase hex digit of a value below 16. -/
def upperHex (value : Nat) : UInt8 :=
  if value < 10 then (48 + value).toUInt8 else (55 + value).toUInt8

/-- Writes a text for a component, escaping what it does not keep. -/
def escape (component : Component) (text : Bytes) : Bytes :=
  text.flatMap fun byte =>
    if component.escapes byte then [37, upperHex (byte.toNat / 16), upperHex (byte.toNat % 16)]
    else [byte]

def hexValue? (byte : UInt8) : Option Nat :=
  if Bytes.isDigit byte then some (byte.toNat - 48)
  else if 97 ≤ byte && byte ≤ 102 then some (byte.toNat - 87)
  else if 65 ≤ byte && byte ≤ 70 then some (byte.toNat - 55)
  else none

/-- Whether an escaped byte may be escaped in a component: a host only escapes bytes from 0x80
up, and `%25`; a zone escapes a space, `%25`, or what a host keeps. -/
def escapeAllowed (component : Component) (escapeText : Bytes) (value : Nat) : Bool :=
  let percent := escapeText == [37, 50, 53]
  match component with
  | .host => percent || 8 ≤ value / 16
  | .zone => percent || value == 32 || !(Component.host.escapes value.toUInt8)
  | _ => true

/-- Decodes the escapes of a text of a component, refusing a malformed or forbidden escape and,
in a host or zone, an ASCII byte that it would have to escape. -/
def unescape (component : Component) : Bytes → Except Failure Bytes
  | [] => .ok []
  | byte :: rest =>
    if byte == 37 then
      match rest with
      | high :: low :: tail =>
        match hexValue? high, hexValue? low with
        | some highValue, some lowValue =>
          let value := highValue * 16 + lowValue
          if escapeAllowed component [37, high, low] value then
            (value.toUInt8 :: ·) <$> unescape component tail
          else .error (.badEscape [37, high, low])
        | _, _ => .error (.badEscape ((byte :: rest).take 3))
      | _ => .error (.badEscape (byte :: rest))
    else if (component == .host || component == .zone) && byte < 128 && component.escapes byte then
      .error (.badHostCharacter [byte])
    else (byte :: ·) <$> unescape component rest

/-- Whether a text is already fit to be written in a component: each byte is one it keeps, a
sub-delimiter, `: @ [ ]`, or `%`. -/
def validEncoded (component : Component) (text : Bytes) : Bool :=
  text.all fun byte => isOneOf "!$&'()*+,;=:@[]%" byte || !(component.escapes byte)

end Uri

end HlsManifest
