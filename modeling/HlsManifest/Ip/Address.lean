import HlsManifest.Text.Quoted

/-!
# IP addresses

An IP address written as text: four dotted decimal fields for IPv4, each at most 255 and without
a leading zero; for IPv6, up to eight colon-separated groups of one to four hex digits, where one
`::` stands for a run of at least one zero group, the last two groups may be written as an IPv4
address, and a zone may follow a `%`.

The first of `.`, `:` and `%` in the text decides how it reads: a dot reads IPv4, a colon IPv6,
and a percent sign before either is a zone without an address. Reading fails for the reasons of
`IpAddress.Failure`; a failure found at a particular place also names the text from there on.
-/

set_option autoImplicit false

namespace HlsManifest

inductive IpAddress where
  | v4 (octets : List UInt8)
  | v6 (bytes : List UInt8) (zone : Bytes)
  deriving DecidableEq, Repr

namespace IpAddress

def isV4 : IpAddress → Bool
  | .v4 _ => true
  | .v6 _ _ => false

inductive Failure where
  | leadingZero
  | fieldTooLarge
  | emptyField
  | dottedTooLong
  | unexpectedCharacter
  | dottedTooShort
  | emptyZone
  | groupTooLong
  | emptyGroup
  | misplacedDotted
  | noRoomForDotted
  | colonExpected
  | danglingColon
  | secondEllipsis
  | trailingText
  | groupsTooFew
  | emptyEllipsis
  | missingAddress
  | unrecognized
  deriving DecidableEq, Repr

def Failure.message : Failure → String
  | .leadingZero => "IPv4 field has octet with leading zero"
  | .fieldTooLarge => "IPv4 field has value >255"
  | .emptyField => "IPv4 field must have at least one digit"
  | .dottedTooLong => "IPv4 address too long"
  | .unexpectedCharacter => "unexpected character"
  | .dottedTooShort => "IPv4 address too short"
  | .emptyZone => "zone must be a non-empty string"
  | .groupTooLong => "each group must have 4 or less digits"
  | .emptyGroup => "each colon-separated field must have at least one digit"
  | .misplacedDotted => "embedded IPv4 address must replace the final 2 fields of the address"
  | .noRoomForDotted => "too many hex fields to fit an embedded IPv4 at the end of the address"
  | .colonExpected => "unexpected character, want colon"
  | .danglingColon => "colon must be followed by more characters"
  | .secondEllipsis => "multiple :: in address"
  | .trailingText => "trailing garbage after address"
  | .groupsTooFew => "address string too short"
  | .emptyEllipsis => "the :: must expand to at least one field of zeros"
  | .missingAddress => "missing IPv6 address"
  | .unrecognized => "unable to parse IP"

/-- A text that failed to read as an IP address: the whole text, why, and the text from the
place of the failure on (empty when the failure has no place). -/
structure ParseError where
  input : Bytes
  failure : Failure
  rest : Bytes := []
  deriving DecidableEq, Repr

/-- The wording of a failed read: the text, quoted, the reason, and the place when there is one. -/
def ParseError.message (error : ParseError) : String :=
  let head := "ParseAddr(" ++ Quoted.render error.input ++ "): " ++ error.failure.message
  if error.rest.isEmpty then head else head ++ " (at " ++ Quoted.render error.rest ++ ")"

/-- Reads dotted decimal fields from a text, for errors about `input`: `previous` is the byte
before, `value` and `digits` describe the field being read, and `fields` holds those done. -/
def dottedFrom (input : Bytes) (previous : Option UInt8) (value digits : Nat)
    (fields : List UInt8) : Bytes → Except ParseError (List UInt8)
  | [] =>
    if fields.length < 3 then .error ⟨input, .dottedTooShort, []⟩
    else .ok (fields ++ [UInt8.ofNat value])
  | byte :: rest =>
    if Bytes.isDigit byte then
      if digits == 1 && value == 0 then .error ⟨input, .leadingZero, []⟩
      else
        let next := value * 10 + Bytes.digitValue byte
        if 255 < next then .error ⟨input, .fieldTooLarge, []⟩
        else dottedFrom input (some byte) next (digits + 1) fields rest
    else if byte == 46 then
      if previous.isNone || previous == some 46 || rest.isEmpty then
        .error ⟨input, .emptyField, byte :: rest⟩
      else if fields.length == 3 then .error ⟨input, .dottedTooLong, []⟩
      else dottedFrom input (some byte) 0 0 (fields ++ [UInt8.ofNat value]) rest
    else .error ⟨input, .unexpectedCharacter, byte :: rest⟩

/-- Reads the four dotted fields that make up `text`, for errors about `input`. -/
def dotted (input text : Bytes) : Except ParseError (List UInt8) :=
  dottedFrom input none 0 0 [] text

def isHexDigit (byte : UInt8) : Bool :=
  Bytes.isDigit byte || (97 ≤ byte && byte ≤ 102) || (65 ≤ byte && byte ≤ 70)

def hexValue (byte : UInt8) : Nat :=
  if Bytes.isDigit byte then byte.toNat - 48
  else if 97 ≤ byte then byte.toNat - 87
  else byte.toNat - 55

def groupValue (digits : Bytes) : Nat :=
  digits.foldl (fun value digit => value * 16 + hexValue digit) 0

/-- Where reading IPv6 groups stands: the text left, the position among the bytes read where
`::` stood, and the bytes read. -/
structure Groups where
  rest : Bytes
  ellipsis : Option Nat
  bytes : List UInt8
  deriving DecidableEq, Repr

/-- Reads at most `room` more IPv6 groups, each followed by a colon or the end; dotted fields
end the reading as the last two groups. -/
def groups (input : Bytes) : Nat → Groups → Except ParseError Groups
  | 0, state => .ok state
  | room + 1, state =>
    let text := state.rest
    let digits := text.takeWhile isHexDigit
    let after := text.drop digits.length
    if 4 < digits.length then .error ⟨input, .groupTooLong, text⟩
    else if digits.isEmpty then .error ⟨input, .emptyGroup, text⟩
    else if after.head? == some 46 then
      if state.ellipsis.isNone && state.bytes.length != 12 then
        .error ⟨input, .misplacedDotted, text⟩
      else if 16 < state.bytes.length + 4 then .error ⟨input, .noRoomForDotted, text⟩
      else do
        let octets ← dotted input text
        pure ⟨[], state.ellipsis, state.bytes ++ octets⟩
    else
      let value := groupValue digits
      let bytes := state.bytes ++ [UInt8.ofNat (value / 256), UInt8.ofNat (value % 256)]
      match after with
      | [] => .ok ⟨[], state.ellipsis, bytes⟩
      | separator :: more =>
        if separator != 58 then .error ⟨input, .colonExpected, after⟩
        else
          match more with
          | [] => .error ⟨input, .danglingColon, after⟩
          | 58 :: tail =>
            if state.ellipsis.isSome then .error ⟨input, .secondEllipsis, more⟩
            else if tail.isEmpty then .ok ⟨[], some bytes.length, bytes⟩
            else groups input room ⟨tail, some bytes.length, bytes⟩
          | _ => groups input room ⟨more, state.ellipsis, bytes⟩

/-- The IPv6 address of the groups read, once all the text is read: a `::` fills the bytes up to
sixteen with zeros, and must fill at least one group. -/
def complete (input zone : Bytes) (state : Groups) : Except ParseError IpAddress :=
  if !state.rest.isEmpty then .error ⟨input, .trailingText, state.rest⟩
  else if state.bytes.length < 16 then
    match state.ellipsis with
    | none => .error ⟨input, .groupsTooFew, []⟩
    | some position =>
      .ok (.v6 (state.bytes.take position ++ List.replicate (16 - state.bytes.length) 0 ++
        state.bytes.drop position) zone)
  else if state.ellipsis.isSome then .error ⟨input, .emptyEllipsis, []⟩
  else .ok (.v6 state.bytes zone)

/-- Reads an IPv6 address with its optional zone. -/
def readV6 (input : Bytes) : Except ParseError IpAddress := do
  let (text, zone) ← match Bytes.splitAtFirst 37 input with
    | some (_, []) => throw ⟨input, .emptyZone, []⟩
    | some (before, after) => pure (before, after)
    | none => pure (input, [])
  match text with
  | [58, 58] => pure (.v6 (List.replicate 16 0) zone)
  | 58 :: 58 :: rest => complete input zone (← groups input 8 ⟨rest, some 0, []⟩)
  | _ => complete input zone (← groups input 8 ⟨text, none, []⟩)

def read (text : Bytes) : Except ParseError IpAddress :=
  match List.find? (fun byte => byte == 46 || byte == 58 || byte == 37) text with
  | some 46 => .v4 <$> dotted text text
  | some 58 => readV6 text
  | some _ => .error ⟨text, .missingAddress, []⟩
  | none => .error ⟨text, .unrecognized, []⟩

end IpAddress

end HlsManifest
