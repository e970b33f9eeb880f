import HlsManifest.Uri.Escape

/-!
# Reading a URI reference

The generic syntax of RFC 3986, read from left to right:

* the fragment is cut off at the first `#`; an empty fragment counts as none;
* a control byte anywhere is refused;
* a scheme is a letter followed by letters, digits, `+ - .`, ending at a colon; a colon first
  of all is a missing scheme;
* the query is cut off at the first `?`; a lone final `?` asks for an empty query to be kept;
* after a scheme, a remainder that does not start with `/` is kept whole (`opaquePart`); without
  a scheme, a colon in the first path segment is refused, since it would read as a scheme;
* `//` starts the authority, up to the next `/`: user information before its last `@`, then a
  host with an optional port, an IPv6 address in brackets;
* the rest is the path, held decoded with its written form kept when that differs.

A failure in the fragment reports the whole text; any other failure the text before `#`.
-/

set_option autoImplicit false

namespace HlsManifest

namespace Uri

/-- The scheme at the start of a text and the rest after its colon; no scheme when the text
does not start with one. A colon as the first byte has no scheme before it. -/
def splitScheme (text : Bytes) : Except Failure (Bytes × Bytes) :=
  let rec scan (taken : Bytes) : Bytes → Except Failure (Bytes × Bytes)
    | [] => .ok ([], text)
    | byte :: rest =>
      if (65 ≤ byte && byte ≤ 90) || (97 ≤ byte && byte ≤ 122) then scan (taken ++ [byte]) rest
      else if Bytes.isDigit byte || byte == 43 || byte == 45 || byte == 46 then
        if taken.isEmpty then .ok ([], text) else scan (taken ++ [byte]) rest
      else if byte == 58 then
        if taken.isEmpty then .error .missingScheme else .ok (taken, rest)
      else .ok ([], text)
  scan [] text

def lowerByte (byte : UInt8) : UInt8 :=
  if 65 ≤ byte && byte ≤ 90 then byte + 32 else byte

/-- Whether a port text is empty or a colon followed by digits. -/
def validPort : Bytes → Bool
  | [] => true
  | byte :: digits => byte == 58 && digits.all Bytes.isDigit

def lastIndex? (byte : UInt8) (text : Bytes) : Option Nat :=
  match text.reverse.idxOf? byte with
  | some fromEnd => some (text.length - 1 - fromEnd)
  | none => none

/-- Reads a host with its optional port. A `[` may only open the host, and then brackets must
hold an IPv6 address, which may carry a zone after `%25`; the address is checked with its zone
decoded. -/
def parseHost (host : Bytes) : Except Failure Bytes :=
  if (host.drop 1).contains 91 then .error .ipLiteral
  else
    match host with
    | 91 :: _ =>
      match lastIndex? 93 host with
      | none => .error .unclosedBracket
      | some close =>
        let port := host.drop (close + 1)
        if !validPort port then .error (.badPort port)
        else do
          let portText ← unescape .host port
          let inner := (host.take close).drop 1
          let (address, zone) ← match Bytes.find? [37, 50, 53] inner with
            | some start => do
              let address ← unescape .host (inner.take start)
              let zone ← unescape .zone (inner.drop start)
              pure (address, zone)
            | none => do
              let address ← unescape .host inner
              pure (address, [])
          match IpAddress.read (address ++ zone) with
          | .error error => throw (.badAddress error)
          | .ok literal =>
            if literal.isV4 then throw .ipLiteral
            else pure ([91] ++ address ++ zone ++ [93] ++ portText)
    | _ =>
      match lastIndex? 58 host with
      | some colon =>
        let port := host.drop colon
        if !validPort port then .error (.badPort port) else unescape .host host
      | none => unescape .host host

/-- Whether user information holds only letters, digits and `- . _ : ~ ! $ & ' ( ) * + , ; = % @`. -/
def validUserInfo (text : Bytes) : Bool :=
  text.all fun byte => isAlphanumeric byte || isOneOf "-._:~!$&'()*+,;=%@" byte

/-- Reads an authority: user information before its last `@`, then the host. -/
def parseAuthority (authority : Bytes) : Except Failure (Option UserInfo × Bytes) :=
  match lastIndex? 64 authority with
  | none => do
    let host ← parseHost authority
    pure (none, host)
  | some separator => do
    let host ← parseHost (authority.drop (separator + 1))
    let info := authority.take separator
    if !validUserInfo info then throw .badUserInfo
    match Bytes.splitAtFirst 58 info with
    | none => pure (some ⟨← unescape .userInfo info, none⟩, host)
    | some (name, password) =>
      pure (some ⟨← unescape .userInfo name, some (← unescape .userInfo password)⟩, host)

/-- Sets the path of a reference from its written form. -/
def Reference.withPath (reference : Reference) (written : Bytes) : Except Failure Reference := do
  let path ← unescape .path written
  pure { reference with path, rawPath := if escape .path path == written then [] else written }

/-- Sets the fragment of a reference from its written form. -/
def Reference.withFragment (reference : Reference) (written : Bytes) : Except Failure Reference := do
  let fragment ← unescape .fragment written
  pure { reference with
    fragment, rawFragment := if escape .fragment fragment == written then [] else written }

def hasControl (text : Bytes) : Bool :=
  text.any fun byte => byte < 32 || byte == 127

/-- Reads a reference without fragment. -/
def parseBody (text : Bytes) : Except Failure Reference := do
  if hasControl text then throw .controlCharacter
  if text == [42] then return { path := [42] }
  let (schemeText, afterScheme) ← splitScheme text
  let scheme := schemeText.map lowerByte
  let questions := afterScheme.count 63
  let (rest, forceQuery, query) :=
    if afterScheme.getLast? == some 63 && questions == 1 then (afterScheme.dropLast, true, [])
    else match Bytes.splitAtFirst 63 afterScheme with
      | some (before, after) => (before, false, after)
      | none => (afterScheme, false, [])
  let base : Reference := { scheme, forceQuery, query }
  let slashFirst := rest.head? == some 47
  if !slashFirst then
    if !scheme.isEmpty then return { base with opaquePart := rest }
    let firstSegment := rest.takeWhile (· != 47)
    if firstSegment.contains 58 then throw .colonInFirstSegment
  if (!scheme.isEmpty || !([47, 47, 47].isPrefixOf rest)) && [47, 47].isPrefixOf rest then
    let afterSlashes := rest.drop 2
    let authority := afterSlashes.takeWhile (· != 47)
    let pathText := afterSlashes.dropWhile (· != 47)
    let (user, host) ← parseAuthority authority
    Reference.withPath { base with user, host } pathText
  else
    Reference.withPath { base with omitHost := !scheme.isEmpty && slashFirst } rest

def parse (text : Bytes) : Except ParseError Reference :=
  let (body, fragmentText) := match Bytes.splitAtFirst 35 text with
    | some (before, after) => (before, after)
    | none => (text, [])
  match parseBody body with
  | .error failure => .error ⟨body, failure⟩
  | .ok reference =>
    if fragmentText.isEmpty then .ok reference
    else
      match reference.withFragment fragmentText with
      | .error failure => .error ⟨text, failure⟩
      | .ok withFragment => .ok withFragment

end Uri

end HlsManifest
