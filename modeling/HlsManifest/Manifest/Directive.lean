import HlsManifest.Manifest.Record
import HlsManifest.Error

/-!
# Directives

What one non-empty line of a manifest says. A line that does not start with `#` is a URI. A line
that does is matched against five tag prefixes, in this order, the first that matches winning
(case matters): `#EXT-X-TARGETDURATION:`, `#EXT-X-MEDIA-SEQUENCE:`, `#EXT-X-ENDLIST`, `#EXTINF:`,
`#EXT-X-STREAM-INF:`. Any other line starting with `#EXT` is a tag this library does not support
(a second `#EXTM3U` among them), and any other `#` line is a comment.

A tag's value is the text after its prefix; a URI, comment or unsupported line is its own
value. An `#EXTINF` value holds the duration before its first comma and the title after it.

Both readings of a manifest, into a playlist and into line events, first check its opening
(`openingError?`): the buffer is not empty, and its first record is exactly `#EXTM3U`. The first
failing check gives the error, before any later record is looked at.
-/

set_option autoImplicit false

namespace HlsManifest

/-- The kind of a non-empty manifest line. -/
inductive Directive where
  | targetDuration
  | mediaSequence
  | endList
  | extInf
  | streamInf
  | unsupported
  | comment
  | uri
  deriving DecidableEq, Repr

namespace Directive

/-- The header that must open a manifest, and is a tag like any other later on. -/
def header : Bytes := Bytes.ofString "#EXTM3U"

def tagMark : Bytes := Bytes.ofString "#EXT"

/-- The recognized tags with their prefixes, in the order they are tried. -/
def tags : List (Bytes × Directive) :=
  [(Bytes.ofString "#EXT-X-TARGETDURATION:", .targetDuration),
    (Bytes.ofString "#EXT-X-MEDIA-SEQUENCE:", .mediaSequence),
    (Bytes.ofString "#EXT-X-ENDLIST", .endList),
    (Bytes.ofString "#EXTINF:", .extInf),
    (Bytes.ofString "#EXT-X-STREAM-INF:", .streamInf)]

/-- What a line is, and where its value starts within it: after the matched tag prefix, or at
the start for URIs, comments and unsupported tags. -/
def recognize (line : Bytes) : Directive × Nat :=
  match line with
  | 35 :: _ =>
    match tags.find? (fun tag => tag.1.isPrefixOf line) with
    | some (tagPrefix, kind) => (kind, tagPrefix.length)
    | none => if tagMark.isPrefixOf line then (.unsupported, 0) else (.comment, 0)
  | _ => (.uri, 0)

def classify (line : Bytes) : Directive :=
  (recognize line).1

/-- The value of a line: the bytes after the matched prefix, or the whole line. -/
def value (line : Bytes) : Bytes :=
  line.drop (recognize line).2

end Directive

/-- The two fields of an `#EXTINF` value: the duration text before the first comma and, when
there is a comma, the title after it. -/
def extInfFields (value : Bytes) : Bytes × Option Bytes :=
  match Bytes.splitAtFirst 44 value with
  | some (duration, title) => (duration, some title)
  | none => (value, none)

/-- The error that keeps a buffer from being read at all: an empty buffer is an invalid argument,
and a first record other than `#EXTM3U` a malformed header. -/
def openingError? (data : Bytes) : Option ManifestError :=
  if data.isEmpty then some .invalidArgument
  else if Record.header data ≠ Directive.header then some .malformedHeader
  else none

end HlsManifest
