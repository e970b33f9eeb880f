import HlsManifest.Playlist.Basic
import HlsManifest.Error

/-!
# Writing a playlist

A playlist is written back as manifest text with the tags that reading recognizes, one per line:

* the header `#EXTM3U`;
* `#EXT-X-TARGETDURATION:` with the target duration rounded up to whole seconds, when it is not
  zero;
* `#EXT-X-MEDIA-SEQUENCE:` with the sequence number, when it is not zero;
* for each kept segment, `#EXTINF:` with its duration in seconds and a comma, then its URI;
* for each kept variant, `#EXT-X-STREAM-INF:BANDWIDTH=` with its bandwidth, then its URI;
* `#EXT-X-ENDLIST` when the playlist is closed.

URIs are spans into the buffer the playlist was read from; a span outside that buffer writes an
empty line. No version line is written. `Playlist.text` is that text; `Playlist.encode` first
looks up every URI span in writing order and faults at the first whose end wraps around.

A manifest that declares its protocol version starts with `#EXTM3U` and an `#EXT-X-VERSION` line.
`VersionHeader.write` puts these two lines at the start of a fixed output buffer and touches no
byte after them; it refuses an empty buffer, and a buffer too small for the whole header is left
as it was.
-/

set_option autoImplicit false

namespace HlsManifest

namespace Playlist

def line (text : Bytes) : Bytes :=
  text ++ [Bytes.newline]

def segmentLines (data : Bytes) (segment : Segment) : Bytes :=
  line (Bytes.ofString "#EXTINF:" ++ Micros.render segment.duration ++ Bytes.ofString ",") ++
    line (segment.uri.text data)

def variantLines (data : Bytes) (variant : Variant) : Bytes :=
  line (Bytes.ofString "#EXT-X-STREAM-INF:BANDWIDTH=" ++ Bytes.ofInt variant.bandwidth) ++
    line (variant.uri.text data)

/-- The manifest text of a playlist read from `data`. -/
def text (playlist : Playlist) (data : Bytes) : Bytes :=
  line (Bytes.ofString "#EXTM3U") ++
  (if playlist.targetDuration = 0 then []
    else line (Bytes.ofString "#EXT-X-TARGETDURATION:" ++
      Bytes.ofInt (Micros.wholeSecondsUp playlist.targetDuration))) ++
  (if playlist.sequenceNumber = 0 then []
    else line (Bytes.ofString "#EXT-X-MEDIA-SEQUENCE:" ++ Bytes.ofInt playlist.sequenceNumber)) ++
  (playlist.segments.items.map (segmentLines data)).flatten ++
  (playlist.variants.items.map (variantLines data)).flatten ++
  (if playlist.closed then line (Bytes.ofString "#EXT-X-ENDLIST") else [])

/-- The URI spans of a playlist in writing order: the kept segments', then the kept variants'. -/
def uriSpans (playlist : Playlist) : List Span :=
  playlist.segments.items.map Segment.uri ++ playlist.variants.items.map Variant.uri

/-- The first fault among the lookups of the URI spans, in writing order. -/
def spanFault? (playlist : Playlist) (data : Bytes) : Option Span.Fault :=
  playlist.uriSpans.findSome? fun span =>
    match span.read (some data) with
    | .error fault => some fault
    | .ok _ => none

/-- Writes a playlist read from `data`: its text, or the fault of the first URI span whose end
wraps around. -/
def encode (playlist : Playlist) (data : Bytes) : Except Span.Fault Bytes :=
  match playlist.spanFault? data with
  | some fault => .error fault
  | none => .ok (playlist.text data)

end Playlist

namespace VersionHeader

/-- The header lines for a version: `#EXTM3U`, then `#EXT-X-VERSION:` and the signed decimal
version, each line ending in a newline. -/
def text (version : Int) : Bytes :=
  Bytes.ofString "#EXTM3U\n#EXT-X-VERSION:" ++ Bytes.ofInt version ++ [Bytes.newline]

/-- Writes the header for `version` over the start of `buffer`: the number of bytes written and
the buffer after the write. -/
def write (buffer : Bytes) (version : Int) : Except ManifestError (Nat × Bytes) :=
  if buffer.isEmpty then .error .invalidArgument
  else
    let header := text version
    if buffer.length < header.length then .error .shortBuffer
    else .ok (header.length, header ++ buffer.drop header.length)

end VersionHeader

end HlsManifest
