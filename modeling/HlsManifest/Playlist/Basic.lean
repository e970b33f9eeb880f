import HlsManifest.Numeric.Micros
import HlsManifest.Manifest.Span
import HlsManifest.Manifest.Store

/-!
# Playlists

A playlist is what a manifest declares: the target duration, the media sequence number of its
first segment, whether it is closed, its media segments (a duration and a URI) and its variants
(a bandwidth and a URI). A manifest may hold both segments and variants.

Segments and variants go into bounded stores whose capacities the caller chooses; the stores keep
counting what they cannot keep, so a playlist knows how many items its manifest had even when it
kept fewer. URIs are spans into the buffer the playlist was read from.
-/

set_option autoImplicit false

namespace HlsManifest

/-- A media segment: the duration of its `#EXTINF` line, in microseconds, and the span of the URI
line after it. -/
structure Segment where
  duration : Micros
  uri : Span
  deriving DecidableEq, Repr

/-- A variant stream: the bandwidth of its `#EXT-X-STREAM-INF` line and the span of the URI line
after it. -/
structure Variant where
  bandwidth : Int
  uri : Span
  deriving DecidableEq, Repr

/-- The structured content of a manifest: the target duration in microseconds, the sequence
number, whether `#EXT-X-ENDLIST` was seen, and the segments and variants. -/
structure Playlist where
  targetDuration : Micros
  sequenceNumber : Int
  closed : Bool
  segments : Store Segment
  variants : Store Variant
  deriving DecidableEq, Repr

namespace Playlist

/-- An empty playlist that keeps up to the given numbers of segments and variants. -/
def empty (segmentCapacity variantCapacity : Nat) : Playlist :=
  ⟨0, 0, false, Store.empty segmentCapacity, Store.empty variantCapacity⟩

/-- Whether the manifest held more segments or variants than the playlist kept. -/
def truncated (playlist : Playlist) : Bool :=
  playlist.segments.truncated || playlist.variants.truncated

end Playlist

end HlsManifest
