import HlsManifest.Playlist.Basic
import HlsManifest.Manifest.Record
import HlsManifest.Manifest.Directive

/-!
# Reading a playlist

A manifest is read record by record after its header. Tag lines set the playlist's fields or a
pending value, and each URI line consumes a pending value:

* `#EXT-X-TARGETDURATION` sets the target duration, in microseconds, to the seconds it reads
  times a million, pinned to the 64-bit range; a value that does not read leaves the previous one;
* `#EXT-X-MEDIA-SEQUENCE` sets the sequence number, with the same rule;
* `#EXT-X-ENDLIST` closes the playlist;
* `#EXTINF` makes the duration before its comma pending, or clears the pending duration when that
  text does not read;
* `#EXT-X-STREAM-INF` makes its bandwidth pending, or clears it when there is none;
* a URI line becomes a segment when a duration is pending, otherwise a variant when a bandwidth
  is pending, otherwise nothing; only the pending value it used is cleared;
* an unsupported tag is an error in strict reading and is skipped otherwise; comments are skipped.

An empty buffer is an invalid argument, and a first record other than `#EXTM3U` a malformed
header; both are found before any later record is looked at.
-/

set_option autoImplicit false

namespace HlsManifest

/-- A playlist being read, with the values that wait for the next URI line: the duration of an
`#EXTINF` line and the bandwidth of an `#EXT-X-STREAM-INF` line that no URI has used yet. -/
structure Decoder where
  playlist : Playlist
  pendingDuration : Option Micros
  pendingBandwidth : Option Int
  deriving DecidableEq, Repr

namespace Decoder

/-- A decoder that starts from an empty playlist with the given capacities. -/
def start (segmentCapacity variantCapacity : Nat) : Decoder :=
  ⟨Playlist.empty segmentCapacity variantCapacity, none, none⟩

/-- The span of a record's bytes. -/
def recordSpan (record : Record) : Span :=
  ⟨record.offset, record.bytes.length⟩

/-- A URI line: it becomes a segment or a variant when a value is pending. -/
def takeUri (state : Decoder) (uri : Span) : Decoder :=
  match state.pendingDuration with
  | some duration =>
    { state with
      playlist := { state.playlist with segments := state.playlist.segments.write ⟨duration, uri⟩ }
      pendingDuration := none }
  | none =>
    match state.pendingBandwidth with
    | some bandwidth =>
      { state with
        playlist := { state.playlist with variants := state.playlist.variants.write ⟨bandwidth, uri⟩ }
        pendingBandwidth := none }
    | none => state

/-- Reads one non-empty record after the header. -/
def step (strict : Bool) (state : Decoder) (record : Record) : Except ManifestError Decoder :=
  let (kind, valueStart) := Directive.recognize record.bytes
  let value := record.bytes.drop valueStart
  match kind with
  | .targetDuration =>
    match Integer.read value with
    | some reading =>
      .ok { state with
        playlist := { state.playlist with
          targetDuration := Int64Range.scale Micros.perSecond reading.value } }
    | none => .ok state
  | .mediaSequence =>
    match Integer.read value with
    | some reading => .ok { state with playlist := { state.playlist with sequenceNumber := reading.value } }
    | none => .ok state
  | .endList => .ok { state with playlist := { state.playlist with closed := true } }
  | .extInf =>
    .ok { state with pendingDuration := (Micros.read (extInfFields value).1).map Reading.value }
  | .streamInf => .ok { state with pendingBandwidth := Bandwidth.read value }
  | .unsupported =>
    if strict then .error (.unsupportedDirective record.line record.bytes) else .ok state
  | .comment => .ok state
  | .uri => .ok (state.takeUri (recordSpan record))

/-- Reads records in order until one fails: the decoder as the last record read left it, and the
error of the record that failed, if one did. -/
def run (strict : Bool) : Decoder → List Record → Decoder × Option ManifestError
  | state, [] => (state, none)
  | state, record :: rest =>
    match step strict state record with
    | .ok next => run strict next rest
    | .error error => (state, some error)

end Decoder

namespace Playlist

/-- Reads a manifest into a fresh playlist with the capacities of `previous`. On failure the
caller keeps `previous` as it was. -/
def decodeInto (previous : Playlist) (data : Bytes) (strict : Bool) : Except ManifestError Playlist :=
  match openingError? data with
  | some error => .error error
  | none => do
    let final ← (Record.body data).foldlM (Decoder.step strict)
      (Decoder.start previous.segments.capacity previous.variants.capacity)
    pure final.playlist

/-- Reads a manifest into a playlist that keeps up to the given numbers of segments and
variants. A negative capacity is an invalid argument. -/
def decode (data : Bytes) (segmentCapacity variantCapacity : Int) (strict : Bool) :
    Except ManifestError Playlist :=
  if segmentCapacity < 0 ∨ variantCapacity < 0 then .error .invalidArgument
  else (empty segmentCapacity.toNat variantCapacity.toNat).decodeInto data strict

/-- Reads a manifest into the playlist itself, storing its items into the arrays behind the
playlist's segments and variants. On success the playlist becomes the one read, with the
capacities it had. On failure its fields stay as they were and the error comes back, but the
items stored before the failure are already in those arrays, so the items it shows may have
changed. -/
def redecode (playlist : Playlist) (data : Bytes) (strict : Bool) :
    Playlist × Option ManifestError :=
  match openingError? data with
  | some error => (playlist, some error)
  | none =>
    match Decoder.run strict
        (Decoder.start playlist.segments.capacity playlist.variants.capacity)
        (Record.body data) with
    | (final, none) => (final.playlist, none)
    | (reached, some error) =>
      ({ playlist with
          segments := { playlist.segments with
            items := Store.overwrite playlist.segments.items reached.playlist.segments.items }
          variants := { playlist.variants with
            items := Store.overwrite playlist.variants.items reached.playlist.variants.items } },
        some error)

/-- Reads manifests one after the other into one playlist, each with its own mode. -/
def redecodeAll (playlist : Playlist) (calls : List (Bytes × Bool)) : Playlist :=
  calls.foldl (fun current call => (current.redecode call.1 call.2).1) playlist

end Playlist

end HlsManifest
