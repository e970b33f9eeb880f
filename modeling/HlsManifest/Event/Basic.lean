import HlsManifest.Numeric.Micros
import HlsManifest.Manifest.Span
import HlsManifest.Manifest.Record
import HlsManifest.Manifest.Directive

/-!
# Line events

The flat reading of a manifest: one event per non-empty record after the header, saying what the
line is and where its parts lie, with the number it carries. What the spans and the value hold
depends on the kind:

* target duration: `first` is the value text, `value` the seconds in microseconds;
* media sequence: `first` is the value text, `value` the sequence number;
* `#EXTINF`: `first` is the duration text, `second` the title after the first comma (no span
  without a comma), `value` the duration in microseconds;
* stream information: `first` is the attribute list, `value` the bandwidth;
* end of list: no span and no value;
* URI, and any other line: `first` is the whole line.

A number that does not read is zero. "No span" is the empty span at offset zero.
-/

set_option autoImplicit false

namespace HlsManifest

inductive EventKind where
  | uri
  | extInf
  | streamInf
  | targetDuration
  | mediaSequence
  | endList
  | unknown
  deriving DecidableEq, Repr

namespace EventKind

def code : EventKind → Nat
  | .uri => 0
  | .extInf => 1
  | .streamInf => 2
  | .targetDuration => 3
  | .mediaSequence => 4
  | .endList => 5
  | .unknown => 255

def name : EventKind → String
  | .uri => "URI"
  | .extInf => "EXTINF"
  | .streamInf => "EXT-X-STREAM-INF"
  | .targetDuration => "EXT-X-TARGETDURATION"
  | .mediaSequence => "EXT-X-MEDIA-SEQUENCE"
  | .endList => "EXT-X-ENDLIST"
  | .unknown => "Unknown"

end EventKind

/-- One non-empty line of a manifest: its kind, its 1-based line number (blank lines counted), its
primary and secondary spans and the number it carries. No kind of line carries a second number,
so `secondValue` is zero. -/
structure Event where
  kind : EventKind
  line : Nat
  first : Span
  second : Span
  value : Int
  secondValue : Int := 0
  deriving DecidableEq, Repr

namespace Event

def ofRecord (record : Record) : Event :=
  let (kind, valueStart) := Directive.recognize record.bytes
  let value := record.bytes.drop valueStart
  let valueSpan : Span := ⟨record.offset + valueStart, value.length⟩
  let lineSpan : Span := ⟨record.offset, record.bytes.length⟩
  match kind with
  | .targetDuration =>
    ⟨.targetDuration, record.line, valueSpan, Span.zero,
      Int64Range.scale Micros.perSecond (Integer.readOrZero value), 0⟩
  | .mediaSequence =>
    ⟨.mediaSequence, record.line, valueSpan, Span.zero, Integer.readOrZero value, 0⟩
  | .endList => ⟨.endList, record.line, Span.zero, Span.zero, 0, 0⟩
  | .extInf =>
    let (duration, title) := extInfFields value
    let titleSpan : Span := match title with
      | some text => ⟨record.offset + valueStart + duration.length + 1, text.length⟩
      | none => Span.zero
    ⟨.extInf, record.line, ⟨record.offset + valueStart, duration.length⟩, titleSpan,
      Micros.readOrZero duration, 0⟩
  | .streamInf =>
    ⟨.streamInf, record.line, valueSpan, Span.zero, (Bandwidth.read value).getD 0, 0⟩
  | .uri => ⟨.uri, record.line, lineSpan, Span.zero, 0, 0⟩
  | .unsupported => ⟨.unknown, record.line, lineSpan, Span.zero, 0, 0⟩
  | .comment => ⟨.unknown, record.line, lineSpan, Span.zero, 0, 0⟩

end Event

end HlsManifest
