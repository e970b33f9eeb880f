import HlsManifest.Cli.Flags
import HlsManifest.Playlist.Decode
import HlsManifest.Playlist.Encode
import HlsManifest.Playlist.Version
import HlsManifest.Event.Decode
import HlsManifest.Uri.Resolve

/-!
# Reports

One report per playlist file: the file's name, its status (zero, or the negative status of the
error that stopped it) with the error's text, and what was read. In playlist mode that is a summary
of the decoded playlist, with each stored URI resolved against the base when one is given (a URI
that does not resolve is shown as written), and the re-encoded playlist when asked for. In event
mode it is the events, all of them or at most `max-events`. A file that cannot be read has status
`-4` and the reading error's text.
-/

set_option autoImplicit false

namespace HlsManifest

namespace Cli

/-- A stored segment as reported, its URI resolved when a base is given. -/
structure SegmentLine where
  duration : Micros
  uri : Bytes
  deriving DecidableEq, Repr

/-- A stored variant as reported, its URI resolved when a base is given. -/
structure VariantLine where
  bandwidth : Int
  uri : Bytes
  deriving DecidableEq, Repr

structure PlaylistSummary where
  targetDuration : Micros
  mediaSequence : Int
  closed : Bool
  version : ProtocolVersion
  segmentCount : Nat
  variantCount : Nat
  truncated : Bool
  segments : List SegmentLine
  variants : List VariantLine
  deriving DecidableEq, Repr

/-- An event as reported: its spans as text. -/
structure EventLine where
  line : Nat
  kind : EventKind
  first : Bytes
  second : Bytes
  value : Int
  deriving DecidableEq, Repr

structure EventsSummary where
  total : Nat
  written : Nat
  truncated : Bool
  events : List EventLine
  deriving DecidableEq, Repr

/-- The outcome of one playlist file: its name as given, its status (zero or the error's), and,
as the settings ask, the playlist summary or the events, and the re-encoded playlist. -/
structure Report where
  file : String
  status : Int := 0
  error : Option String := none
  playlist : Option PlaylistSummary := none
  events : Option EventsSummary := none
  encoded : Bytes := []
  deriving DecidableEq, Repr

/-- The text of a span, resolved against a base when one is given and it resolves. The spans are
the reader's, inside their buffer, so their lookups never fault. -/
def uriText (data : Bytes) (base : Option Uri.Reference) (span : Span) : Bytes :=
  match base with
  | none => span.text data
  | some _ =>
    match span.resolve (some data) base with
    | .ok (.ok reference) => reference.render
    | _ => span.text data

def PlaylistSummary.ofPlaylist (playlist : Playlist) (data : Bytes) (base : Option Uri.Reference) :
    PlaylistSummary :=
  { targetDuration := playlist.targetDuration
    mediaSequence := playlist.sequenceNumber
    closed := playlist.closed
    version := playlist.minVersion
    segmentCount := playlist.segments.total
    variantCount := playlist.variants.total
    truncated := playlist.truncated
    segments := playlist.segments.items.map fun segment =>
      ⟨segment.duration, uriText data base segment.uri⟩
    variants := playlist.variants.items.map fun variant =>
      ⟨variant.bandwidth, uriText data base variant.uri⟩ }

def EventLine.ofEvent (data : Bytes) (event : Event) : EventLine :=
  ⟨event.line, event.kind, event.first.text data, event.second.text data, event.value⟩

/-- The events of a playlist: all of them when `limit` is zero, else at most `limit`. -/
def EventsSummary.read (data : Bytes) (limit : Nat) : Except ManifestError EventsSummary :=
  if limit == 0 then do
    let events ← Event.list data
    pure ⟨events.length, events.length, false, events.map (EventLine.ofEvent data)⟩
  else do
    let batch ← Event.decodeInto data limit
    pure ⟨batch.total, batch.events.length, batch.truncated, batch.events.map (EventLine.ofEvent data)⟩

/-- The report of a playlist file, from its name and what reading it gave. -/
def inspect (options : Options) (base : Option Uri.Reference) (file : String)
    (contents : Except String Bytes) : Report :=
  match contents with
  | .error message => { file, status := ErrorClass.other.status, error := some message }
  | .ok data =>
    let failed (error : ManifestError) : Report :=
      { file, status := error.status, error := some error.message }
    if options.events then
      match EventsSummary.read data options.maxEvents.toNat with
      | .ok summary => { file, events := some summary }
      | .error error => failed error
    else
      match Playlist.decode data options.segments options.variants options.strict with
      | .ok playlist =>
        { file
          playlist := some (PlaylistSummary.ofPlaylist playlist data base)
          encoded := if options.encode then playlist.text data else [] }
      | .error error => failed error

def Report.failed (report : Report) : Bool :=
  report.status != 0

end Cli

end HlsManifest
