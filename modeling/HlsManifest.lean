import HlsManifest.Bytes
import HlsManifest.Numeric.Int64Range
import HlsManifest.Numeric.Integer
import HlsManifest.Numeric.Micros
import HlsManifest.Manifest.Span
import HlsManifest.Text.Utf8
import HlsManifest.Text.Printable
import HlsManifest.Text.Quoted
import HlsManifest.Ip.Address
import HlsManifest.Uri.Basic
import HlsManifest.Error
import HlsManifest.Decimal.Binary
import HlsManifest.Decimal.Shortest
import HlsManifest.Decimal.Layout
import HlsManifest.Manifest.Record
import HlsManifest.Manifest.Scanner
import HlsManifest.Manifest.Directive
import HlsManifest.Manifest.Store
import HlsManifest.Playlist.Basic
import HlsManifest.Playlist.Decode
import HlsManifest.Playlist.Encode
import HlsManifest.Playlist.Version
import HlsManifest.Event.Basic
import HlsManifest.Event.Decode
import HlsManifest.Uri.Escape
import HlsManifest.Uri.Parse
import HlsManifest.Uri.Render
import HlsManifest.Uri.Resolve
import HlsManifest.Cli.Literal
import HlsManifest.Cli.Flags
import HlsManifest.Cli.Report
import HlsManifest.Cli.Output
import HlsManifest.Cli.Run
import HlsManifest.Proofs.RecordLayout
import HlsManifest.Proofs.DecoderRun
import HlsManifest.Proofs.DecodeMeaning
import HlsManifest.Proofs.EventReplay
import HlsManifest.Proofs.StrictReading
import HlsManifest.Proofs.NumberText
import HlsManifest.Proofs.WrittenText
import HlsManifest.Proofs.EncodeRoundTrip
import HlsManifest.Proofs.Capacity
import HlsManifest.Proofs.Reuse
import HlsManifest.Proofs.CommandRun
import HlsManifest.Proofs.SpanLookup
import HlsManifest.Proofs.NumeralReading
import HlsManifest.Proofs.EventOutput
import HlsManifest.Proofs.EventLaw
import HlsManifest.Proofs.DurationText
import HlsManifest.Proofs.LineScan
