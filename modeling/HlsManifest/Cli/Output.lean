import HlsManifest.Cli.Report
import HlsManifest.Decimal.Layout
import HlsManifest.Text.Utf8
import HlsManifest.Text.Quoted

/-!
# Output formats

The reports of a run are written in one of three formats:

* text, for a terminal: a line `NAME: ok` or `NAME: status S: ERROR` per file, then the playlist
  summary or the events with their spans quoted, then the re-encoded playlist as it is;
* JSON, indented by two spaces, ending with a newline;
* YAML, which a library outside this one writes, so the writer is a parameter.

JSON and YAML write the same tree (`Document`): per file `file`, `status`, then `error`,
`playlist`, `events` and `encoded` when they are present and not empty; in a playlist the stored
`segments` and `variants` only when there are some, and in an event `a`, `b` and `value_a` only
when they are not empty or zero. Durations are binary64 seconds.

The JSON text has each member or item on its own line, two more spaces of indentation per level,
`": "` between a key and its value, and `[]` or `{}` for an empty node. A quote and a backslash get
a backslash; backspace, form feed, newline, carriage return and tab get their letter escapes;
every other control byte, and `<`, `>` and `&`, are written `\u00XX` so that the text is safe
inside HTML; the line and paragraph separators U+2028 and U+2029 are escaped too; a byte that is
not UTF-8 becomes U+FFFD. Numbers have their shortest digits, positional from `1e-6` up to `1e21`
and with an exponent outside.

In the text format a duration is written for people. Below one second it takes the largest unit
that fits, nanoseconds `ns`, microseconds `µs` or milliseconds `ms`, with a decimal fraction that
drops its trailing zeros. From one second up it is hours, minutes and seconds,
`2562047h47m16.854775807s`, leaving out hours and minutes while they are zero, with up to nine
fraction digits of the seconds. Zero is `0s`, and a negative span is its magnitude after a minus
sign.
-/

set_option autoImplicit false

namespace HlsManifest

/-- A tree of scalars, sequences and mappings. A mapping keeps its members in the order they were
given, so the written order of keys is part of the value; a text is a byte string, and each writer
decides how to show bytes that are not UTF-8. -/
inductive Document where
  | integer (value : Int)
  | number (value : Binary64)
  | boolean (value : Bool)
  | text (value : Bytes)
  | sequence (items : List Document)
  | mapping (members : List (String × Document))
  deriving Repr

def Document.string (value : String) : Document :=
  .text (Bytes.ofString value)

namespace JsonText

/-- Binary64 numbers are positional from `1e-6` below `1e21`, and otherwise carry an exponent
with its sign and as few digits as it needs. -/
def numberLayout : FloatLayout := ⟨-6, 21, 1⟩

/-- The escaped form of one piece of a text. -/
def piece : Utf8.Piece → String
  | .stray _ => "\\ufffd"
  | .char code _ =>
    if code == 34 then "\\\""
    else if code == 92 then "\\\\"
    else if code == 8 then "\\b"
    else if code == 12 then "\\f"
    else if code == 10 then "\\n"
    else if code == 13 then "\\r"
    else if code == 9 then "\\t"
    else if code < 32 || code == 60 || code == 62 || code == 38 then "\\u00" ++ Quoted.hexDigits 2 code
    else if code == 0x2028 || code == 0x2029 then "\\u" ++ Quoted.hexDigits 4 code
    else String.singleton (Utf8.toChar code)

def quote (text : Bytes) : String :=
  "\"" ++ (Utf8.pieces text).foldl (fun written part => written ++ piece part) "" ++ "\""

def indent (depth : Nat) : String :=
  String.ofList (List.replicate (2 * depth) ' ')

mutual

/-- A document at a depth; its first line is not indented, its closing bracket is. -/
def render (depth : Nat) : Document → String
  | .integer value => Text.ofInt value
  | .number value => numberLayout.render value
  | .boolean value => if value then "true" else "false"
  | .text value => quote value
  | .sequence items =>
    if items.isEmpty then "[]"
    else "[\n" ++ ",\n".intercalate (renderItems (depth + 1) items) ++ "\n" ++ indent depth ++ "]"
  | .mapping members =>
    if members.isEmpty then "{}"
    else "\x7b\n" ++ ",\n".intercalate (renderMembers (depth + 1) members) ++ "\n" ++ indent depth ++ "\x7d"

def renderItems (depth : Nat) : List Document → List String
  | [] => []
  | item :: rest => (indent depth ++ render depth item) :: renderItems depth rest

def renderMembers (depth : Nat) : List (String × Document) → List String
  | [] => []
  | (key, value) :: rest =>
    (indent depth ++ quote (Bytes.ofString key) ++ ": " ++ render depth value) :: renderMembers depth rest

end

end JsonText

namespace DurationText

/-- The decimal fraction of `value / 10^places` after its point, trailing zeros dropped, with
the point; nothing when the fraction is zero. Also the whole part `value / 10^places`. -/
def fraction (value places : Nat) : String × Nat :=
  let whole := value / Nat.pow 10 places
  let digits := Nat.toDigits 10 (value % Nat.pow 10 places)
  let padded := List.replicate (places - digits.length) '0' ++ digits
  let trimmed := (padded.reverse.dropWhile (· == '0')).reverse
  (if trimmed.isEmpty then "" else "." ++ String.ofList trimmed, whole)

/-- The text of a non-negative span of nanoseconds. -/
def magnitude (nanoseconds : Nat) : String :=
  if nanoseconds = 0 then "0s"
  else if nanoseconds < 1000 then Text.ofNat nanoseconds ++ "ns"
  else if nanoseconds < 1000000 then
    let (tail, whole) := fraction nanoseconds 3
    Text.ofNat whole ++ tail ++ "µs"
  else if nanoseconds < 1000000000 then
    let (tail, whole) := fraction nanoseconds 6
    Text.ofNat whole ++ tail ++ "ms"
  else
    let (tail, seconds) := fraction nanoseconds 9
    let minutes := seconds / 60
    let hours := minutes / 60
    let secondsText := Text.ofNat (seconds % 60) ++ tail ++ "s"
    if minutes = 0 then secondsText
    else if hours = 0 then Text.ofNat (minutes % 60) ++ "m" ++ secondsText
    else Text.ofNat hours ++ "h" ++ Text.ofNat (minutes % 60) ++ "m" ++ secondsText

/-- The text of a span of nanoseconds. -/
def render (nanoseconds : Int) : String :=
  if nanoseconds < 0 then "-" ++ magnitude nanoseconds.natAbs else magnitude nanoseconds.natAbs

end DurationText

namespace Cli

inductive Format where
  | text
  | json
  | yaml
  deriving DecidableEq, Repr

def asciiLower (text : String) : String :=
  String.ofList (text.toList.map fun character =>
    if 'A' ≤ character && character ≤ 'Z' then Char.ofNat (character.toNat + 32) else character)

/-- The format of a name, in any case: `text` or empty, `json`, `yaml` or `yml`. -/
def Format.ofName? (name : String) : Option Format :=
  match asciiLower name with
  | "text" | "" => some .text
  | "json" => some .json
  | "yaml" | "yml" => some .yaml
  | _ => none

def durationText (duration : Micros) : String :=
  DurationText.render (Micros.nanoseconds duration)

def Report.headline (report : Report) : String :=
  match report.error with
  | some message =>
    if message.isEmpty then report.file ++ ": ok"
    else report.file ++ ": status " ++ Text.ofInt report.status ++ ": " ++ message
  | none => report.file ++ ": ok"

def PlaylistSummary.lines (summary : PlaylistSummary) : Bytes :=
  Bytes.ofString ("  target duration " ++ durationText summary.targetDuration ++
    ", media sequence " ++ Text.ofInt summary.mediaSequence ++
    ", closed " ++ (if summary.closed then "true" else "false") ++
    ", version " ++ Text.ofNat summary.version.number ++ "\n" ++
    "  segments " ++ Text.ofNat summary.segments.length ++ "/" ++ Text.ofNat summary.segmentCount ++
    ", variants " ++ Text.ofNat summary.variants.length ++ "/" ++ Text.ofNat summary.variantCount ++
    "\n") ++
  (summary.segments.flatMap fun segment =>
    Bytes.ofString ("    " ++ durationText segment.duration ++ " ") ++ segment.uri ++ [Bytes.newline]) ++
  (summary.variants.flatMap fun variant =>
    Bytes.ofString ("    " ++ Text.ofInt variant.bandwidth ++ " ") ++ variant.uri ++ [Bytes.newline])

/-- The line of an event: line number, kind, the first span quoted, the second quoted when not
empty, and the value when not zero. -/
def EventLine.text (event : EventLine) : String :=
  "    " ++ Text.ofNat event.line ++ " " ++ event.kind.name ++ " " ++ Quoted.render event.first ++
    (if event.second.isEmpty then "" else " " ++ Quoted.render event.second) ++
    (if event.value == 0 then "" else " " ++ Text.ofInt event.value) ++ "\n"

def EventsSummary.lines (summary : EventsSummary) : String :=
  "  events " ++ Text.ofNat summary.written ++ "/" ++ Text.ofNat summary.total ++ "\n" ++
    String.join (summary.events.map EventLine.text)

def Report.text (report : Report) : Bytes :=
  Bytes.ofString (report.headline ++ "\n") ++
    (match report.playlist with
      | some summary => summary.lines
      | none => []) ++
    (match report.events with
      | some summary => Bytes.ofString summary.lines
      | none => []) ++
    report.encoded

/-- A member that is present only when a condition holds. -/
def optionalMember (present : Bool) (key : String) (value : Document) : List (String × Document) :=
  if present then [(key, value)] else []

def secondsDocument (duration : Micros) : Document :=
  .number (Micros.seconds duration)

def PlaylistSummary.document (summary : PlaylistSummary) : Document :=
  .mapping ([
    ("target_duration", secondsDocument summary.targetDuration),
    ("media_sequence", .integer summary.mediaSequence),
    ("closed", .boolean summary.closed),
    ("version", .integer summary.version.number),
    ("version_reason", .string summary.version.reason),
    ("segment_count", .integer summary.segmentCount),
    ("variant_count", .integer summary.variantCount),
    ("truncated", .boolean summary.truncated)] ++
    optionalMember (!summary.segments.isEmpty) "segments"
      (.sequence (summary.segments.map fun segment =>
        .mapping [("duration", secondsDocument segment.duration), ("uri", .text segment.uri)])) ++
    optionalMember (!summary.variants.isEmpty) "variants"
      (.sequence (summary.variants.map fun variant =>
        .mapping [("bandwidth", .integer variant.bandwidth), ("uri", .text variant.uri)])))

def EventLine.document (event : EventLine) : Document :=
  .mapping ([("line", .integer event.line), ("kind", .string event.kind.name)] ++
    optionalMember (!event.first.isEmpty) "a" (.text event.first) ++
    optionalMember (!event.second.isEmpty) "b" (.text event.second) ++
    optionalMember (event.value != 0) "value_a" (.integer event.value))

def EventsSummary.document (summary : EventsSummary) : Document :=
  .mapping ([
    ("total", .integer summary.total),
    ("written", .integer summary.written),
    ("truncated", .boolean summary.truncated)] ++
    optionalMember (!summary.events.isEmpty) "list"
      (.sequence (summary.events.map EventLine.document)))

def Report.document (report : Report) : Document :=
  .mapping ([("file", .string report.file), ("status", .integer report.status)] ++
    (match report.error with
      | some message => optionalMember (!message.isEmpty) "error" (.string message)
      | none => []) ++
    (match report.playlist with
      | some summary => [("playlist", summary.document)]
      | none => []) ++
    (match report.events with
      | some summary => [("events", summary.document)]
      | none => []) ++
    optionalMember (!report.encoded.isEmpty) "encoded" (.text report.encoded))

/-- The reports of a run in a format; `yaml` is the text the YAML library writes for a tree. -/
def Format.render (format : Format) (yaml : Document → Bytes) (reports : List Report) : Bytes :=
  match format with
  | .text => reports.flatMap Report.text
  | .json => Bytes.ofString (JsonText.render 0 (.sequence (reports.map Report.document)) ++ "\n")
  | .yaml => yaml (.sequence (reports.map Report.document))

end Cli

end HlsManifest
