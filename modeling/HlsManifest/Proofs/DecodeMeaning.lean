import HlsManifest.Proofs.DecoderRun

/-!
# What a manifest means

The reader is a machine with two pending values, but what it reads can be said record by record
without it. Over the non-empty records after the header:

* the playlist is closed when some record is `#EXT-X-ENDLIST`;
* the target duration and the media sequence number come from the last record of their tag whose
  value reads as an integer (`lastReading`), zero when there is none;
* a URI record yields a segment when the last `#EXTINF` record since the previous URI record reads
  as a duration (`pendingDuration`), and otherwise a variant when the last `#EXT-X-STREAM-INF`
  record reads as a bandwidth and every URI record since then yielded a segment
  (`pendingBandwidth`).

`foldl_advance_eq_meaning` says the machine computes exactly this, one record at a time, and
`decode_meaning` says it of the whole reading, in both modes.
-/

set_option autoImplicit false

namespace HlsManifest

namespace Meaning

/-- Each record of a run, paired with the records before it. -/
def withEarlier (records : List Record) : List (List Record × Record) :=
  records.zipIdx.map fun entry => (records.take entry.2, entry.1)

/-- The value of the last record of a header tag whose value reads as an integer, or zero when
there is none. -/
def lastReading (tag : Directive) (records : List Record) : Int :=
  ((records.filterMap fun record =>
      if Directive.classify record.bytes = tag then Integer.read (Directive.value record.bytes)
      else none).getLast?.map Reading.value).getD 0

/-- Whether some record ends the list. -/
def closed (records : List Record) : Bool :=
  records.any fun record => Directive.classify record.bytes = .endList

/-- The duration waiting after `records`: that of the last `#EXTINF` record since the last URI
record, when its text before the first comma reads as seconds. -/
def pendingDuration (records : List Record) : Option Micros :=
  match (records.reverse.takeWhile fun record => Directive.classify record.bytes ≠ .uri).find?
      fun record => Directive.classify record.bytes = .extInf with
  | some tag => (Micros.read (extInfFields (Directive.value tag.bytes)).1).map Reading.value
  | none => none

/-- Whether a URI record that follows `before` finds a duration waiting. -/
def findsDuration (before : List Record) (record : Record) : Bool :=
  Directive.classify record.bytes ≠ .uri || (pendingDuration before).isSome

/-- The bandwidth waiting after `records`: that of the last `#EXT-X-STREAM-INF` record, unless a
URI record after it found no duration waiting and took the bandwidth. -/
def pendingBandwidth (records : List Record) : Option Int :=
  match records.reverse.dropWhile fun record => Directive.classify record.bytes ≠ .streamInf with
  | [] => none
  | tag :: earlier =>
    if ((withEarlier records).drop (earlier.length + 1)).all fun entry =>
        findsDuration entry.1 entry.2
    then Bandwidth.read (Directive.value tag.bytes) else none

/-- The segment a record yields after `before`: a URI record with a duration waiting. -/
def segmentOf (before : List Record) (record : Record) : Option Segment :=
  if Directive.classify record.bytes = .uri then
    (pendingDuration before).map fun duration => ⟨duration, Decoder.recordSpan record⟩
  else none

/-- The variant a record yields after `before`: a URI record with no duration but a bandwidth
waiting. -/
def variantOf (before : List Record) (record : Record) : Option Variant :=
  if Directive.classify record.bytes = .uri ∧ pendingDuration before = none then
    (pendingBandwidth before).map fun bandwidth => ⟨bandwidth, Decoder.recordSpan record⟩
  else none

/-- Every segment of a run, however many a playlist can keep. -/
def segments (records : List Record) : List Segment :=
  (withEarlier records).filterMap fun entry => segmentOf entry.1 entry.2

/-- Every variant of a run, however many a playlist can keep. -/
def variants (records : List Record) : List Variant :=
  (withEarlier records).filterMap fun entry => variantOf entry.1 entry.2

-- The first URI record takes the duration; the bandwidth waits behind it for the second.
example :
    ((segments (Record.body (Bytes.ofString
        "#EXTM3U\n#EXTINF:1,\n#EXT-X-STREAM-INF:BANDWIDTH=5\na.ts\nb.m3u8\n"))).map
        Segment.duration,
      (variants (Record.body (Bytes.ofString
        "#EXTM3U\n#EXTINF:1,\n#EXT-X-STREAM-INF:BANDWIDTH=5\na.ts\nb.m3u8\n"))).map
        Variant.bandwidth) = ([1000000], [5]) := by
  decide +kernel

/-- The reader's state after `records`, as the records say it. -/
def state (segmentCapacity variantCapacity : Nat) (records : List Record) : Decoder where
  playlist :=
    { targetDuration := Int64Range.scale Micros.perSecond (lastReading .targetDuration records)
      sequenceNumber := lastReading .mediaSequence records
      closed := closed records
      segments := (Store.empty segmentCapacity).writeAll (segments records)
      variants := (Store.empty variantCapacity).writeAll (variants records) }
  pendingDuration := pendingDuration records
  pendingBandwidth := pendingBandwidth records

/-! ## One more record -/

theorem withEarlier_concat (records : List Record) (record : Record) :
    withEarlier (records ++ [record]) = withEarlier records ++ [(records, record)] := by
  unfold withEarlier
  rw [List.zipIdx_append, List.map_append]
  congr 1
  · apply List.map_congr_left
    intro entry member
    obtain ⟨_, below, _⟩ := List.mem_zipIdx member
    simp only [Nat.zero_add] at below
    simp [List.take_append_of_le_length (Nat.le_of_lt below)]
  · simp

theorem lastReading_concat (tag : Directive) (records : List Record) (record : Record) :
    lastReading tag (records ++ [record]) =
      ((if Directive.classify record.bytes = tag then Integer.read (Directive.value record.bytes)
        else none).map Reading.value).getD (lastReading tag records) := by
  unfold lastReading
  rw [List.filterMap_append, List.getLast?_append]
  by_cases tagged : Directive.classify record.bytes = tag
  · cases reading : Integer.read (Directive.value record.bytes) <;> simp [tagged, reading]
  · simp [tagged]

theorem closed_concat (records : List Record) (record : Record) :
    closed (records ++ [record]) =
      (closed records || decide (Directive.classify record.bytes = .endList)) := by
  simp [closed]

theorem pendingDuration_concat (records : List Record) (record : Record) :
    pendingDuration (records ++ [record]) =
      if Directive.classify record.bytes = .uri then none
      else if Directive.classify record.bytes = .extInf then
        (Micros.read (extInfFields (Directive.value record.bytes)).1).map Reading.value
      else pendingDuration records := by
  by_cases uri : Directive.classify record.bytes = .uri
  · simp [pendingDuration, uri]
  · by_cases extInf : Directive.classify record.bytes = .extInf
    · simp [pendingDuration, extInf]
    · simp [pendingDuration, uri, extInf]

theorem segments_concat (records : List Record) (record : Record) :
    segments (records ++ [record]) = segments records ++ (segmentOf records record).toList := by
  simp only [segments, withEarlier_concat, List.filterMap_append]
  cases found : segmentOf records record <;> simp [found]

theorem variants_concat (records : List Record) (record : Record) :
    variants (records ++ [record]) = variants records ++ (variantOf records record).toList := by
  simp only [variants, withEarlier_concat, List.filterMap_append]
  cases found : variantOf records record <;> simp [found]

/-- A bandwidth waits until a URI record with no duration waiting takes it, or a new
`#EXT-X-STREAM-INF` record replaces it. -/
theorem pendingBandwidth_concat (records : List Record) (record : Record) :
    pendingBandwidth (records ++ [record]) =
      if Directive.classify record.bytes = .streamInf then
        Bandwidth.read (Directive.value record.bytes)
      else if findsDuration records record then pendingBandwidth records
      else none := by
  by_cases streamInf : Directive.classify record.bytes = .streamInf
  · -- the new record is the last stream tag, and no record follows it
    have none_after : (withEarlier (records ++ [record])).drop (records.length + 1) = [] := by
      simp [withEarlier]
    simp [pendingBandwidth, streamInf, none_after]
  · have notStream : (decide (Directive.classify record.bytes ≠ .streamInf)) = true := by
      simp [streamInf]
    simp only [pendingBandwidth, List.reverse_concat, List.dropWhile_cons, notStream,
      streamInf, ↓reduceIte]
    -- the last stream tag is the same one, and the new record is one more after it
    split
    · split <;> rfl
    · next tag earlier found =>
        have suffix : tag :: earlier <:+ records.reverse := by
          rw [← found]
          exact List.dropWhile_suffix _
        have within : earlier.length + 1 ≤ (withEarlier records).length := by
          have := suffix.length_le
          simp [withEarlier] at this ⊢
          omega
        rw [withEarlier_concat, List.drop_append_of_le_length within, List.all_append]
        cases finds : findsDuration records record
        · simp [finds]
        · simp only [List.all_cons, List.all_nil, finds, Bool.and_true]
          simp

/-- The machine reads one more record exactly as the records say. -/
theorem advance_state (segmentCapacity variantCapacity : Nat) (records : List Record)
    (record : Record) :
    Decoder.advance (state segmentCapacity variantCapacity records) record =
      state segmentCapacity variantCapacity (records ++ [record]) := by
  simp only [state, lastReading_concat, closed_concat, pendingDuration_concat,
    pendingBandwidth_concat, segments_concat, variants_concat, Store.writeAll_append]
  cases kind : Directive.classify record.bytes with
  | targetDuration | mediaSequence =>
      cases reading : Integer.read (Directive.value record.bytes) <;>
        simp [Decoder.advance, kind, reading, segmentOf, variantOf, findsDuration]
  | uri =>
      -- a URI record takes the waiting duration first, and the bandwidth only without one
      cases duration : pendingDuration records with
      | some value =>
          simp [Decoder.advance, Decoder.takeUri, kind, duration, segmentOf, variantOf,
            findsDuration]
      | none =>
          cases bandwidth : pendingBandwidth records <;>
            simp [Decoder.advance, Decoder.takeUri, kind, duration, bandwidth, segmentOf,
              variantOf, findsDuration]
  | endList | extInf | streamInf | unsupported | comment =>
      simp [Decoder.advance, kind, segmentOf, variantOf, findsDuration]

/-! ## Whole runs -/

theorem start_eq_state (segmentCapacity variantCapacity : Nat) :
    Decoder.start segmentCapacity variantCapacity = state segmentCapacity variantCapacity [] := rfl

theorem foldl_advance_state (segmentCapacity variantCapacity : Nat)
    (earlier records : List Record) :
    records.foldl Decoder.advance (state segmentCapacity variantCapacity earlier) =
      state segmentCapacity variantCapacity (earlier ++ records) := by
  induction records generalizing earlier with
  | nil => simp
  | cons record rest ih =>
      rw [List.foldl_cons, advance_state, ih]
      simp

theorem foldl_advance_eq_state (segmentCapacity variantCapacity : Nat) (records : List Record) :
    records.foldl Decoder.advance (Decoder.start segmentCapacity variantCapacity) =
      state segmentCapacity variantCapacity records := by
  rw [start_eq_state, foldl_advance_state, List.nil_append]

/-- A playlist as the records of its manifest describe it, with the given capacities. -/
structure Describes (segmentCapacity variantCapacity : Nat) (records : List Record)
    (playlist : Playlist) : Prop where
  closed : playlist.closed = true ↔ ∃ record ∈ records, Directive.classify record.bytes = .endList
  targetDuration :
    playlist.targetDuration = Int64Range.scale Micros.perSecond (lastReading .targetDuration records)
  sequenceNumber : playlist.sequenceNumber = lastReading .mediaSequence records
  keptSegments : playlist.segments.items = (segments records).take segmentCapacity
  segmentCount : playlist.segments.total = (segments records).length
  keptVariants : playlist.variants.items = (variants records).take variantCapacity
  variantCount : playlist.variants.total = (variants records).length

theorem describes_state (segmentCapacity variantCapacity : Nat) (records : List Record) :
    Describes segmentCapacity variantCapacity records
      (state segmentCapacity variantCapacity records).playlist where
  closed := by simp [state, closed]
  targetDuration := rfl
  sequenceNumber := rfl
  keptSegments := Store.items_writeAll _ _
  segmentCount := by simp [state, Store.total_writeAll, Store.empty]
  keptVariants := Store.items_writeAll _ _
  variantCount := by simp [state, Store.total_writeAll, Store.empty]

/-- The declarative meaning of reading a playlist: once the buffer opens with the header, lenient
reading succeeds, and lenient reading and every successful strict reading give the playlist that
the non-empty records after the header describe. -/
theorem decode_meaning (data : Bytes) (segmentCapacity variantCapacity : Nat)
    (nonempty : data ≠ []) (header : Record.header data = Directive.header) :
    (∃ playlist, Playlist.decode data segmentCapacity variantCapacity false = .ok playlist) ∧
      ∀ (strict : Bool) (playlist : Playlist),
        Playlist.decode data segmentCapacity variantCapacity strict = .ok playlist →
        Describes segmentCapacity variantCapacity (Record.body data) playlist := by
  have lenient := Playlist.decode_lenient segmentCapacity variantCapacity
    (openingError?_eq_none nonempty header)
  rw [foldl_advance_eq_state] at lenient
  refine ⟨⟨_, lenient⟩, ?_⟩
  intro strict playlist accepted
  have same := Playlist.decode_eq_lenient_of_ok data segmentCapacity variantCapacity accepted
  rw [lenient, Except.ok.injEq] at same
  rw [← same]
  exact describes_state segmentCapacity variantCapacity (Record.body data)

theorem decode_meaning_duration_before_bandwidth :
    (Bytes.ofString "#EXTM3U\n#EXTINF:1,\n#EXT-X-STREAM-INF:BANDWIDTH=5\na.ts\nb.m3u8\n" ≠ [] ∧
      Record.header (Bytes.ofString
        "#EXTM3U\n#EXTINF:1,\n#EXT-X-STREAM-INF:BANDWIDTH=5\na.ts\nb.m3u8\n") = Directive.header) ∧
    (∃ playlist, Playlist.decode (Bytes.ofString
        "#EXTM3U\n#EXTINF:1,\n#EXT-X-STREAM-INF:BANDWIDTH=5\na.ts\nb.m3u8\n") 1 1 false = .ok playlist) ∧
      ∀ (strict : Bool) (playlist : Playlist),
        Playlist.decode (Bytes.ofString
          "#EXTM3U\n#EXTINF:1,\n#EXT-X-STREAM-INF:BANDWIDTH=5\na.ts\nb.m3u8\n") 1 1 strict = .ok playlist →
        Describes 1 1 (Record.body (Bytes.ofString
          "#EXTM3U\n#EXTINF:1,\n#EXT-X-STREAM-INF:BANDWIDTH=5\na.ts\nb.m3u8\n")) playlist :=
  ⟨⟨by decide +kernel, by decide +kernel⟩, decode_meaning _ 1 1 (by decide +kernel) (by decide +kernel)⟩

end Meaning

end HlsManifest
