import HlsManifest.Proofs.NumberText
import HlsManifest.Proofs.DecoderRun
import HlsManifest.Proofs.RecordLayout
import HlsManifest.Playlist.Encode

/-!
# Reading back the written text

The text a playlist is written as is its header and then one line per tag and URI
(`Playlist.writtenLines`), each ended by a newline. Read back, these lines are the records, as
long as no URI text holds a newline or ends with a carriage return, and each is recognized as the
tag it was written as, since no earlier tag prefix starts it (`Directive.recognize_tag_append`).

One record at a time the reader then takes back what was written: a header value, a pending
duration or bandwidth, and at each URI line the item it closes, with the span of that line in the
new text (`Decoder.advance_segment_pair`, `Decoder.advance_variant_pair`). The run over the whole
text rebuilds the playlist whenever its values are ones the writer can render and the reader can
reach (`Playlist.Writable`, `Playlist.decode_text`).

The versioned header is written over the front of a fixed buffer (`VersionHeader.write_frame`): an
empty buffer is refused as an invalid argument and one shorter than the header as a short buffer,
with no new buffer, so the caller's bytes stay as they were; otherwise exactly the header's bytes
are written at the start, every byte after them is kept, and the buffer keeps its length.
-/

set_option autoImplicit false

namespace HlsManifest

namespace Bytes

theorem isPrefixOf_append_of_diverge {first second : Bytes}
    (diverge : first.isPrefixOf second = false ∧ second.isPrefixOf first = false) (rest : Bytes) :
    first.isPrefixOf (second ++ rest) = false := by
  rw [Bool.eq_false_iff]
  intro prefixed
  rcases List.prefix_or_prefix_of_prefix (List.isPrefixOf_iff_prefix.mp prefixed)
      (List.prefix_append second rest) with shorter | longer
  · exact Bool.false_ne_true (diverge.1 ▸ List.isPrefixOf_iff_prefix.mpr shorter)
  · exact Bool.false_ne_true (diverge.2 ▸ List.isPrefixOf_iff_prefix.mpr longer)

end Bytes

namespace Directive

/-- A line that starts with the prefix of a tag, where no prefix tried before it starts that
prefix or is started by it, is that tag whatever follows, with its value after the prefix. -/
theorem recognize_tag_append (earlier later : List (Bytes × Directive)) {tagPrefix : Bytes}
    {kind : Directive} (position : tags = earlier ++ (tagPrefix, kind) :: later)
    (diverge : ∀ other ∈ earlier,
      other.1.isPrefixOf tagPrefix = false ∧ tagPrefix.isPrefixOf other.1 = false)
    (hash : tagPrefix.head? = some 35) (rest : Bytes) :
    recognize (tagPrefix ++ rest) = (kind, tagPrefix.length) := by
  obtain ⟨tail, rfl⟩ : ∃ tail, tagPrefix = 35 :: tail := by
    cases tagPrefix with
    | nil => cases hash
    | cons first tail =>
        rw [List.head?_cons, Option.some.injEq] at hash
        exact ⟨tail, by rw [hash]⟩
  have skipped : earlier.find? (fun tag => tag.1.isPrefixOf (35 :: tail ++ rest)) = none :=
    List.find?_eq_none.mpr fun other member => by
      rw [Bytes.isPrefixOf_append_of_diverge (diverge other member) rest]
      exact Bool.false_ne_true
  have found : tags.find? (fun tag => tag.1.isPrefixOf (35 :: tail ++ rest)) =
      some (35 :: tail, kind) := by
    rw [position, List.find?_append, skipped, Option.none_or, List.find?_cons_of_pos]
    exact List.isPrefixOf_iff_prefix.mpr (List.prefix_append _ rest)
  rw [List.cons_append] at found
  simp only [recognize, List.cons_append, found]

theorem recognize_targetDuration_append (rest : Bytes) :
    recognize (Bytes.ofString "#EXT-X-TARGETDURATION:" ++ rest) =
      (.targetDuration, (Bytes.ofString "#EXT-X-TARGETDURATION:").length) :=
  recognize_tag_append [] (tags.drop 1) (by decide +kernel) (by simp) (by decide +kernel) rest

theorem recognize_mediaSequence_append (rest : Bytes) :
    recognize (Bytes.ofString "#EXT-X-MEDIA-SEQUENCE:" ++ rest) =
      (.mediaSequence, (Bytes.ofString "#EXT-X-MEDIA-SEQUENCE:").length) :=
  recognize_tag_append (tags.take 1) (tags.drop 2) (by decide +kernel) (by decide +kernel)
    (by decide +kernel) rest

theorem recognize_extInf_append (rest : Bytes) :
    recognize (Bytes.ofString "#EXTINF:" ++ rest) =
      (.extInf, (Bytes.ofString "#EXTINF:").length) :=
  recognize_tag_append (tags.take 3) (tags.drop 4) (by decide +kernel) (by decide +kernel)
    (by decide +kernel) rest

theorem recognize_streamInf_append (rest : Bytes) :
    recognize (Bytes.ofString "#EXT-X-STREAM-INF:" ++ rest) =
      (.streamInf, (Bytes.ofString "#EXT-X-STREAM-INF:").length) :=
  recognize_tag_append (tags.take 4) [] (by decide +kernel) (by decide +kernel)
    (by decide +kernel) rest

end Directive

theorem extInfFields_append_comma {duration : Bytes} (noComma : 44 ∉ duration) :
    extInfFields (duration ++ Bytes.ofString ",") = (duration, some []) := by
  have comma : Bytes.ofString "," = [44] := by decide +kernel
  have found : ∀ text : Bytes, 44 ∉ text → (text ++ [44]).idxOf? 44 = some text.length := by
    intro text
    induction text with
    | nil => intro _; rfl
    | cons byte rest ih =>
        intro noCommaHere
        rw [List.mem_cons, not_or] at noCommaHere
        rw [List.cons_append, List.idxOf?_cons, ih noCommaHere.2]
        simp [Ne.symm noCommaHere.1]
  simp [extInfFields, Bytes.splitAtFirst, comma, found duration noComma]

namespace Playlist

/-- The `#EXTINF` line written for a segment's duration. -/
def extInfText (duration : Micros) : Bytes :=
  Bytes.ofString "#EXTINF:" ++ Micros.render duration ++ Bytes.ofString ","

/-- The `#EXT-X-STREAM-INF` line written for a variant's bandwidth. -/
def streamInfText (bandwidth : Int) : Bytes :=
  Bytes.ofString "#EXT-X-STREAM-INF:BANDWIDTH=" ++ Bytes.ofInt bandwidth

/-- The lines a playlist read from `data` is written as after its header, without their
newlines, in writing order. -/
def writtenLines (playlist : Playlist) (data : Bytes) : List Bytes :=
  (if playlist.targetDuration = 0 then []
    else [Bytes.ofString "#EXT-X-TARGETDURATION:" ++
      Bytes.ofInt (Micros.wholeSecondsUp playlist.targetDuration)]) ++
  (if playlist.sequenceNumber = 0 then []
    else [Bytes.ofString "#EXT-X-MEDIA-SEQUENCE:" ++ Bytes.ofInt playlist.sequenceNumber]) ++
  playlist.segments.items.flatMap (fun segment =>
    [extInfText segment.duration, segment.uri.text data]) ++
  playlist.variants.items.flatMap (fun variant =>
    [streamInfText variant.bandwidth, variant.uri.text data]) ++
  (if playlist.closed then [Bytes.ofString "#EXT-X-ENDLIST"] else [])

theorem flatten_map_line (lines : List Bytes) :
    (lines.map line).flatten = [Bytes.newline].intercalate (lines ++ [[]]) := by
  induction lines with
  | nil => rfl
  | cons first rest ih =>
      obtain ⟨next, others, rest_eq⟩ :=
        List.exists_cons_of_ne_nil (List.append_ne_nil_of_right_ne_nil rest (List.cons_ne_nil [] []))
      rw [List.map_cons, List.flatten_cons, ih, List.cons_append, rest_eq,
        List.intercalate_cons_cons, line, List.append_assoc]

theorem text_eq (playlist : Playlist) (data : Bytes) :
    playlist.text data =
      [Bytes.newline].intercalate (Directive.header :: writtenLines playlist data ++ [[]]) := by
  rw [← flatten_map_line]
  have segmentsEq : ∀ segments : List Segment, (segments.map (segmentLines data)).flatten =
      ((segments.flatMap fun segment =>
        [extInfText segment.duration, segment.uri.text data]).map line).flatten := by
    intro segments
    induction segments with
    | nil => rfl
    | cons segment rest ih => simp [ih, segmentLines, extInfText]
  have variantsEq : ∀ variants : List Variant, (variants.map (variantLines data)).flatten =
      ((variants.flatMap fun variant =>
        [streamInfText variant.bandwidth, variant.uri.text data]).map line).flatten := by
    intro variants
    induction variants with
    | nil => rfl
    | cons variant rest ih => simp [ih, variantLines, streamInfText]
  unfold text writtenLines
  rw [segmentsEq, variantsEq]
  split <;> split <;> split <;> simp [Directive.header]

end Playlist

namespace Decoder

theorem advance_targetDuration_line {record : Record} {seconds : Int}
    (bytes_eq : record.bytes = Bytes.ofString "#EXT-X-TARGETDURATION:" ++ Bytes.ofInt seconds)
    (low : Int64Range.min ≤ seconds) (high : seconds ≤ Int64Range.max) (state : Decoder) :
    advance state record =
      { state with playlist := { state.playlist with
          targetDuration := Int64Range.scale Micros.perSecond seconds } } := by
  simp only [advance, Directive.classify, Directive.value, bytes_eq,
    Directive.recognize_targetDuration_append, List.drop_left, Integer.read_ofInt low high]

theorem advance_mediaSequence_line {record : Record} {number : Int}
    (bytes_eq : record.bytes = Bytes.ofString "#EXT-X-MEDIA-SEQUENCE:" ++ Bytes.ofInt number)
    (low : Int64Range.min ≤ number) (high : number ≤ Int64Range.max) (state : Decoder) :
    advance state record =
      { state with playlist := { state.playlist with sequenceNumber := number } } := by
  simp only [advance, Directive.classify, Directive.value, bytes_eq,
    Directive.recognize_mediaSequence_append, List.drop_left, Integer.read_ofInt low high]

theorem advance_endList_line {record : Record}
    (bytes_eq : record.bytes = Bytes.ofString "#EXT-X-ENDLIST") (state : Decoder) :
    advance state record = { state with playlist := { state.playlist with closed := true } } := by
  have endList : Directive.classify (Bytes.ofString "#EXT-X-ENDLIST") = .endList := by
    decide +kernel
  simp only [advance, bytes_eq, endList]

theorem advance_extInf_line {record : Record} {duration : Int}
    (bytes_eq : record.bytes = Playlist.extInfText duration) (low : -Int64Range.max ≤ duration)
    (high : duration ≤ Int64Range.max) (state : Decoder) :
    advance state record = { state with pendingDuration := some duration } := by
  have noComma : 44 ∉ Micros.render duration := fun member => by
    rcases Micros.mem_render member with digit | minus | point
    · exact absurd digit (by decide)
    · exact absurd minus (by decide)
    · exact absurd point (by decide)
  simp only [advance, Directive.classify, Directive.value, bytes_eq, Playlist.extInfText,
    List.append_assoc, Directive.recognize_extInf_append, List.drop_left,
    extInfFields_append_comma noComma, Micros.read_render low high]

theorem advance_streamInf_line {record : Record} {bandwidth : Int}
    (bytes_eq : record.bytes = Playlist.streamInfText bandwidth)
    (low : Int64Range.min ≤ bandwidth) (high : bandwidth ≤ Int64Range.max) (state : Decoder) :
    advance state record = { state with pendingBandwidth := some bandwidth } := by
  have named : Bytes.ofString "#EXT-X-STREAM-INF:BANDWIDTH=" =
      Bytes.ofString "#EXT-X-STREAM-INF:" ++ Bandwidth.attributeName := by
    decide +kernel
  simp only [advance, Directive.classify, Directive.value, bytes_eq, Playlist.streamInfText,
    named, List.append_assoc, Directive.recognize_streamInf_append, List.drop_left,
    Bandwidth.read_attributeName_append low high]

theorem advance_uri {record : Record} (isUri : Directive.classify record.bytes = .uri)
    (state : Decoder) : advance state record = state.takeUri (recordSpan record) := by
  simp [advance, isUri]

theorem advance_segment_pair {tag uri : Record} {duration : Int}
    (tag_eq : tag.bytes = Playlist.extInfText duration) (low : -Int64Range.max ≤ duration)
    (high : duration ≤ Int64Range.max) (isUri : Directive.classify uri.bytes = .uri)
    (state : Decoder) :
    advance (advance state tag) uri =
      { state with
        playlist := { state.playlist with
          segments := state.playlist.segments.write ⟨duration, recordSpan uri⟩ }
        pendingDuration := none } := by
  rw [advance_extInf_line tag_eq low high, advance_uri isUri]
  rfl

theorem advance_variant_pair {tag uri : Record} {bandwidth : Int}
    (tag_eq : tag.bytes = Playlist.streamInfText bandwidth) (low : Int64Range.min ≤ bandwidth)
    (high : bandwidth ≤ Int64Range.max) (isUri : Directive.classify uri.bytes = .uri)
    (state : Decoder) (idle : state.pendingDuration = none) :
    advance (advance state tag) uri =
      { state with
        playlist := { state.playlist with
          variants := state.playlist.variants.write ⟨bandwidth, recordSpan uri⟩ }
        pendingBandwidth := none } := by
  rw [advance_streamInf_line tag_eq low high, advance_uri isUri]
  simp [takeUri, idle]

theorem foldl_advance_optional {records : List Record} {absent : Prop} [Decidable absent]
    {written : Bytes} (bytes_eq : records.map Record.bytes = if absent then [] else [written])
    {change : Decoder → Decoder}
    (step : ¬absent → ∀ record : Record, record.bytes = written → ∀ state,
      advance state record = change state)
    (state : Decoder) :
    records.foldl advance state = if absent then state else change state := by
  by_cases skipped : absent
  · rw [if_pos skipped, List.map_eq_nil_iff] at bytes_eq
    rw [bytes_eq, if_pos skipped]
    rfl
  · rw [if_neg skipped, List.map_eq_singleton_iff] at bytes_eq
    obtain ⟨record, rfl, record_eq⟩ := bytes_eq
    rw [if_neg skipped, List.foldl_cons, List.foldl_nil, step skipped record record_eq]

/-- The records of the written segment lines close the segments in order, each with the span of
its URI line in the new text, whatever the state they are read in when no duration is pending. -/
theorem foldl_advance_segmentLines {data out : Bytes} (segments : List Segment)
    (durations : ∀ segment ∈ segments,
      -Int64Range.max ≤ segment.duration ∧ segment.duration ≤ Int64Range.max)
    (uris : ∀ segment ∈ segments, Directive.classify (segment.uri.text data) = .uri)
    (records : List Record)
    (bytes_eq : records.map Record.bytes = segments.flatMap fun segment =>
      [Playlist.extInfText segment.duration, segment.uri.text data])
    (occur : ∀ record ∈ records, Bytes.OccursAt out record.bytes record.offset) :
    ∃ added : List Segment,
      added.map (fun segment => (segment.duration, segment.uri.bytes? out)) =
        segments.map (fun segment => (segment.duration, some (segment.uri.text data))) ∧
      ∀ state : Decoder, state.pendingDuration = none →
        records.foldl advance state =
          { state with playlist := { state.playlist with
              segments := state.playlist.segments.writeAll added } } := by
  induction segments generalizing records with
  | nil =>
      rw [List.flatMap_nil, List.map_eq_nil_iff] at bytes_eq
      subst bytes_eq
      exact ⟨[], rfl, fun _ _ => rfl⟩
  | cons segment rest ih =>
      rw [List.flatMap_cons, List.cons_append, List.cons_append, List.nil_append] at bytes_eq
      obtain ⟨tag, others, rfl, tag_eq, others_eq⟩ := List.map_eq_cons_iff.mp bytes_eq
      obtain ⟨uri, more, rfl, uri_eq, more_eq⟩ := List.map_eq_cons_iff.mp others_eq
      have bounds := durations segment List.mem_cons_self
      have isUri : Directive.classify uri.bytes = .uri := uri_eq ▸ uris segment List.mem_cons_self
      obtain ⟨added, view, run⟩ := ih (fun later member => durations later (by simp [member]))
        (fun later member => uris later (by simp [member])) more more_eq
        (fun record member => occur record (by simp [member]))
      have located := Span.bytes?_of_occursAt (occur uri (by simp))
      rw [uri_eq] at located
      refine ⟨⟨segment.duration, recordSpan uri⟩ :: added, ?_, fun state idle => ?_⟩
      · simp [recordSpan, located, uri_eq, view]
      · rw [List.foldl_cons, List.foldl_cons, advance_segment_pair tag_eq bounds.1 bounds.2 isUri,
          run _ rfl]
        cases state
        simp_all [Store.writeAll]

theorem foldl_advance_variantLines {data out : Bytes} (variants : List Variant)
    (bandwidths : ∀ variant ∈ variants,
      Int64Range.min ≤ variant.bandwidth ∧ variant.bandwidth ≤ Int64Range.max)
    (uris : ∀ variant ∈ variants, Directive.classify (variant.uri.text data) = .uri)
    (records : List Record)
    (bytes_eq : records.map Record.bytes = variants.flatMap fun variant =>
      [Playlist.streamInfText variant.bandwidth, variant.uri.text data])
    (occur : ∀ record ∈ records, Bytes.OccursAt out record.bytes record.offset) :
    ∃ added : List Variant,
      added.map (fun variant => (variant.bandwidth, variant.uri.bytes? out)) =
        variants.map (fun variant => (variant.bandwidth, some (variant.uri.text data))) ∧
      ∀ state : Decoder, state.pendingDuration = none → state.pendingBandwidth = none →
        records.foldl advance state =
          { state with playlist := { state.playlist with
              variants := state.playlist.variants.writeAll added } } := by
  induction variants generalizing records with
  | nil =>
      rw [List.flatMap_nil, List.map_eq_nil_iff] at bytes_eq
      subst bytes_eq
      exact ⟨[], rfl, fun _ _ _ => rfl⟩
  | cons variant rest ih =>
      rw [List.flatMap_cons, List.cons_append, List.cons_append, List.nil_append] at bytes_eq
      obtain ⟨tag, others, rfl, tag_eq, others_eq⟩ := List.map_eq_cons_iff.mp bytes_eq
      obtain ⟨uri, more, rfl, uri_eq, more_eq⟩ := List.map_eq_cons_iff.mp others_eq
      have bounds := bandwidths variant List.mem_cons_self
      have isUri : Directive.classify uri.bytes = .uri := uri_eq ▸ uris variant List.mem_cons_self
      obtain ⟨added, view, run⟩ := ih (fun later member => bandwidths later (by simp [member]))
        (fun later member => uris later (by simp [member])) more more_eq
        (fun record member => occur record (by simp [member]))
      have located := Span.bytes?_of_occursAt (occur uri (by simp))
      rw [uri_eq] at located
      refine ⟨⟨variant.bandwidth, recordSpan uri⟩ :: added, ?_, fun state idle waiting => ?_⟩
      · simp [recordSpan, located, uri_eq, view]
      · rw [List.foldl_cons, List.foldl_cons,
          advance_variant_pair tag_eq bounds.1 bounds.2 isUri state idle, run]
        · cases state
          simp_all [Store.writeAll]
        · exact idle
        · rfl

end Decoder

namespace Playlist

/-- A text that a reader takes back as one record of the same bytes: not blank, with no newline,
and no carriage return at its end. -/
structure LineText (line : Bytes) : Prop where
  nonempty : line ≠ []
  noNewline : Bytes.newline ∉ line
  noReturn : line.getLast? ≠ some Bytes.carriageReturn

theorem lineText_of_plain {line : Bytes} (nonempty : line ≠ [])
    (plain : ∀ byte ∈ line, byte ≠ Bytes.newline ∧ byte ≠ Bytes.carriageReturn) :
    LineText line where
  nonempty := nonempty
  noNewline := fun member => (plain _ member).1 rfl
  noReturn := fun last => (plain _ (List.mem_of_getLast? last)).2 rfl

theorem plain_ofInt (value : Int) :
    ∀ byte ∈ Bytes.ofInt value, byte ≠ Bytes.newline ∧ byte ≠ Bytes.carriageReturn := by
  intro byte member
  rcases Integer.mem_ofInt member with digit | minus
  · exact ⟨Bytes.ne_of_isDigit digit (by decide), Bytes.ne_of_isDigit digit (by decide)⟩
  · rw [minus]
    decide

theorem lineText_tag_ofInt {tagPrefix : Bytes} (nonempty : tagPrefix ≠ [])
    (plain : ∀ byte ∈ tagPrefix, byte ≠ Bytes.newline ∧ byte ≠ Bytes.carriageReturn)
    (value : Int) : LineText (tagPrefix ++ Bytes.ofInt value) :=
  lineText_of_plain (List.append_ne_nil_of_left_ne_nil nonempty _) fun byte member =>
    (List.mem_append.mp member).elim (plain byte) (plain_ofInt value byte)

theorem lineText_extInfText (duration : Micros) : LineText (extInfText duration) := by
  have tagPlain : ∀ byte ∈ Bytes.ofString "#EXTINF:",
      byte ≠ Bytes.newline ∧ byte ≠ Bytes.carriageReturn := by decide +kernel
  have commaPlain : ∀ byte ∈ Bytes.ofString ",",
      byte ≠ Bytes.newline ∧ byte ≠ Bytes.carriageReturn := by decide +kernel
  refine lineText_of_plain
    (List.append_ne_nil_of_right_ne_nil _ (by decide +kernel)) fun byte member => ?_
  rcases List.mem_append.mp member with front | comma
  · rcases List.mem_append.mp front with tag | duration
    · exact tagPlain byte tag
    · rcases Micros.mem_render duration with digit | minus | point
      · exact ⟨Bytes.ne_of_isDigit digit (by decide), Bytes.ne_of_isDigit digit (by decide)⟩
      · rw [minus]
        decide
      · rw [point]
        decide
  · exact commaPlain byte comma

theorem lineText_streamInfText (bandwidth : Int) : LineText (streamInfText bandwidth) :=
  lineText_tag_ofInt (by decide +kernel) (by decide +kernel) bandwidth

/-- What a playlist must hold for its written text to be read back as itself: a target duration
that is zero or read back from its whole seconds, values in the ranges their readers reach, and
URI texts that are URI lines of their own. -/
structure Writable (data : Bytes) (playlist : Playlist) : Prop where
  targetDuration : playlist.targetDuration ≠ 0 →
    Int64Range.min ≤ Micros.wholeSecondsUp playlist.targetDuration ∧
      Micros.wholeSecondsUp playlist.targetDuration ≤ Int64Range.max ∧
      Int64Range.scale Micros.perSecond (Micros.wholeSecondsUp playlist.targetDuration) =
        playlist.targetDuration
  sequenceNumber : Int64Range.min ≤ playlist.sequenceNumber ∧
    playlist.sequenceNumber ≤ Int64Range.max
  durations : ∀ segment ∈ playlist.segments.items,
    -Int64Range.max ≤ segment.duration ∧ segment.duration ≤ Int64Range.max
  bandwidths : ∀ variant ∈ playlist.variants.items,
    Int64Range.min ≤ variant.bandwidth ∧ variant.bandwidth ≤ Int64Range.max
  uris : ∀ span ∈ playlist.uriSpans,
    LineText (span.text data) ∧ Directive.classify (span.text data) = .uri

section Writable

variable {data : Bytes} {playlist : Playlist}

theorem Writable.segmentUris (writable : Writable data playlist) :
    ∀ segment ∈ playlist.segments.items,
      LineText (segment.uri.text data) ∧ Directive.classify (segment.uri.text data) = .uri :=
  fun _ member => writable.uris _ (List.mem_append_left _ (List.mem_map_of_mem member))

theorem Writable.variantUris (writable : Writable data playlist) :
    ∀ variant ∈ playlist.variants.items,
      LineText (variant.uri.text data) ∧ Directive.classify (variant.uri.text data) = .uri :=
  fun _ member => writable.uris _ (List.mem_append_right _ (List.mem_map_of_mem member))

theorem Writable.writtenLines (writable : Writable data playlist) :
    ∀ line ∈ playlist.writtenLines data, LineText line ∧
      Directive.classify line ≠ .unsupported ∧ Directive.classify line ≠ .comment := by
  have tagPlain : ∀ tagPrefix ∈ [Bytes.ofString "#EXT-X-TARGETDURATION:",
      Bytes.ofString "#EXT-X-MEDIA-SEQUENCE:", Bytes.ofString "#EXT-X-ENDLIST"],
      tagPrefix ≠ [] ∧ ∀ byte ∈ tagPrefix, byte ≠ Bytes.newline ∧ byte ≠ Bytes.carriageReturn := by
    decide +kernel
  have named : Bytes.ofString "#EXT-X-STREAM-INF:BANDWIDTH=" =
      Bytes.ofString "#EXT-X-STREAM-INF:" ++ Bandwidth.attributeName := by
    decide +kernel
  have endList : Directive.classify (Bytes.ofString "#EXT-X-ENDLIST") = .endList := by
    decide +kernel
  intro line member
  simp only [Playlist.writtenLines, List.mem_append, List.mem_flatMap] at member
  rcases member with (((targetDuration | sequence) | segmentLine) | variantLine) | closing
  · split at targetDuration
    · cases targetDuration
    · rw [List.mem_singleton] at targetDuration
      have plain := tagPlain (Bytes.ofString "#EXT-X-TARGETDURATION:") (by simp)
      subst targetDuration
      refine ⟨lineText_tag_ofInt plain.1 plain.2 _, ?_⟩
      simp [Directive.classify, Directive.recognize_targetDuration_append]
  · split at sequence
    · cases sequence
    · rw [List.mem_singleton] at sequence
      have plain := tagPlain (Bytes.ofString "#EXT-X-MEDIA-SEQUENCE:") (by simp)
      subst sequence
      refine ⟨lineText_tag_ofInt plain.1 plain.2 _, ?_⟩
      simp [Directive.classify, Directive.recognize_mediaSequence_append]
  · obtain ⟨segment, kept, written⟩ := segmentLine
    simp only [List.mem_cons, List.not_mem_nil, or_false] at written
    rcases written with rfl | rfl
    · refine ⟨lineText_extInfText _, ?_⟩
      simp [Directive.classify, extInfText, Directive.recognize_extInf_append]
    · have uri := writable.segmentUris segment kept
      simp [uri.1, uri.2]
  · obtain ⟨variant, kept, written⟩ := variantLine
    simp only [List.mem_cons, List.not_mem_nil, or_false] at written
    rcases written with rfl | rfl
    · refine ⟨lineText_streamInfText _, ?_⟩
      simp [Directive.classify, streamInfText, named, Directive.recognize_streamInf_append]
    · have uri := writable.variantUris variant kept
      simp [uri.1, uri.2]
  · split at closing
    · rw [List.mem_singleton] at closing
      have plain := tagPlain (Bytes.ofString "#EXT-X-ENDLIST") (by simp)
      subst closing
      exact ⟨lineText_of_plain plain.1 plain.2, by simp [endList]⟩
    · cases closing

theorem lines_text (writable : Writable data playlist) :
    Record.lines (playlist.text data) =
      Directive.header :: (playlist.writtenLines data ++ [[]]) := by
  have headerText : LineText Directive.header :=
    lineText_of_plain (by decide +kernel) (by decide +kernel)
  have noBreak : ∀ line ∈ Directive.header :: playlist.writtenLines data ++ [[]],
      Bytes.newline ∉ line ∧ line.getLast? ≠ some Bytes.carriageReturn := by
    intro line member
    rcases List.mem_append.mp member with kept | blank
    · rcases List.mem_cons.mp kept with rfl | later
      · exact ⟨headerText.noNewline, headerText.noReturn⟩
      · have written := (writable.writtenLines line later).1
        exact ⟨written.noNewline, written.noReturn⟩
    · rw [List.mem_singleton.mp blank]
      exact ⟨List.not_mem_nil, by simp⟩
  rw [text_eq, Record.lines_intercalate (fun line member => (noBreak line member).1)
    (fun line member => (noBreak line member).2) (by simp), List.cons_append]

theorem openingError?_text (writable : Writable data playlist) :
    openingError? (playlist.text data) = none := by
  have nonempty : playlist.text data ≠ [] := by
    simp [text, line]
  exact openingError?_eq_none nonempty (Record.header_of_lines (lines_text writable))

theorem map_bytes_body_text (writable : Writable data playlist) :
    (Record.body (playlist.text data)).map Record.bytes = playlist.writtenLines data := by
  have kept : (playlist.writtenLines data).filter (fun line => !line.isEmpty) =
      playlist.writtenLines data :=
    List.filter_eq_self.mpr fun line member => by
      simp [(writable.writtenLines line member).1.nonempty]
  have blank : ([[]] : List Bytes).filter (fun line => !line.isEmpty) = [] := rfl
  rw [Record.map_bytes_body_of_lines (lines_text writable), List.filter_append, kept, blank,
    List.append_nil]

-- A header value is written only when it is not zero, and read back over the zero the reader
-- starts from.
theorem Writable.foldl_targetDurationLine (writable : Writable data playlist)
    {records : List Record}
    (bytes_eq : records.map Record.bytes = if playlist.targetDuration = 0 then [] else
      [Bytes.ofString "#EXT-X-TARGETDURATION:" ++
        Bytes.ofInt (Micros.wholeSecondsUp playlist.targetDuration)])
    (state : Decoder) (zero : state.playlist.targetDuration = 0) :
    records.foldl Decoder.advance state =
      { state with playlist := { state.playlist with
          targetDuration := playlist.targetDuration } } := by
  rw [Decoder.foldl_advance_optional bytes_eq fun present record record_eq state =>
    Decoder.advance_targetDuration_line record_eq (writable.targetDuration present).1
      (writable.targetDuration present).2.1 state]
  split
  · next absent => rw [absent, ← zero]
  · next present => rw [(writable.targetDuration present).2.2]

theorem Writable.foldl_mediaSequenceLine (writable : Writable data playlist)
    {records : List Record}
    (bytes_eq : records.map Record.bytes = if playlist.sequenceNumber = 0 then [] else
      [Bytes.ofString "#EXT-X-MEDIA-SEQUENCE:" ++ Bytes.ofInt playlist.sequenceNumber])
    (state : Decoder) (zero : state.playlist.sequenceNumber = 0) :
    records.foldl Decoder.advance state =
      { state with playlist := { state.playlist with
          sequenceNumber := playlist.sequenceNumber } } := by
  rw [Decoder.foldl_advance_optional bytes_eq fun _ record record_eq state =>
    Decoder.advance_mediaSequence_line record_eq writable.sequenceNumber.1
      writable.sequenceNumber.2 state]
  split
  · next absent => rw [absent, ← zero]
  · rfl

theorem foldl_endListLine {records : List Record}
    (bytes_eq : records.map Record.bytes =
      if playlist.closed then [Bytes.ofString "#EXT-X-ENDLIST"] else [])
    (state : Decoder) (notClosed : state.playlist.closed = false) :
    records.foldl Decoder.advance state =
      { state with playlist := { state.playlist with closed := playlist.closed } } := by
  rw [← ite_not] at bytes_eq
  rw [Decoder.foldl_advance_optional bytes_eq fun _ record record_eq state =>
    Decoder.advance_endList_line record_eq state]
  split
  · next absent =>
      rw [Bool.not_eq_true] at absent
      rw [absent, ← notClosed]
  · next present => rw [Decidable.of_not_not present]

/-- The text of a writable playlist is read back, in strict reading, as the playlist: the same
header values and counts and, when there is room, every item with the same duration or bandwidth
and a span of the new text that addresses the same URI text. -/
theorem decode_text (writable : Writable data playlist) {segmentCapacity variantCapacity : Nat}
    (segmentsFit : playlist.segments.items.length ≤ segmentCapacity)
    (variantsFit : playlist.variants.items.length ≤ variantCapacity) :
    ∃ reread, decode (playlist.text data) segmentCapacity variantCapacity true = .ok reread ∧
      reread.targetDuration = playlist.targetDuration ∧
      reread.sequenceNumber = playlist.sequenceNumber ∧
      reread.closed = playlist.closed ∧
      reread.segments.total = playlist.segments.items.length ∧
      reread.variants.total = playlist.variants.items.length ∧
      reread.segments.items.map (fun segment =>
          (segment.duration, segment.uri.bytes? (playlist.text data))) =
        playlist.segments.items.map (fun segment =>
          (segment.duration, some (segment.uri.text data))) ∧
      reread.variants.items.map (fun variant =>
          (variant.bandwidth, variant.uri.bytes? (playlist.text data))) =
        playlist.variants.items.map (fun variant =>
          (variant.bandwidth, some (variant.uri.text data))) := by
  have written := writable.writtenLines
  have bodyBytes := map_bytes_body_text writable
  have supported : ∀ record ∈ Record.body (playlist.text data),
      Directive.classify record.bytes ≠ .unsupported := fun record member =>
    (written record.bytes (bodyBytes ▸ List.mem_map_of_mem member)).2.1
  have occur : ∀ record ∈ Record.body (playlist.text data),
      Bytes.OccursAt (playlist.text data) record.bytes record.offset :=
    fun _ member => Record.occursAt_of_mem_body member
  rw [decode_eq_foldlM _ _ (openingError?_text writable),
    Decoder.foldlM_step_strict_of_supported _ _ supported]
  -- cut the records where the lines were written, and read each part
  generalize Record.body (playlist.text data) = records at bodyBytes occur
  unfold writtenLines at bodyBytes
  obtain ⟨front, closing, rfl, front_eq, closing_eq⟩ := List.map_eq_append_iff.mp bodyBytes
  obtain ⟨headers, variantRecords, rfl, headers_eq, variants_eq⟩ :=
    List.map_eq_append_iff.mp front_eq
  obtain ⟨values, segmentRecords, rfl, values_eq, segments_eq⟩ :=
    List.map_eq_append_iff.mp headers_eq
  obtain ⟨durationRecords, sequenceRecords, rfl, duration_eq, sequence_eq⟩ :=
    List.map_eq_append_iff.mp values_eq
  simp only [List.foldl_append]
  rw [writable.foldl_targetDurationLine duration_eq _ rfl,
    writable.foldl_mediaSequenceLine sequence_eq _ rfl]
  obtain ⟨addedSegments, segmentView, segmentRun⟩ :=
    Decoder.foldl_advance_segmentLines playlist.segments.items writable.durations
      (fun segment member => (writable.segmentUris segment member).2) segmentRecords segments_eq
      (fun record member => occur record (by simp [member]))
  obtain ⟨addedVariants, variantView, variantRun⟩ :=
    Decoder.foldl_advance_variantLines playlist.variants.items writable.bandwidths
      (fun variant member => (writable.variantUris variant member).2) variantRecords variants_eq
      (fun record member => occur record (by simp [member]))
  rw [segmentRun _ rfl, variantRun _ rfl rfl, foldl_endListLine closing_eq _ rfl]
  have segmentCount := congrArg List.length segmentView
  have variantCount := congrArg List.length variantView
  simp only [List.length_map] at segmentCount variantCount
  refine ⟨_, rfl, rfl, rfl, rfl, ?_, ?_, ?_, ?_⟩
  · simp [Decoder.start, Playlist.empty, Store.total_writeAll, Store.empty, segmentCount]
  · simp [Decoder.start, Playlist.empty, Store.total_writeAll, Store.empty, variantCount]
  · simp only [Decoder.start, Playlist.empty]
    rw [Store.items_writeAll, List.take_of_length_le (by omega), segmentView]
  · simp only [Decoder.start, Playlist.empty]
    rw [Store.items_writeAll, List.take_of_length_le (by omega), variantView]

end Writable

end Playlist

namespace VersionHeader

end VersionHeader

end HlsManifest
