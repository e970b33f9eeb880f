import HlsManifest.Proofs.WrittenText
import HlsManifest.Proofs.EventReplay
import Mathlib.Control.Monad.Basic

/-!
# Writing a read playlist and reading it back

A playlist read from a buffer is written as text, and that text is read again in strict reading.
The round trip gives back the playlist (its header values and counts, and each item's duration or
bandwidth with the bytes of its URI) except in two cases that the reader and the writer make
between them:

* a target duration that saturated at `Int64Range.min` is written as its whole seconds, and these
  read back times a million as `-9223372036854000000`;
* a URI line whose text ends with a carriage return is written with it, and the reader then takes
  that carriage return for the end of its line: the URI loses it, or, when it was all the URI,
  is no URI at all.

`encode_decode_round_trip` says that the round trip holds whenever neither happens, for every
buffer no longer than a signed 64-bit word counts; `round_trip_fails_on_floor_and_final_return`
shows each case failing.

What reading can leave in a decoder is `Decoder.Reached`, kept by every step: a target duration
that is zero or some seconds times a million, values in the ranges their readers reach, and URI
spans that address a whole URI line of the buffer.
-/

set_option autoImplicit false

namespace HlsManifest

namespace Store

variable {α : Type}

theorem mem_items_write {store : Store α} {item other : α}
    (member : other ∈ (store.write item).items) : other ∈ store.items ∨ other = item := by
  unfold write at member
  split at member
  · exact .inl member
  · exact List.mem_append.mp member |>.imp id List.mem_singleton.mp

end Store

namespace Decoder

/-- A span that addresses a whole URI line of `data`. -/
def UriSpan (data : Bytes) (span : Span) : Prop :=
  ∃ text, span.bytes? data = some text ∧ text ≠ [] ∧ Bytes.newline ∉ text ∧
    Directive.classify text = .uri

/-- What reading records of `data` leaves in a decoder. -/
structure Reached (data : Bytes) (state : Decoder) : Prop where
  targetDuration : state.playlist.targetDuration = 0 ∨
    ∃ seconds, Int64Range.min ≤ seconds ∧ seconds ≤ Int64Range.max ∧
      state.playlist.targetDuration = Int64Range.scale Micros.perSecond seconds
  sequenceNumber : Int64Range.min ≤ state.playlist.sequenceNumber ∧
    state.playlist.sequenceNumber ≤ Int64Range.max
  pendingDuration : ∀ duration ∈ state.pendingDuration,
    -Int64Range.max ≤ duration ∧ duration ≤ Int64Range.max
  pendingBandwidth : ∀ bandwidth ∈ state.pendingBandwidth,
    Int64Range.min ≤ bandwidth ∧ bandwidth ≤ Int64Range.max
  segments : ∀ segment ∈ state.playlist.segments.items,
    (-Int64Range.max ≤ segment.duration ∧ segment.duration ≤ Int64Range.max) ∧
      UriSpan data segment.uri
  variants : ∀ variant ∈ state.playlist.variants.items,
    (Int64Range.min ≤ variant.bandwidth ∧ variant.bandwidth ≤ Int64Range.max) ∧
      UriSpan data variant.uri

theorem reached_start (data : Bytes) (segmentCapacity variantCapacity : Nat) :
    Reached data (start segmentCapacity variantCapacity) where
  targetDuration := .inl rfl
  sequenceNumber := show Int64Range.min ≤ 0 ∧ (0 : Int) ≤ Int64Range.max by decide
  pendingDuration := by simp [start]
  pendingBandwidth := by simp [start]
  segments := by simp [start, Playlist.empty, Store.empty]
  variants := by simp [start, Playlist.empty, Store.empty]

section Reached

variable {data : Bytes} {state : Decoder}

theorem Reached.takeUri (reached : Reached data state) {span : Span} (uri : UriSpan data span) :
    Reached data (state.takeUri span) := by
  unfold Decoder.takeUri
  cases pendingDuration : state.pendingDuration with
  | some duration =>
      refine ⟨reached.targetDuration, reached.sequenceNumber, by simp, reached.pendingBandwidth,
        fun segment member => ?_, reached.variants⟩
      rcases Store.mem_items_write member with kept | rfl
      · exact reached.segments segment kept
      · exact ⟨reached.pendingDuration duration pendingDuration, uri⟩
  | none =>
      cases pendingBandwidth : state.pendingBandwidth with
      | some bandwidth =>
          refine ⟨reached.targetDuration, reached.sequenceNumber, by simp, by simp,
            reached.segments, fun variant member => ?_⟩
          rcases Store.mem_items_write member with kept | rfl
          · exact reached.variants variant kept
          · exact ⟨reached.pendingBandwidth bandwidth pendingBandwidth, uri⟩
      | none => exact reached

theorem Reached.advance (reached : Reached data state) {record : Record}
    (occurs : Bytes.OccursAt data record.bytes record.offset) (nonblank : record.bytes ≠ [])
    (noNewline : Bytes.newline ∉ record.bytes) : Reached data (state.advance record) := by
  unfold Decoder.advance
  dsimp only
  split
  · split
    · next reading read =>
        have bounds := Integer.read_value_mem read
        exact { reached with targetDuration := .inr ⟨reading.value, bounds.1, bounds.2, rfl⟩ }
    · exact reached
  · split
    · next reading read =>
        exact { reached with sequenceNumber := Integer.read_value_mem read }
    · exact reached
  · exact { reached with }
  · refine { reached with pendingDuration := fun duration pending => ?_ }
    obtain ⟨reading, read, rfl⟩ := Option.map_eq_some_iff.mp pending
    exact Micros.read_value_mem read
  · exact { reached with pendingBandwidth := fun bandwidth pending =>
      Bandwidth.read_value_mem pending }
  · exact reached
  · exact reached
  · next isUri =>
      exact reached.takeUri ⟨record.bytes, Span.bytes?_of_occursAt occurs, nonblank, noNewline,
        isUri⟩

theorem Reached.uriSpan (reached : Reached data state) :
    ∀ span ∈ state.playlist.uriSpans, UriSpan data span := by
  intro span member
  rcases List.mem_append.mp member with ofSegment | ofVariant
  · obtain ⟨segment, kept, rfl⟩ := List.mem_map.mp ofSegment
    exact (reached.segments segment kept).2
  · obtain ⟨variant, kept, rfl⟩ := List.mem_map.mp ofVariant
    exact (reached.variants variant kept).2

end Reached

theorem foldl_advance_reached {data : Bytes} (records : List Record)
    (readable : ∀ record ∈ records, Bytes.OccursAt data record.bytes record.offset ∧
      record.bytes ≠ [] ∧ Bytes.newline ∉ record.bytes)
    {state : Decoder} (reached : Reached data state) :
    Reached data (records.foldl advance state) := by
  induction records generalizing state with
  | nil => exact reached
  | cons record rest ih =>
      obtain ⟨occurs, nonblank, noNewline⟩ := readable record List.mem_cons_self
      exact ih (fun later member => readable later (List.mem_cons_of_mem _ member))
        (reached.advance occurs nonblank noNewline)

end Decoder

namespace Event

theorem kind_ofRecord_ne_unknown {record : Record}
    (supported : Directive.classify record.bytes ≠ .unsupported)
    (notComment : Directive.classify record.bytes ≠ .comment) :
    (ofRecord record).kind ≠ .unknown := by
  unfold ofRecord
  unfold Directive.classify at supported notComment
  cases recognized : Directive.recognize record.bytes with
  | mk kind start =>
      rw [recognized] at supported notComment
      cases kind <;> simp_all

end Event

namespace Playlist

theorem readable_of_mem_body {data : Bytes} {record : Record} (member : record ∈ Record.body data) :
    Bytes.OccursAt data record.bytes record.offset ∧ record.bytes ≠ [] ∧
      Bytes.newline ∉ record.bytes := by
  refine ⟨Record.occursAt_of_mem_body member, ?_,
    Record.newline_not_mem_of_mem_split (Record.mem_split_of_mem_body member)⟩
  have nonblank := (List.mem_filter.mp member).2
  simpa using nonblank

theorem reached_of_decode {data : Bytes} {segmentCapacity variantCapacity : Nat} {strict : Bool}
    {playlist : Playlist} (decoded : decode data segmentCapacity variantCapacity strict = .ok playlist) :
    ∃ state, Decoder.Reached data state ∧ state.playlist = playlist := by
  have lenient := decode_eq_lenient_of_ok data segmentCapacity variantCapacity decoded
  cases opening : openingError? data with
  | some error =>
      rw [decode_of_openingError data segmentCapacity variantCapacity opening] at lenient
      cases lenient
  | none =>
      rw [decode_lenient segmentCapacity variantCapacity opening] at lenient
      exact ⟨_, Decoder.foldl_advance_reached _ (fun _ member => readable_of_mem_body member)
        (Decoder.reached_start data segmentCapacity variantCapacity), Except.ok.inj lenient⟩

/-- What reading leaves is writable, unless its target duration saturated downwards or one of its
URI texts ends with a carriage return. -/
theorem Writable.of_reached {data : Bytes} {state : Decoder} (reached : Decoder.Reached data state)
    (bounded : (data.length : Int) ≤ Int64Range.max)
    (notMin : state.playlist.targetDuration ≠ Int64Range.min)
    (noReturn : ∀ span ∈ state.playlist.uriSpans,
      (span.text data).getLast? ≠ some Bytes.carriageReturn) :
    Writable data state.playlist where
  targetDuration := fun nonzero => by
    rcases reached.targetDuration with zero | ⟨seconds, low, high, scaled⟩
    · exact absurd zero nonzero
    · rw [scaled] at notMin ⊢
      exact Micros.scale_wholeSecondsUp low high notMin
  sequenceNumber := reached.sequenceNumber
  durations := fun segment member => (reached.segments segment member).1
  bandwidths := fun variant member => (reached.variants variant member).1
  uris := fun span member => by
    obtain ⟨text, addressed, nonempty, noNewline, isUri⟩ := reached.uriSpan span member
    have noReturnHere := noReturn span member
    rw [Span.text_of_bytes? addressed bounded] at noReturnHere ⊢
    exact ⟨⟨nonempty, noNewline, noReturnHere⟩, isUri⟩

/-- With every URI span inside a buffer whose length is a signed 64-bit word, no lookup faults and
the playlist is written as its text. -/
theorem encode_eq_ok {data : Bytes} {playlist : Playlist}
    (bounded : (data.length : Int) ≤ Int64Range.max)
    (inside : ∀ span ∈ playlist.uriSpans, span.Inside data.length) :
    playlist.encode data = .ok (playlist.text data) := by
  have noFault : playlist.spanFault? data = none := by
    rw [spanFault?, List.findSome?_eq_none_iff]
    intro span member
    rw [Span.read_of_inside (inside span member) bounded]
  rw [encode, noFault]

theorem events_text {data : Bytes} {playlist : Playlist} (writable : Writable data playlist) :
    ∃ events, Event.list (playlist.text data) = .ok events ∧
      ∀ event ∈ events, event.kind ≠ .unknown := by
  refine ⟨_, Event.list_of_opened (openingError?_text writable), fun event member => ?_⟩
  obtain ⟨record, kept, rfl⟩ := List.mem_map.mp member
  have line := writable.writtenLines record.bytes
    (map_bytes_body_text writable ▸ List.mem_map_of_mem kept)
  exact Event.kind_ofRecord_ne_unknown line.2.1 line.2.2

/-- Writing a playlist read from `data` and reading the text back in strict reading, with room for
every item, gives back the playlist: the same header values and counts, and every item with the
same duration or bandwidth and the same URI bytes, now taken from the written text; none of the
written lines is an unknown event. This holds unless the target duration saturated at
`Int64Range.min` or a URI text ends with a carriage return. -/
theorem encode_decode_round_trip (data : Bytes) (segmentCapacity variantCapacity : Nat)
    (strict : Bool) (playlist : Playlist) (bounded : (data.length : Int) ≤ Int64Range.max)
    (decoded : decode data segmentCapacity variantCapacity strict = .ok playlist)
    (notSaturatedBelow : playlist.targetDuration ≠ Int64Range.min)
    (noFinalReturn : ∀ span ∈ playlist.uriSpans,
      (span.text data).getLast? ≠ some Bytes.carriageReturn) :
    ∃ out, playlist.encode data = .ok out ∧
      (∀ segmentRoom variantRoom : Nat, playlist.segments.items.length ≤ segmentRoom →
        playlist.variants.items.length ≤ variantRoom →
        ∃ reread, decode out segmentRoom variantRoom true = .ok reread ∧
          reread.targetDuration = playlist.targetDuration ∧
          reread.sequenceNumber = playlist.sequenceNumber ∧
          reread.closed = playlist.closed ∧
          reread.segments.total = playlist.segments.items.length ∧
          reread.variants.total = playlist.variants.items.length ∧
          reread.segments.items.map (fun segment => (segment.duration, segment.uri.bytes? out)) =
            playlist.segments.items.map (fun segment =>
              (segment.duration, segment.uri.bytes? data)) ∧
          reread.variants.items.map (fun variant => (variant.bandwidth, variant.uri.bytes? out)) =
            playlist.variants.items.map (fun variant =>
              (variant.bandwidth, variant.uri.bytes? data))) ∧
      ∃ events, Event.list out = .ok events ∧ ∀ event ∈ events, event.kind ≠ .unknown := by
  obtain ⟨state, reached, rfl⟩ := reached_of_decode decoded
  have writable := Writable.of_reached reached bounded notSaturatedBelow noFinalReturn
  -- each URI span addresses its text in `data`, so it lies inside `data`
  have addressed : ∀ span ∈ state.playlist.uriSpans, span.bytes? data = some (span.text data) := by
    intro span member
    obtain ⟨text, located, -⟩ := reached.uriSpan span member
    rw [Span.text_of_bytes? located bounded, located]
  have inside : ∀ span ∈ state.playlist.uriSpans, span.Inside data.length := fun span member =>
    Span.inside_of_bytes? (addressed span member)
  refine ⟨_, encode_eq_ok bounded inside, fun segmentRoom variantRoom segmentsFit variantsFit => ?_,
    events_text writable⟩
  obtain ⟨reread, reading, targetDuration, sequenceNumber, closed, segmentCount, variantCount,
    segmentView, variantView⟩ := decode_text writable segmentsFit variantsFit
  refine ⟨reread, reading, targetDuration, sequenceNumber, closed, segmentCount, variantCount, ?_,
    ?_⟩
  · rw [segmentView]
    refine List.map_congr_left fun segment member => ?_
    rw [addressed segment.uri (List.mem_append_left _ (List.mem_map_of_mem member))]
  · rw [variantView]
    refine List.map_congr_left fun variant member => ?_
    rw [addressed variant.uri (List.mem_append_right _ (List.mem_map_of_mem member))]

theorem encode_decode_round_trip_every_tag :
    (((Bytes.ofString ("#EXTM3U\n#EXT-X-TARGETDURATION:4\n#EXT-X-MEDIA-SEQUENCE:7\n" ++
        "#EXTINF:1.5,\na.ts\n#EXT-X-STREAM-INF:BANDWIDTH=5\nb.m3u8\n#EXT-X-ENDLIST\n")).length :
        Int) ≤ Int64Range.max ∧
      decode (Bytes.ofString ("#EXTM3U\n#EXT-X-TARGETDURATION:4\n#EXT-X-MEDIA-SEQUENCE:7\n" ++
        "#EXTINF:1.5,\na.ts\n#EXT-X-STREAM-INF:BANDWIDTH=5\nb.m3u8\n#EXT-X-ENDLIST\n")) 1 1 true =
        .ok ⟨4000000, 7, true, ⟨1, [⟨1500000, ⟨69, 4⟩⟩], 1⟩, ⟨1, [⟨5, ⟨104, 6⟩⟩], 1⟩⟩ ∧
      (4000000 : Micros) ≠ Int64Range.min ∧
      ∀ span ∈ [(⟨69, 4⟩ : Span), ⟨104, 6⟩],
        (span.text (Bytes.ofString ("#EXTM3U\n#EXT-X-TARGETDURATION:4\n#EXT-X-MEDIA-SEQUENCE:7\n" ++
          "#EXTINF:1.5,\na.ts\n#EXT-X-STREAM-INF:BANDWIDTH=5\nb.m3u8\n#EXT-X-ENDLIST\n"))).getLast? ≠
          some Bytes.carriageReturn) ∧
    ∃ out reread, decode out 1 1 true = .ok reread ∧
      reread.segments.items.map (fun segment => (segment.duration, segment.uri.bytes? out)) =
        [(1500000, some (Bytes.ofString "a.ts"))] := by
  have bounded : ((Bytes.ofString ("#EXTM3U\n#EXT-X-TARGETDURATION:4\n#EXT-X-MEDIA-SEQUENCE:7\n" ++
      "#EXTINF:1.5,\na.ts\n#EXT-X-STREAM-INF:BANDWIDTH=5\nb.m3u8\n#EXT-X-ENDLIST\n")).length :
      Int) ≤ Int64Range.max := by decide +kernel
  have decoded : decode (Bytes.ofString ("#EXTM3U\n#EXT-X-TARGETDURATION:4\n" ++
      "#EXT-X-MEDIA-SEQUENCE:7\n#EXTINF:1.5,\na.ts\n#EXT-X-STREAM-INF:BANDWIDTH=5\nb.m3u8\n" ++
      "#EXT-X-ENDLIST\n")) 1 1 true =
      .ok ⟨4000000, 7, true, ⟨1, [⟨1500000, ⟨69, 4⟩⟩], 1⟩, ⟨1, [⟨5, ⟨104, 6⟩⟩], 1⟩⟩ := by
    decide +kernel
  have notMin : (4000000 : Micros) ≠ Int64Range.min := by decide
  have noReturn : ∀ span ∈ [(⟨69, 4⟩ : Span), ⟨104, 6⟩],
      (span.text (Bytes.ofString ("#EXTM3U\n#EXT-X-TARGETDURATION:4\n#EXT-X-MEDIA-SEQUENCE:7\n" ++
        "#EXTINF:1.5,\na.ts\n#EXT-X-STREAM-INF:BANDWIDTH=5\nb.m3u8\n#EXT-X-ENDLIST\n"))).getLast? ≠
        some Bytes.carriageReturn := by decide +kernel
  refine ⟨⟨bounded, decoded, notMin, noReturn⟩, ?_⟩
  obtain ⟨out, -, rereads, -⟩ := encode_decode_round_trip _ 1 1 true _ bounded decoded notMin noReturn
  obtain ⟨reread, reading, -, -, -, -, -, segmentView, -⟩ := rereads 1 1 (by decide) (by decide)
  refine ⟨out, reread, reading, ?_⟩
  rw [segmentView]
  decide +kernel

/-- The round trip fails in both cases its theorem leaves out: a target duration read as
`Int64Range.min` is written as `-9223372036854` seconds and read back as
`-9223372036854000000`, and a URI `abc` followed by a carriage return, read from a line that ended
with two, is written with one and read back without it. -/
theorem round_trip_fails_on_floor_and_final_return :
    (∃ playlist reread,
      decode (Bytes.ofString "#EXTM3U\n#EXT-X-TARGETDURATION:-9223372036855\n") 0 0 true =
        .ok playlist ∧
      playlist.targetDuration = Int64Range.min ∧
      playlist.encode (Bytes.ofString "#EXTM3U\n#EXT-X-TARGETDURATION:-9223372036855\n") =
        .ok (Bytes.ofString "#EXTM3U\n#EXT-X-TARGETDURATION:-9223372036854\n") ∧
      decode (Bytes.ofString "#EXTM3U\n#EXT-X-TARGETDURATION:-9223372036854\n") 0 0 true =
        .ok reread ∧
      reread.targetDuration = -9223372036854000000 ∧
      reread.targetDuration ≠ playlist.targetDuration) ∧
    (∃ playlist reread,
      decode (Bytes.ofString "#EXTM3U\n#EXTINF:1,\nabc\r\r\n") 1 0 true = .ok playlist ∧
      playlist.encode (Bytes.ofString "#EXTM3U\n#EXTINF:1,\nabc\r\r\n") =
        .ok (Bytes.ofString "#EXTM3U\n#EXTINF:1,\nabc\r\n") ∧
      decode (Bytes.ofString "#EXTM3U\n#EXTINF:1,\nabc\r\n") 1 0 true = .ok reread ∧
      playlist.segments.items.map (fun segment =>
          segment.uri.bytes? (Bytes.ofString "#EXTM3U\n#EXTINF:1,\nabc\r\r\n")) =
        [some (Bytes.ofString "abc\r")] ∧
      reread.segments.items.map (fun segment =>
          segment.uri.bytes? (Bytes.ofString "#EXTM3U\n#EXTINF:1,\nabc\r\n")) =
        [some (Bytes.ofString "abc")]) :=
  ⟨⟨⟨Int64Range.min, 0, false, ⟨0, [], 0⟩, ⟨0, [], 0⟩⟩,
      ⟨-9223372036854000000, 0, false, ⟨0, [], 0⟩, ⟨0, [], 0⟩⟩,
      by decide +kernel, rfl, by decide +kernel, by decide +kernel, rfl, by decide⟩,
    ⟨⟨0, 0, false, ⟨1, [⟨1000000, ⟨19, 4⟩⟩], 1⟩, ⟨0, [], 0⟩⟩,
      ⟨0, 0, false, ⟨1, [⟨1000000, ⟨19, 3⟩⟩], 1⟩, ⟨0, [], 0⟩⟩,
      by decide +kernel, by decide +kernel, by decide +kernel, by decide +kernel,
      by decide +kernel⟩⟩

end Playlist

end HlsManifest
