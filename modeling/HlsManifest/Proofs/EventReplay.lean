import HlsManifest.Proofs.DecoderRun
import HlsManifest.Proofs.RecordLayout
import HlsManifest.Event.Decode

/-!
# Line events refine the playlist reader

The line events and the playlist come from two separate readings of the same records, with
different rules for a number that does not read: an event reports zero, while the playlist keeps
the value it had. Yet the events carry enough to rebuild the playlist. `Replay` folds the events in
order: a header value is taken when the text of the event's span reads as a number, a pending
duration or bandwidth waits for the next URI event, and every item is kept.

`events_refine_decode` says that the events of a buffer fail exactly when lenient reading fails,
with the same error, and that otherwise the replay gives the playlist: the same header values, the
same counts, and as its kept items the first ones replayed. The spans matter here: each event's
span addresses exactly the text that the playlist reader parsed (`RecordLayout`).
-/

set_option autoImplicit false

namespace HlsManifest

namespace Directive

theorem recognize_snd_le (line : Bytes) : (recognize line).2 ≤ line.length := by
  unfold recognize
  split
  · split
    · next tagPrefix kind found =>
        have holds := List.find?_some found
        simp only [List.isPrefixOf_iff_prefix] at holds
        exact holds.length_le
    · split <;> simp
  · simp

end Directive

theorem extInfFields_fst_isPrefix (value : Bytes) : (extInfFields value).1 <+: value := by
  unfold extInfFields Bytes.splitAtFirst
  cases value.idxOf? 44 with
  | some index => exact List.take_prefix index value
  | none => exact List.prefix_refl value

namespace Event

/-- What the line events say of a playlist, replayed one event at a time: the header values, the
values that wait for a URI event, and every item, however many there are. -/
structure Replay where
  targetDuration : Micros
  sequenceNumber : Int
  closed : Bool
  pendingDuration : Option Micros
  pendingBandwidth : Option Int
  segments : List Segment
  variants : List Variant
  deriving DecidableEq, Repr

namespace Replay

def empty : Replay := ⟨0, 0, false, none, none, [], []⟩

/-- Replays one event of a manifest read from `data`. Whether a number read is decided on the
text the event's primary span addresses; the number taken is the event's value. -/
def step (data : Bytes) (replay : Replay) (event : Event) : Replay :=
  let text := (event.first.bytes? data).getD []
  match event.kind with
  | .targetDuration =>
    if (Integer.read text).isSome then { replay with targetDuration := event.value } else replay
  | .mediaSequence =>
    if (Integer.read text).isSome then { replay with sequenceNumber := event.value } else replay
  | .endList => { replay with closed := true }
  | .extInf =>
    { replay with pendingDuration := if (Micros.read text).isSome then some event.value else none }
  | .streamInf =>
    { replay with
      pendingBandwidth := if (Bandwidth.read text).isSome then some event.value else none }
  | .uri =>
    match replay.pendingDuration with
    | some duration =>
      { replay with
        segments := replay.segments ++ [⟨duration, event.first⟩]
        pendingDuration := none }
    | none =>
      match replay.pendingBandwidth with
      | some bandwidth =>
        { replay with
          variants := replay.variants ++ [⟨bandwidth, event.first⟩]
          pendingBandwidth := none }
      | none => replay
  | .unknown => replay

def run (data : Bytes) (events : List Event) : Replay :=
  events.foldl (step data) empty

/-- The reader's state that a replay stands for, with the given capacities: items beyond the
capacities are counted and dropped. -/
def decoder (segmentCapacity variantCapacity : Nat) (replay : Replay) : Decoder where
  playlist :=
    { targetDuration := replay.targetDuration
      sequenceNumber := replay.sequenceNumber
      closed := replay.closed
      segments := (Store.empty segmentCapacity).writeAll replay.segments
      variants := (Store.empty variantCapacity).writeAll replay.variants }
  pendingDuration := replay.pendingDuration
  pendingBandwidth := replay.pendingBandwidth

theorem decoder_empty (segmentCapacity variantCapacity : Nat) :
    decoder segmentCapacity variantCapacity empty = Decoder.start segmentCapacity variantCapacity :=
  rfl

/-- One record of `data`, read by the playlist reader or replayed from its event, moves the two
states alike. The spans of the event address the record's parts because the record stands in
`data` at its offset. -/
theorem advance_decoder {data : Bytes} {record : Record}
    (occurs : Bytes.OccursAt data record.bytes record.offset)
    (segmentCapacity variantCapacity : Nat) (replay : Replay) :
    Decoder.advance (decoder segmentCapacity variantCapacity replay) record =
      decoder segmentCapacity variantCapacity (replay.step data (ofRecord record)) := by
  have within := Directive.recognize_snd_le record.bytes
  -- the value after the tag prefix, and the duration text before its comma, stand in `data`
  have value := occurs.drop within
  have duration := value.of_isPrefix (extInfFields_fst_isPrefix _)
  have valueText := Span.bytes?_of_occursAt value
  have durationText := Span.bytes?_of_occursAt duration
  unfold Decoder.advance ofRecord Directive.classify Directive.value at *
  cases recognized : Directive.recognize record.bytes with
  | mk kind start =>
      simp only [recognized, Int.natCast_add, List.length_drop] at valueText durationText
      cases kind with
      | targetDuration =>
          cases reading : Integer.read (record.bytes.drop start) <;>
            simp [step, decoder, valueText, reading, Integer.readOrZero]
      | mediaSequence =>
          cases reading : Integer.read (record.bytes.drop start) <;>
            simp [step, decoder, valueText, reading, Integer.readOrZero]
      | endList => simp [step, decoder]
      | extInf =>
          cases reading : Micros.read (extInfFields (record.bytes.drop start)).1 <;>
            simp [step, decoder, durationText, reading, Micros.readOrZero]
      | streamInf =>
          cases reading : Bandwidth.read (record.bytes.drop start) <;>
            simp [step, decoder, valueText, reading]
      | unsupported => simp [step, decoder]
      | comment => simp [step, decoder]
      | uri =>
          cases duration : replay.pendingDuration with
          | some value =>
              simp [step, decoder, duration, Decoder.takeUri, Decoder.recordSpan,
                Store.writeAll_append]
          | none =>
              cases bandwidth : replay.pendingBandwidth <;>
                simp [step, decoder, duration, bandwidth, Decoder.takeUri,
                  Decoder.recordSpan, Store.writeAll_append]

/-- Over records that stand in `data`, the playlist reader and the replay of their events stay
alike. -/
theorem foldl_advance_decoder {data : Bytes} (segmentCapacity variantCapacity : Nat)
    (records : List Record)
    (occur : ∀ record ∈ records, Bytes.OccursAt data record.bytes record.offset)
    (replay : Replay) :
    records.foldl Decoder.advance (decoder segmentCapacity variantCapacity replay) =
      decoder segmentCapacity variantCapacity
        ((records.map ofRecord).foldl (step data) replay) := by
  induction records generalizing replay with
  | nil => rfl
  | cons record rest ih =>
      rw [List.foldl_cons, advance_decoder (occur record (by simp)), ih]
      · rfl
      · exact fun later member => occur later (by simp [member])

end Replay

theorem list_of_openingError {data : Bytes} {error : ManifestError}
    (failed : openingError? data = some error) : list data = .error error := by
  simp [list, failed]

theorem list_of_opened {data : Bytes} (opened : openingError? data = none) :
    list data = .ok ((Record.body data).map ofRecord) := by
  simp [list, opened]

theorem decodeInto_eq_error_iff (data : Bytes) (room : Nat) (error : ManifestError) :
    decodeInto data room = .error error ↔ openingError? data = some error := by
  cases opening : openingError? data with
  | some failure =>
      simp [decodeInto, list_of_openingError opening, bind, Except.bind]
  | none =>
      simp [decodeInto, list_of_opened opening, bind, Except.bind, pure, Except.pure]

end Event

namespace Playlist

theorem decode_eq_error_iff (data : Bytes) (segmentCapacity variantCapacity : Nat)
    (error : ManifestError) :
    decode data segmentCapacity variantCapacity false = .error error ↔
      openingError? data = some error := by
  cases opening : openingError? data with
  | some failure =>
      simp [decode_of_openingError data segmentCapacity variantCapacity opening]
  | none =>
      simp [decode_lenient segmentCapacity variantCapacity opening]

end Playlist

namespace Event

/-- The line events refine the playlist reader: counting the events fails exactly when lenient
reading fails, with the same error, and otherwise replaying the events gives the playlist's header
values and counts, and its kept items are the first ones replayed. -/
theorem events_refine_decode (data : Bytes) (segmentCapacity variantCapacity : Nat) :
    (∀ error, decodeInto data 0 = .error error ↔
      Playlist.decode data segmentCapacity variantCapacity false = .error error) ∧
    ∀ playlist, Playlist.decode data segmentCapacity variantCapacity false = .ok playlist →
      ∃ events, list data = .ok events ∧
        (Replay.run data events).targetDuration = playlist.targetDuration ∧
        (Replay.run data events).sequenceNumber = playlist.sequenceNumber ∧
        (Replay.run data events).closed = playlist.closed ∧
        (Replay.run data events).segments.length = playlist.segments.total ∧
        (Replay.run data events).variants.length = playlist.variants.total ∧
        playlist.segments.items = (Replay.run data events).segments.take segmentCapacity ∧
        playlist.variants.items = (Replay.run data events).variants.take variantCapacity := by
  refine ⟨fun error => ?_, fun playlist accepted => ?_⟩
  · rw [decodeInto_eq_error_iff, Playlist.decode_eq_error_iff]
  · cases opening : openingError? data with
    | some failure =>
        rw [Playlist.decode_of_openingError data segmentCapacity variantCapacity opening] at accepted
        cases accepted
    | none =>
        rw [Playlist.decode_lenient segmentCapacity variantCapacity opening,
          ← Replay.decoder_empty,
          Replay.foldl_advance_decoder segmentCapacity variantCapacity (Record.body data)
            (fun _ member => Record.occursAt_of_mem_body member)]
          at accepted
        cases accepted
        refine ⟨_, list_of_opened opening, rfl, rfl, rfl, ?_, ?_, ?_, ?_⟩
        · simp [Replay.run, Replay.decoder, Store.total_writeAll, Store.empty]
        · simp [Replay.run, Replay.decoder, Store.total_writeAll, Store.empty]
        · exact Store.items_writeAll _ _
        · exact Store.items_writeAll _ _

/-- Two segments read with room for one: the events replay to both, and the playlist keeps the
first one replayed. -/
theorem events_refine_decode_first_of_two :
    let data := Bytes.ofString "#EXTM3U\n#EXTINF:1,\na\n#EXTINF:2,\nb\n"
    ∃ events, list data = .ok events ∧ (Replay.run data events).segments.length = 2 ∧
      (Replay.run data events).segments.take 1 = [⟨1000000, ⟨19, 1⟩⟩] := by
  intro data
  have accepted : Playlist.decode data 1 0 false =
      .ok ⟨0, 0, false, ⟨1, [⟨1000000, ⟨19, 1⟩⟩], 2⟩, ⟨0, [], 0⟩⟩ := by
    decide +kernel
  obtain ⟨events, listed, -, -, -, counted, -, kept, -⟩ :=
    (events_refine_decode data 1 0).2 _ accepted
  exact ⟨events, listed, counted, kept.symm⟩

end Event

end HlsManifest
