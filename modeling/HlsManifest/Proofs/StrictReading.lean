import HlsManifest.Proofs.DecoderRun
import HlsManifest.Proofs.RecordLayout

/-!
# Strict and lenient reading

Both modes check the opening of a buffer first: an empty buffer is an invalid argument and a first
line other than `#EXTM3U` a malformed header, whatever follows. After that the modes differ only
on tags the library does not support. Without one, strict reading gives what lenient reading
gives; with one, strict reading fails on the first, naming its raw line number (blank lines
counted) and its text, while lenient reading still succeeds.

The line number is the point of `strict_rejects_first_unsupported`: the reader only sees the
non-empty records after the header, so the number comes from the record layout
(`Record.line_of_split_eq`), not from the position among the records read.
-/

set_option autoImplicit false

namespace HlsManifest

namespace Playlist

section Capacities

variable (segmentCapacity variantCapacity : Nat)

/-- Without an unsupported tag after the header, strict reading is lenient reading. -/
theorem decode_strict_eq_lenient {data : Bytes} (opened : openingError? data = none)
    (supported : ∀ line ∈ (Record.lines data).drop 1, Directive.classify line ≠ .unsupported) :
    decode data segmentCapacity variantCapacity true =
      decode data segmentCapacity variantCapacity false := by
  have recordsSupported : ∀ record ∈ Record.body data,
      Directive.classify record.bytes ≠ .unsupported := by
    intro record member
    apply supported
    rw [← Record.map_bytes_split, ← List.map_drop]
    exact List.mem_map_of_mem (List.mem_filter.mp member).1
  rw [decode_eq_foldlM segmentCapacity variantCapacity opened,
    Decoder.foldlM_step_strict_of_supported _ _ recordsSupported,
    decode_lenient segmentCapacity variantCapacity opened]
  rfl

/-- Strict reading fails on the first unsupported tag after the header, with its raw line number
and its text. -/
theorem strict_rejects_first_unsupported {data : Bytes} (opened : openingError? data = none)
    {earlier later : List Bytes} {line : Bytes}
    (lines_eq : Record.lines data = earlier ++ line :: later) (header : earlier ≠ [])
    (supported : ∀ other ∈ earlier.drop 1, Directive.classify other ≠ .unsupported)
    (unsupported : Directive.classify line = .unsupported) :
    decode data segmentCapacity variantCapacity true =
      .error (.unsupportedDirective (earlier.length + 1) line) := by
  -- cut the records where the lines are cut
  rw [← Record.map_bytes_split, List.map_eq_append_iff] at lines_eq
  obtain ⟨before, rest, split_eq, before_bytes, rest_bytes⟩ := lines_eq
  rw [List.map_eq_cons_iff] at rest_bytes
  obtain ⟨record, after, rfl, record_bytes, -⟩ := rest_bytes
  have numbered := Record.line_of_split_eq split_eq
  have lengths : before.length = earlier.length := by rw [← before_bytes, List.length_map]
  have beforeNonempty : 1 ≤ before.length := by
    have := List.length_pos_iff.mpr header
    omega
  -- the unsupported record is not blank, so it is read, after the blank-free records before it
  have nonblank : record.bytes.isEmpty = false := by
    cases blank : record.bytes with
    | nil =>
        rw [record_bytes] at blank
        simp [blank, Directive.classify, Directive.recognize] at unsupported
    | cons _ _ => rfl
  have body_eq : Record.body data =
      ((before.drop 1).filter fun record => !record.bytes.isEmpty) ++
        record :: (after.filter fun record => !record.bytes.isEmpty) := by
    rw [Record.body, split_eq, List.drop_append_of_le_length beforeNonempty, List.filter_append,
      List.filter_cons_of_pos (by simp [nonblank])]
  have beforeSupported : ∀ previous ∈ (before.drop 1).filter fun record => !record.bytes.isEmpty,
      Directive.classify previous.bytes ≠ .unsupported := by
    intro previous member
    apply supported
    rw [← before_bytes, ← List.map_drop]
    exact List.mem_map_of_mem (List.mem_filter.mp member).1
  rw [decode_eq_foldlM segmentCapacity variantCapacity opened, body_eq,
    Decoder.foldlM_step_strict_unsupported _ _ _ _ beforeSupported (record_bytes ▸ unsupported),
    numbered, lengths, record_bytes]
  rfl

end Capacities

/-- Strict against lenient reading, and the classes of their errors. Both modes refuse an empty
buffer as an invalid argument and a first line other than `#EXTM3U` as a malformed header, before
any later line is looked at. Past the header, lenient reading succeeds; strict reading agrees with
it when no line after the header is an unsupported tag, and otherwise fails on the first such line
with the message `line N: Q: unsupported directive`, `N` its raw line number and `Q` its quoted
text. -/
theorem decode_strict_lenient (data : Bytes) (segmentCapacity variantCapacity : Nat) :
    (data = [] → ∀ strict, decode data segmentCapacity variantCapacity strict =
        .error .invalidArgument ∧ ManifestError.invalidArgument.status = -1) ∧
    (data ≠ [] → Record.header data ≠ Directive.header → ∀ strict,
        decode data segmentCapacity variantCapacity strict = .error .malformedHeader ∧
          ManifestError.malformedHeader.status = -2) ∧
    (data ≠ [] → Record.header data = Directive.header →
      (∃ playlist, decode data segmentCapacity variantCapacity false = .ok playlist) ∧
      ((∀ line ∈ (Record.lines data).drop 1, Directive.classify line ≠ .unsupported) →
        decode data segmentCapacity variantCapacity true =
          decode data segmentCapacity variantCapacity false) ∧
      ∀ (earlier later : List Bytes) (line : Bytes),
        Record.lines data = earlier ++ line :: later → earlier ≠ [] →
        (∀ other ∈ earlier.drop 1, Directive.classify other ≠ .unsupported) →
        Directive.classify line = .unsupported →
        decode data segmentCapacity variantCapacity true =
            .error (.unsupportedDirective (earlier.length + 1) line) ∧
          (ManifestError.unsupportedDirective (earlier.length + 1) line).status = -3 ∧
          (ManifestError.unsupportedDirective (earlier.length + 1) line).message =
            "line " ++ Text.ofNat (earlier.length + 1) ++ ": " ++ Quoted.render line ++
              ": unsupported directive") := by
  refine ⟨?_, ?_, ?_⟩
  · rintro rfl strict
    exact ⟨decode_of_openingError [] segmentCapacity variantCapacity openingError?_nil strict, rfl⟩
  · intro nonempty header strict
    exact ⟨decode_of_openingError data segmentCapacity variantCapacity
      (openingError?_of_header_ne nonempty header) strict, rfl⟩
  · intro nonempty header
    have opened := openingError?_eq_none nonempty header
    refine ⟨⟨_, decode_lenient segmentCapacity variantCapacity opened⟩,
      decode_strict_eq_lenient segmentCapacity variantCapacity opened, ?_⟩
    intro earlier later line lines_eq headerFirst supported unsupported
    exact ⟨strict_rejects_first_unsupported segmentCapacity variantCapacity opened lines_eq
      headerFirst supported unsupported, rfl, rfl⟩

theorem decode_strict_lenient_version_tag :
    Record.lines (Bytes.ofString "#EXTM3U\n\n#EXT-X-VERSION:3\n") =
        [Bytes.ofString "#EXTM3U", []] ++ Bytes.ofString "#EXT-X-VERSION:3" :: [[]] ∧
      Directive.classify (Bytes.ofString "#EXT-X-VERSION:3") = .unsupported ∧
      decode (Bytes.ofString "#EXTM3U\n\n#EXT-X-VERSION:3\n") 0 0 true =
        .error (.unsupportedDirective 3 (Bytes.ofString "#EXT-X-VERSION:3")) :=
  ⟨by decide +kernel, by decide +kernel,
    ((decode_strict_lenient (Bytes.ofString "#EXTM3U\n\n#EXT-X-VERSION:3\n") 0 0).2.2
      (by decide +kernel) (by decide +kernel)).2.2 [Bytes.ofString "#EXTM3U", []] [[]]
      (Bytes.ofString "#EXT-X-VERSION:3") (by decide +kernel) (by simp)
      (by decide +kernel) (by decide +kernel) |>.1⟩

end Playlist

end HlsManifest
