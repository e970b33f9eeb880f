import HlsManifest.Proofs.DecodeMeaning

/-!
# Capacity only truncates

The capacities of a playlist bound how many segments and variants it keeps, and nothing else.
Where a run of the reader fails does not depend on the state it starts from
(`Decoder.foldlM_step_eq_map`), and what it builds is the records' own state
(`Meaning.state`), in which the capacities only cut the two item lists. So reading with some
capacities is reading with any others, the playlist rebuilt for the new ones
(`decode_eq_map_state`).

Main statement: `decode_capacity_only_truncates`, that the verdict, the error, the header values
and the counts do not depend on the capacities, that the kept items are the first ones of a
reading that keeps them all, and that a playlist is truncated exactly when a count passes its
capacity.
-/

set_option autoImplicit false

namespace HlsManifest

namespace Store

variable {α : Type}

theorem capacity_writeAll (store : Store α) (items : List α) :
    (store.writeAll items).capacity = store.capacity := by
  induction items generalizing store with
  | nil => rfl
  | cons item rest ih =>
    simp only [writeAll, List.foldl_cons] at ih ⊢
    rw [ih, capacity_write]

theorem total_writeAll_empty (capacity : Nat) (items : List α) :
    ((empty capacity : Store α).writeAll items).total = items.length := by
  simp [total_writeAll, empty]

theorem length_items_writeAll (capacity : Nat) (items : List α) :
    ((empty capacity : Store α).writeAll items).items.length = min capacity items.length := by
  rw [items_writeAll, List.length_take]

theorem items_writeAll_of_length_le {capacity : Nat} {items : List α}
    (fits : items.length ≤ capacity) : ((empty capacity : Store α).writeAll items).items = items := by
  rw [items_writeAll, List.take_of_length_le fits]

theorem truncated_writeAll (capacity : Nat) (items : List α) :
    ((empty capacity : Store α).writeAll items).truncated = decide (capacity < items.length) := by
  simp only [truncated, length_items_writeAll, total_writeAll_empty]
  by_cases room : capacity < items.length
  · simp [room, Nat.min_eq_left (Nat.le_of_lt room)]
  · simp [room, Nat.min_eq_right (Nat.le_of_not_lt room)]

end Store

namespace Decoder

/-- Whether a run fails, and with which error, does not depend on the state it starts from: a
step fails on its record and mode alone. -/
theorem foldlM_step_eq_map (strict : Bool) (records : List Record) (start other : Decoder) :
    records.foldlM (step strict) start =
      (records.foldlM (step strict) other).map fun _ => records.foldl advance start := by
  induction records generalizing start other with
  | nil => rfl
  | cons record rest ih =>
    simp only [List.foldlM_cons, step_eq, List.foldl_cons]
    by_cases refused : strict = true ∧ Directive.classify record.bytes = .unsupported
    · simp [refused, bind, Except.bind, Except.map]
    · simp only [refused, ↓reduceIte, bind, Except.bind]
      exact ih (advance start record) (advance other record)

end Decoder

theorem Except.map_eq_error_iff {ε α β : Type} (f : α → β) (result : Except ε α) (error : ε) :
    result.map f = .error error ↔ result = .error error := by
  cases result <;> simp [Except.map]

namespace Playlist

section Capacities

variable {data : Bytes} {strict : Bool}

/-- Reading with some capacities is reading with any others, with the playlist the records
describe for the first ones. -/
theorem decode_eq_map_state (data : Bytes) (strict : Bool)
    (segmentCapacity variantCapacity otherSegments otherVariants : Nat) :
    decode data segmentCapacity variantCapacity strict =
      (decode data otherSegments otherVariants strict).map fun _ =>
        (Meaning.state segmentCapacity variantCapacity (Record.body data)).playlist := by
  cases opening : openingError? data with
  | some error =>
    rw [decode_of_openingError data _ _ opening, decode_of_openingError data _ _ opening]
    rfl
  | none =>
    rw [decode_eq_foldlM _ _ opening, decode_eq_foldlM _ _ opening,
      Decoder.foldlM_step_eq_map strict _ _ (Decoder.start otherSegments otherVariants),
      Meaning.foldl_advance_eq_state]
    cases (Record.body data).foldlM (Decoder.step strict) (Decoder.start otherSegments otherVariants) <;>
      rfl

theorem eq_state_of_decode {segmentCapacity variantCapacity : Nat} {playlist : Playlist}
    (accepted : decode data segmentCapacity variantCapacity strict = .ok playlist) :
    playlist = (Meaning.state segmentCapacity variantCapacity (Record.body data)).playlist := by
  have same := decode_eq_map_state data strict segmentCapacity variantCapacity
    segmentCapacity variantCapacity
  rw [accepted] at same
  exact Except.ok.inj same

theorem decode_ok_of_decode_ok {segmentCapacity variantCapacity : Nat} {playlist : Playlist}
    (accepted : decode data segmentCapacity variantCapacity strict = .ok playlist)
    (otherSegments otherVariants : Nat) :
    decode data otherSegments otherVariants strict =
      .ok (Meaning.state otherSegments otherVariants (Record.body data)).playlist := by
  rw [decode_eq_map_state data strict otherSegments otherVariants segmentCapacity variantCapacity,
    accepted]
  rfl

end Capacities

/-- Capacities only truncate. Whether reading fails and with which error, and the target
duration, sequence number, closed flag and counts of what it reads, are the same for all
capacities; the kept segments and variants are the first ones, in source order, of a reading
whose capacities reach the counts; a playlist is truncated exactly when a count passes its
capacity; and reading again with the counts of a reading that kept nothing keeps every item. -/
theorem decode_capacity_only_truncates (data : Bytes) (strict : Bool)
    (segmentCapacity variantCapacity otherSegments otherVariants : Nat) :
    (∀ error, decode data segmentCapacity variantCapacity strict = .error error ↔
      decode data otherSegments otherVariants strict = .error error) ∧
    (∀ playlist other, decode data segmentCapacity variantCapacity strict = .ok playlist →
      decode data otherSegments otherVariants strict = .ok other →
      playlist.targetDuration = other.targetDuration ∧
        playlist.sequenceNumber = other.sequenceNumber ∧ playlist.closed = other.closed ∧
        playlist.segments.total = other.segments.total ∧
        playlist.variants.total = other.variants.total) ∧
    (∀ playlist full, decode data segmentCapacity variantCapacity strict = .ok playlist →
      decode data otherSegments otherVariants strict = .ok full →
      full.segments.total ≤ otherSegments → full.variants.total ≤ otherVariants →
      full.segments.items.length = full.segments.total ∧
        full.variants.items.length = full.variants.total ∧
        playlist.segments.items = full.segments.items.take segmentCapacity ∧
        playlist.variants.items = full.variants.items.take variantCapacity ∧
        playlist.segments.items.length = min segmentCapacity playlist.segments.total ∧
        playlist.variants.items.length = min variantCapacity playlist.variants.total) ∧
    (∀ playlist, decode data segmentCapacity variantCapacity strict = .ok playlist →
      (playlist.truncated = true ↔
        segmentCapacity < playlist.segments.total ∨ variantCapacity < playlist.variants.total)) ∧
    (∀ counts, decode data 0 0 strict = .ok counts →
      ∃ full, decode data counts.segments.total counts.variants.total strict = .ok full ∧
        full.segments.items.length = full.segments.total ∧
        full.variants.items.length = full.variants.total ∧ full.truncated = false) := by
  refine ⟨fun error => ?_, ?_, ?_, ?_, ?_⟩
  · rw [decode_eq_map_state data strict segmentCapacity variantCapacity otherSegments otherVariants,
      Except.map_eq_error_iff]
  · rintro playlist other accepted acceptedOther
    rw [eq_state_of_decode accepted, eq_state_of_decode acceptedOther]
    simp [Meaning.state, Store.total_writeAll_empty]
  · rintro playlist full accepted acceptedFull segmentsFit variantsFit
    rw [eq_state_of_decode acceptedFull] at segmentsFit variantsFit ⊢
    rw [eq_state_of_decode accepted]
    simp only [Meaning.state, Store.total_writeAll_empty] at segmentsFit variantsFit ⊢
    -- with room for every item, the full reading keeps the whole list
    rw [Store.items_writeAll_of_length_le segmentsFit, Store.items_writeAll_of_length_le variantsFit]
    exact ⟨rfl, rfl, Store.items_writeAll _ _, Store.items_writeAll _ _,
      Store.length_items_writeAll _ _, Store.length_items_writeAll _ _⟩
  · intro playlist accepted
    rw [eq_state_of_decode accepted]
    simp [Meaning.state, truncated, Store.truncated_writeAll, Store.total_writeAll_empty]
  · intro counts accepted
    refine ⟨_, decode_ok_of_decode_ok accepted _ _, ?_⟩
    rw [eq_state_of_decode accepted]
    simp [Meaning.state, truncated, Store.truncated_writeAll, Store.total_writeAll_empty,
      Store.length_items_writeAll]

/-- Two segments read with room for one keep the first of the two that room for both keeps, and
the reading is truncated. -/
theorem decode_capacity_only_truncates_first_of_two :
    let data := Bytes.ofString "#EXTM3U\n#EXTINF:1,\na\n#EXTINF:2,\nb\n"
    ∃ playlist full, decode data 1 0 false = .ok playlist ∧ decode data 2 0 false = .ok full ∧
      playlist.segments.items = full.segments.items.take 1 ∧ playlist.truncated = true := by
  intro data
  have accepted : decode data 1 0 false =
      .ok ⟨0, 0, false, ⟨1, [⟨1000000, ⟨19, 1⟩⟩], 2⟩, ⟨0, [], 0⟩⟩ := by
    decide +kernel
  have acceptedFull : decode data 2 0 false = .ok
      ⟨0, 0, false, ⟨2, [⟨1000000, ⟨19, 1⟩⟩, ⟨2000000, ⟨32, 1⟩⟩], 2⟩, ⟨0, [], 0⟩⟩ := by
    decide +kernel
  have facts := decode_capacity_only_truncates data false 1 0 2 0
  obtain ⟨-, -, kept, -⟩ := facts.2.2.1 _ _ accepted acceptedFull (by decide) (by decide)
  exact ⟨_, _, accepted, acceptedFull, kept, (facts.2.2.2.1 _ accepted).mpr (Or.inl (by decide))⟩

end Playlist

end HlsManifest
