import HlsManifest.Proofs.Capacity

/-!
# Reading into one playlist again and again

A playlist can be read into many times, each time with the capacities it was made with. The
reading stores its items into the arrays behind the playlist's segments and variants as it goes,
and sets the other fields only when it succeeds. So a call that succeeds leaves exactly the
playlist a fresh reading gives, and nothing of earlier calls survives; a call that fails leaves
every field as it was, with as many items shown as before (`KeepsFields`), though the items
stored before the failure may show through. Between calls the playlist is `Sized`: it keeps its
capacities, and as many items as they allow of those it counted.

A reading that fails stops at the record that failed (`Decoder.run`); `foldlM_step_eq_run` ties
that run to the reading that `decode` does. `Sized.redecode` is the step lemma and
`Sized.redecodeAll` the run lemma. Main statement: `redecode_reused_playlist`.
-/

set_option autoImplicit false

namespace HlsManifest

namespace Playlist

/-- What a playlist made with given capacities keeps between calls. -/
structure Sized (segmentCapacity variantCapacity : Nat) (playlist : Playlist) : Prop where
  segmentCapacity_eq : playlist.segments.capacity = segmentCapacity
  variantCapacity_eq : playlist.variants.capacity = variantCapacity
  keptSegments : playlist.segments.items.length = min segmentCapacity playlist.segments.total
  keptVariants : playlist.variants.items.length = min variantCapacity playlist.variants.total

/-- The fields a failed call leaves as they were: the target duration, the sequence number, whether
the playlist is closed, the counts of segments and variants, and how many of each it shows. -/
structure KeepsFields (before after : Playlist) : Prop where
  targetDuration : after.targetDuration = before.targetDuration
  sequenceNumber : after.sequenceNumber = before.sequenceNumber
  closed : after.closed = before.closed
  segmentCount : after.segments.total = before.segments.total
  variantCount : after.variants.total = before.variants.total
  shownSegments : after.segments.items.length = before.segments.items.length
  shownVariants : after.variants.items.length = before.variants.items.length

theorem keepsFields_refl (playlist : Playlist) : KeepsFields playlist playlist :=
  ⟨rfl, rfl, rfl, rfl, rfl, rfl, rfl⟩

/-- A reading stopped early has the error of the record it stopped at; one that read every record
has the decoder they left. -/
theorem foldlM_step_eq_run (strict : Bool) (records : List Record) (state : Decoder) :
    records.foldlM (Decoder.step strict) state =
      match Decoder.run strict state records with
      | (final, none) => .ok final
      | (_, some error) => .error error := by
  induction records generalizing state with
  | nil => rfl
  | cons record rest ih =>
    rw [List.foldlM_cons, Decoder.run]
    cases stepped : Decoder.step strict state record with
    | error error => rfl
    | ok next => exact ih next

section Sized

variable {segmentCapacity variantCapacity : Nat}

theorem sized_empty (segmentCapacity variantCapacity : Nat) :
    Sized segmentCapacity variantCapacity (empty segmentCapacity variantCapacity) where
  segmentCapacity_eq := rfl
  variantCapacity_eq := rfl
  keptSegments := by simp [empty, Store.empty]
  keptVariants := by simp [empty, Store.empty]

theorem sized_of_decode {data : Bytes} {strict : Bool} {playlist : Playlist}
    (accepted : decode data segmentCapacity variantCapacity strict = .ok playlist) :
    Sized segmentCapacity variantCapacity playlist := by
  rw [eq_state_of_decode accepted]
  exact {
    segmentCapacity_eq := Store.capacity_writeAll _ _
    variantCapacity_eq := Store.capacity_writeAll _ _
    keptSegments := by
      simp only [Meaning.state, Store.length_items_writeAll, Store.total_writeAll_empty]
    keptVariants := by
      simp only [Meaning.state, Store.length_items_writeAll, Store.total_writeAll_empty] }

/-- One call on a sized playlist. When the reading succeeds, the call leaves what it read; when it
fails, it gives the error and moves none of the fields a failed call keeps, nor the capacities. -/
theorem redecode_eq {playlist : Playlist} (sized : Sized segmentCapacity variantCapacity playlist)
    (data : Bytes) (strict : Bool) :
    match decode data segmentCapacity variantCapacity strict with
    | .ok fresh => playlist.redecode data strict = (fresh, none)
    | .error error => (playlist.redecode data strict).2 = some error ∧
        KeepsFields playlist (playlist.redecode data strict).1 ∧
        (playlist.redecode data strict).1.segments.capacity = playlist.segments.capacity ∧
        (playlist.redecode data strict).1.variants.capacity = playlist.variants.capacity := by
  -- the capacities of the playlist are those the reading is compared with
  obtain ⟨rfl, rfl, -, -⟩ := sized
  cases opening : openingError? data with
  | some error =>
    rw [decode_of_openingError data _ _ opening strict]
    unfold redecode
    rw [opening]
    exact ⟨rfl, keepsFields_refl playlist, rfl, rfl⟩
  | none =>
    have read :=
      decode_eq_foldlM playlist.segments.capacity playlist.variants.capacity opening strict
    rw [foldlM_step_eq_run] at read
    unfold redecode
    rw [opening]
    rcases ran : Decoder.run strict
        (Decoder.start playlist.segments.capacity playlist.variants.capacity)
        (Record.body data) with ⟨reached, _ | error⟩
    · rw [ran] at read
      rw [read]
      rfl
    · rw [ran] at read
      rw [read]
      -- the items stored before the failure show through, but no field moves
      exact ⟨rfl,
        ⟨rfl, rfl, rfl, rfl, rfl, Store.length_overwrite _ _, Store.length_overwrite _ _⟩, rfl, rfl⟩

theorem Sized.redecode {playlist : Playlist}
    (sized : Sized segmentCapacity variantCapacity playlist) (data : Bytes) (strict : Bool) :
    Sized segmentCapacity variantCapacity (playlist.redecode data strict).1 := by
  have called := redecode_eq sized data strict
  cases accepted : decode data segmentCapacity variantCapacity strict with
  | ok fresh =>
    rw [accepted] at called
    rw [called]
    exact sized_of_decode accepted
  | error error =>
    rw [accepted] at called
    obtain ⟨-, kept, segmentsKept, variantsKept⟩ := called
    exact {
      segmentCapacity_eq := segmentsKept.trans sized.segmentCapacity_eq
      variantCapacity_eq := variantsKept.trans sized.variantCapacity_eq
      keptSegments := by rw [kept.shownSegments, kept.segmentCount, sized.keptSegments]
      keptVariants := by rw [kept.shownVariants, kept.variantCount, sized.keptVariants] }

theorem Sized.redecodeAll {playlist : Playlist}
    (sized : Sized segmentCapacity variantCapacity playlist) (calls : List (Bytes × Bool)) :
    Sized segmentCapacity variantCapacity (playlist.redecodeAll calls) := by
  induction calls generalizing playlist with
  | nil => exact sized
  | cons call rest ih =>
    simp only [Playlist.redecodeAll, List.foldl_cons] at ih ⊢
    exact ih (sized.redecode call.1 call.2)

end Sized

/-- A playlist read into again and again. Whatever calls came before, the playlist keeps the
capacities it was made with and as many items as they allow. The next call that succeeds leaves
exactly what a fresh reading with those capacities gives. The next call that fails gives the error
of that reading and keeps the scalar fields, the counts and the number of items shown, while the
items themselves may be those the failed reading stored. -/
theorem redecode_reused_playlist (segmentCapacity variantCapacity : Nat)
    (calls : List (Bytes × Bool)) (data : Bytes) (strict : Bool) :
    Sized segmentCapacity variantCapacity
        ((empty segmentCapacity variantCapacity).redecodeAll calls) ∧
      Sized segmentCapacity variantCapacity
        (((empty segmentCapacity variantCapacity).redecodeAll calls).redecode data strict).1 ∧
      match decode data segmentCapacity variantCapacity strict with
      | .ok fresh =>
        ((empty segmentCapacity variantCapacity).redecodeAll calls).redecode data strict =
          (fresh, none)
      | .error error =>
        (((empty segmentCapacity variantCapacity).redecodeAll calls).redecode data strict).2 =
            some error ∧
          KeepsFields ((empty segmentCapacity variantCapacity).redecodeAll calls)
            (((empty segmentCapacity variantCapacity).redecodeAll calls).redecode data
              strict).1 := by
  have before := (sized_empty segmentCapacity variantCapacity).redecodeAll calls
  have called := redecode_eq before data strict
  refine ⟨before, before.redecode data strict, ?_⟩
  cases accepted : decode data segmentCapacity variantCapacity strict with
  | ok fresh =>
    rw [accepted] at called
    exact called
  | error error =>
    rw [accepted] at called
    exact ⟨called.1, called.2.1⟩

/-- A playlist of one segment read again, strictly, from a manifest that stops at an unsupported
tag: the call fails and keeps the fields, while the segment it shows is the one the failed reading
stored. -/
theorem redecode_reused_playlist_after_unsupported_tag :
    let before := (empty 4 4).redecodeAll [(Bytes.ofString "#EXTM3U\n#EXTINF:1,\na.ts\n", false)]
    let after := before.redecode (Bytes.ofString "#EXTM3U\n#EXTINF:2,\nb.ts\n#EXT-X-FOO\n") true
    after.2 = some (.unsupportedDirective 4 (Bytes.ofString "#EXT-X-FOO")) ∧
      KeepsFields before after.1 ∧ after.1.segments.items.map Segment.duration = [2000000] := by
  intro before after
  have failed : decode (Bytes.ofString "#EXTM3U\n#EXTINF:2,\nb.ts\n#EXT-X-FOO\n")
      ((4 : Nat) : Int) ((4 : Nat) : Int) true =
      .error (.unsupportedDirective 4 (Bytes.ofString "#EXT-X-FOO")) := by
    decide +kernel
  have called := (redecode_reused_playlist 4 4
    [(Bytes.ofString "#EXTM3U\n#EXTINF:1,\na.ts\n", false)]
    (Bytes.ofString "#EXTM3U\n#EXTINF:2,\nb.ts\n#EXT-X-FOO\n") true).2.2
  rw [failed] at called
  exact ⟨called.1, called.2, by decide +kernel⟩

end Playlist

end HlsManifest
