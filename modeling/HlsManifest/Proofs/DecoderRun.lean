import HlsManifest.Playlist.Decode

/-!
# Runs of the playlist reader

Reading a manifest folds `Decoder.step` over the non-empty records after the header. The step
can fail in one way only: strict reading of an unsupported tag. `advance` is the step with that
failure taken out, and `step_eq` says the real step is `advance` wherever it does not fail. A
run is therefore either the fold of `advance` or, in strict reading, the error of the first
unsupported record (`foldlM_step_strict_of_supported`, `foldlM_step_strict_unsupported`).

The opening checks come first: `decode_of_openingError` says their error is the answer whatever
follows, and after them lenient reading always succeeds (`decode_lenient`).
-/

set_option autoImplicit false

namespace HlsManifest

namespace Store

variable {α : Type}

@[simp] theorem writeAll_nil (store : Store α) : store.writeAll [] = store := rfl

@[simp] theorem writeAll_singleton (store : Store α) (item : α) :
    store.writeAll [item] = store.write item := rfl

theorem writeAll_append (store : Store α) (first second : List α) :
    store.writeAll (first ++ second) = (store.writeAll first).writeAll second := by
  simp [writeAll, List.foldl_append]

end Store

namespace Decoder

/-- Reads one non-empty record after the header, skipping a tag that is not supported: the
step of lenient reading, as a function. -/
def advance (state : Decoder) (record : Record) : Decoder :=
  let value := Directive.value record.bytes
  match Directive.classify record.bytes with
  | .targetDuration =>
    match Integer.read value with
    | some reading =>
      { state with
        playlist := { state.playlist with
          targetDuration := Int64Range.scale Micros.perSecond reading.value } }
    | none => state
  | .mediaSequence =>
    match Integer.read value with
    | some reading => { state with playlist := { state.playlist with sequenceNumber := reading.value } }
    | none => state
  | .endList => { state with playlist := { state.playlist with closed := true } }
  | .extInf => { state with pendingDuration := (Micros.read (extInfFields value).1).map Reading.value }
  | .streamInf => { state with pendingBandwidth := Bandwidth.read value }
  | .unsupported => state
  | .comment => state
  | .uri => state.takeUri (recordSpan record)

/-- The step of reading fails exactly on an unsupported tag in strict reading, and otherwise
advances. -/
theorem step_eq (strict : Bool) (state : Decoder) (record : Record) :
    step strict state record =
      if strict ∧ Directive.classify record.bytes = .unsupported then
        .error (.unsupportedDirective record.line record.bytes)
      else .ok (advance state record) := by
  unfold step advance Directive.classify Directive.value
  rcases Directive.recognize record.bytes with ⟨kind, start⟩
  cases kind <;> cases strict <;> simp <;> cases Integer.read (List.drop start record.bytes) <;> rfl

theorem step_lenient (state : Decoder) (record : Record) :
    step false state record = .ok (advance state record) := by
  simp [step_eq]

theorem step_strict_of_supported {record : Record}
    (supported : Directive.classify record.bytes ≠ .unsupported) (state : Decoder) :
    step true state record = .ok (advance state record) := by
  simp [step_eq, supported]

/-- Whatever a successful run of either reading mode yields is the fold of `advance`. -/
theorem foldlM_step_ok {strict : Bool} (records : List Record) (start final : Decoder)
    (accepted : records.foldlM (step strict) start = .ok final) :
    final = records.foldl advance start := by
  induction records generalizing start with
  | nil =>
      simp only [List.foldlM_nil, pure, Except.pure, Except.ok.injEq] at accepted
      exact accepted.symm
  | cons record rest ih =>
      simp only [List.foldlM_cons, step_eq] at accepted
      by_cases refused : strict = true ∧ Directive.classify record.bytes = .unsupported
      · simp [refused, bind, Except.bind] at accepted
      · simp only [refused, ↓reduceIte, bind, Except.bind] at accepted
        exact ih (advance start record) accepted

theorem foldlM_step_lenient (records : List Record) (start : Decoder) :
    records.foldlM (step false) start = .ok (records.foldl advance start) := by
  induction records generalizing start with
  | nil => rfl
  | cons record rest ih =>
      simp only [List.foldlM_cons, step_lenient, List.foldl_cons]
      exact ih (advance start record)

theorem foldlM_step_strict_of_supported (records : List Record) (start : Decoder)
    (supported : ∀ record ∈ records, Directive.classify record.bytes ≠ .unsupported) :
    records.foldlM (step true) start = .ok (records.foldl advance start) := by
  induction records generalizing start with
  | nil => rfl
  | cons record rest ih =>
      have first := supported record (by simp)
      simp only [List.foldlM_cons, step_strict_of_supported first, List.foldl_cons]
      exact ih (advance start record) fun later member => supported later (by simp [member])

/-- Strict reading stops at its first unsupported record with that record's error. -/
theorem foldlM_step_strict_unsupported (before after : List Record) (record : Record)
    (start : Decoder)
    (supported : ∀ earlier ∈ before, Directive.classify earlier.bytes ≠ .unsupported)
    (unsupported : Directive.classify record.bytes = .unsupported) :
    (before ++ record :: after).foldlM (step true) start =
      .error (.unsupportedDirective record.line record.bytes) := by
  rw [List.foldlM_append, foldlM_step_strict_of_supported before start supported]
  simp [bind, Except.bind, step_eq, unsupported]

end Decoder

theorem openingError?_nil : openingError? [] = some .invalidArgument := rfl

theorem openingError?_of_header_ne {data : Bytes} (nonempty : data ≠ [])
    (header : Record.header data ≠ Directive.header) :
    openingError? data = some .malformedHeader := by
  simp [openingError?, nonempty, header]

theorem openingError?_eq_none {data : Bytes} (nonempty : data ≠ [])
    (header : Record.header data = Directive.header) : openingError? data = none := by
  simp [openingError?, nonempty, header]

namespace Playlist

@[simp] theorem capacity_segments_empty (segmentCapacity variantCapacity : Nat) :
    (empty segmentCapacity variantCapacity).segments.capacity = segmentCapacity := rfl

@[simp] theorem capacity_variants_empty (segmentCapacity variantCapacity : Nat) :
    (empty segmentCapacity variantCapacity).variants.capacity = variantCapacity := rfl

section Capacities

variable (data : Bytes) (segmentCapacity variantCapacity : Nat)

theorem decode_natCast (strict : Bool) :
    decode data segmentCapacity variantCapacity strict =
      (empty segmentCapacity variantCapacity).decodeInto data strict := by
  have notNegative : ¬((segmentCapacity : Int) < 0 ∨ (variantCapacity : Int) < 0) := by omega
  simp only [decode, notNegative, ↓reduceIte, Int.toNat_natCast]

/-- A failed opening check is the answer of both modes, before any later record is read. -/
theorem decode_of_openingError {error : ManifestError} (failed : openingError? data = some error)
    (strict : Bool) : decode data segmentCapacity variantCapacity strict = .error error := by
  simp [decode_natCast, decodeInto, failed]

theorem decode_eq_foldlM {data : Bytes} (opened : openingError? data = none) (strict : Bool) :
    decode data segmentCapacity variantCapacity strict =
      (do
        let final ← (Record.body data).foldlM (Decoder.step strict)
          (Decoder.start segmentCapacity variantCapacity)
        pure final.playlist) := by
  simp [decode_natCast, decodeInto, opened]

theorem decode_lenient {data : Bytes} (opened : openingError? data = none) :
    decode data segmentCapacity variantCapacity false =
      .ok ((Record.body data).foldl Decoder.advance
        (Decoder.start segmentCapacity variantCapacity)).playlist := by
  rw [decode_eq_foldlM segmentCapacity variantCapacity opened, Decoder.foldlM_step_lenient]
  rfl

/-- A successful read in either mode gives what lenient reading gives. -/
theorem decode_eq_lenient_of_ok {strict : Bool} {playlist : Playlist}
    (accepted : decode data segmentCapacity variantCapacity strict = .ok playlist) :
    decode data segmentCapacity variantCapacity false = .ok playlist := by
  cases opening : openingError? data with
  | some error =>
      rw [decode_of_openingError data segmentCapacity variantCapacity opening] at accepted
      cases accepted
  | none =>
      rw [decode_lenient segmentCapacity variantCapacity opening]
      rw [decode_eq_foldlM segmentCapacity variantCapacity opening] at accepted
      cases run : (Record.body data).foldlM (Decoder.step strict)
          (Decoder.start segmentCapacity variantCapacity) with
      | error error => simp [run, bind, Except.bind] at accepted
      | ok final =>
          simp only [run, bind, Except.bind, pure, Except.pure, Except.ok.injEq] at accepted
          rw [← Decoder.foldlM_step_ok _ _ _ run, accepted]

end Capacities

end Playlist

end HlsManifest
