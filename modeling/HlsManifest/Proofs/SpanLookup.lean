import HlsManifest.Proofs.RecordLayout
import HlsManifest.Playlist.Encode
import HlsManifest.Uri.Resolve

/-!
# Looking up a span

A span made by hand may carry any signed 64-bit offset and length. Its bytes are meant to be
there exactly when it lies inside the buffer (`Span.bytes?`), and the lookup `Span.read` gives
just that with two exceptions. When the offset and the length are not negative but their sum
passes the largest word, the end wraps around to a negative word, passes the bounds test, and
the lookup faults (`Span.Wraps`); `read_of_not_wraps` and `read_of_wraps` are the two halves. And
a cut of the nil buffer is nil, so the one span inside it, of length zero at offset zero, gives no
bytes. The text of a span, its resolution against a base and the writing of a playlist look spans
up and fault exactly where one of their lookups faults, and resolution takes a lookup that gives
no bytes for a span outside the buffer.

Main statements: `read_faults_iff_wraps`, the whole behaviour of the lookup and of its three
users on word spans, and `lookup_faults_on_wrap_and_rejects_nil_buffer`, all four faulting on the
span of offset `2^63 - 1` and length one, and resolution refusing the empty span of the nil
buffer.
-/

set_option autoImplicit false

namespace HlsManifest

namespace Span

/-- Whether the offset and the length are signed 64-bit words, as those of every span are. -/
def IsWord (span : Span) : Prop :=
  Int64Range.min ≤ span.offset ∧ span.offset ≤ Int64Range.max ∧
    Int64Range.min ≤ span.length ∧ span.length ≤ Int64Range.max

instance (span : Span) : Decidable span.IsWord := by
  unfold IsWord
  infer_instance

/-- Whether the end of a span wraps around: the offset and the length are not negative, and
their sum passes the largest word. -/
def Wraps (span : Span) : Prop :=
  0 ≤ span.offset ∧ 0 ≤ span.length ∧ Int64Range.max < span.offset + span.length

instance (span : Span) : Decidable span.Wraps := by
  unfold Wraps
  infer_instance

variable {span : Span}

theorem stop_of_wraps (word : span.IsWord) (wraps : span.Wraps) :
    span.stop = span.offset + span.length - ((Nat.pow 2 64 : Nat) : Int) := by
  obtain ⟨-, offsetHigh, -, lengthHigh⟩ := word
  obtain ⟨-, -, past⟩ := wraps
  have modulus : ((Nat.pow 2 64 : Nat) : Int) = 18446744073709551616 := rfl
  unfold stop Int64Range.wrap
  rw [← Int.sub_bmod_right]
  simp only [Int64Range.max] at offsetHigh lengthHigh past
  apply Int.bmod_eq_of_le <;> rw [modulus] <;> omega

theorem stop_neg_of_wraps (word : span.IsWord) (wraps : span.Wraps) : span.stop < 0 := by
  have modulus : ((Nat.pow 2 64 : Nat) : Int) = 18446744073709551616 := rfl
  rw [stop_of_wraps word wraps, modulus]
  obtain ⟨-, offsetHigh, -, lengthHigh⟩ := word
  simp only [Int64Range.max] at offsetHigh lengthHigh
  omega

/-- Without a wrap the lookup is exact: the bytes when the span lies inside a buffer that is
there, none otherwise. -/
theorem read_of_not_wraps (unwrapped : ¬span.Wraps) (data : Option Bytes) :
    span.read data = .ok (data.bind span.bytes?) := by
  by_cases negative : span.offset < 0 ∨ span.length < 0
  · have outside (bytes : Bytes) : ¬span.Inside bytes.length := by
      simp only [Inside]
      omega
    have refused : span.offset < 0 ∨ span.length < 0 ∨
        ((data.getD []).length : Int) < span.stop :=
      negative.elim Or.inl fun short => Or.inr (Or.inl short)
    rw [read, if_pos refused]
    cases data with
    | none => rfl
    | some bytes => rw [Option.bind_some, bytes?, if_neg (outside bytes)]
  · -- neither is negative, so the sum stays a word and the end is exact
    have fits : span.offset + span.length ≤ Int64Range.max := by
      simp only [Wraps] at unwrapped
      omega
    have exact := stop_of_mem (by simp only [Int64Range.min]; omega) fits
    by_cases inside : span.Inside (data.getD []).length
    · have passes : ¬(span.offset < 0 ∨ span.length < 0 ∨
          ((data.getD []).length : Int) < span.stop) := by
        simp only [Inside] at inside
        rw [exact]
        omega
      have notNegative : ¬span.stop < 0 := by
        rw [exact]
        omega
      rw [read, if_neg passes, if_neg notNegative]
      cases data with
      | none => rfl
      | some bytes =>
        rw [Option.map_some, Option.bind_some, bytes?,
          if_pos (show span.Inside bytes.length from inside)]
    · have pastEnd : ((data.getD []).length : Int) < span.stop := by
        simp only [Inside] at inside
        rw [exact]
        omega
      rw [read, if_pos (Or.inr (Or.inr pastEnd))]
      cases data with
      | none => rfl
      | some bytes =>
        rw [Option.bind_some, bytes?, if_neg (show ¬span.Inside bytes.length from inside)]

theorem read_of_wraps (word : span.IsWord) (wraps : span.Wraps) (data : Option Bytes) :
    span.read data = .error ⟨span.stop⟩ := by
  have below := stop_neg_of_wraps word wraps
  obtain ⟨offsetNonneg, lengthNonneg, -⟩ := wraps
  have passes :
      ¬(span.offset < 0 ∨ span.length < 0 ∨ ((data.getD []).length : Int) < span.stop) := by
    omega
  simp only [read, passes, below, ↓reduceIte]

theorem read_faults_iff (word : span.IsWord) (data : Option Bytes) :
    (∃ fault, span.read data = .error fault) ↔ span.Wraps := by
  constructor
  · rintro ⟨fault, faulted⟩
    by_cases wraps : span.Wraps
    · exact wraps
    · rw [read_of_not_wraps wraps] at faulted
      cases faulted
  · intro wraps
    exact ⟨_, read_of_wraps word wraps data⟩

theorem read_eq_map_of_not_wraps {data : Option Bytes} (unwrapped : ¬span.Wraps)
    (inside : span.Inside (data.getD []).length) :
    span.read data = .ok (data.map fun bytes =>
      (bytes.drop span.offset.toNat).take span.length.toNat) := by
  rw [read_of_not_wraps unwrapped]
  cases data with
  | none => rfl
  | some bytes =>
    rw [Option.bind_some, bytes?, if_pos (show span.Inside bytes.length from inside)]
    rfl

theorem read_eq_none_of_not_wraps {data : Option Bytes} (unwrapped : ¬span.Wraps)
    (outside : ¬span.Inside (data.getD []).length) : span.read data = .ok none := by
  rw [read_of_not_wraps unwrapped]
  cases data with
  | none => rfl
  | some bytes =>
    rw [Option.bind_some, bytes?, if_neg (show ¬span.Inside bytes.length from outside)]

theorem string_faults_iff (data : Option Bytes) :
    (∃ fault, span.string data = .error fault) ↔ ∃ fault, span.read data = .error fault := by
  unfold string
  cases span.read data <;> simp [bind, Except.bind, pure, Except.pure]

theorem resolve_of_read_error {data : Option Bytes} {fault : Fault}
    (faulted : span.read data = .error fault) (base : Option Uri.Reference) :
    span.resolve data base = .error fault := by
  simp [resolve, faulted, bind, Except.bind]

theorem resolve_of_read_none {data : Option Bytes} (missing : span.read data = .ok none)
    (base : Option Uri.Reference) :
    span.resolve data base = .ok (.error (.spanOutside span (data.getD []).length)) := by
  simp [resolve, missing, bind, Except.bind, pure, Except.pure]

/-- Bytes that are there resolve to a reference or to an error of their own, never to an
invalid argument. -/
theorem resolve_of_read_some {data : Option Bytes} {raw : Bytes}
    (found : span.read data = .ok (some raw)) (base : Option Uri.Reference) :
    ∃ outcome, span.resolve data base = .ok outcome ∧
      ∀ error, outcome = .error error → error.errorClass = .other := by
  cases parsed : Uri.parse raw with
  | error reason =>
    refine ⟨.error (.unparsableUri reason), ?_, fun error failed => ?_⟩
    · simp [resolve, found, parsed, bind, Except.bind, pure, Except.pure]
    · cases failed
      rfl
  | ok reference =>
    cases base with
    | none =>
      refine ⟨.ok reference, ?_, fun error failed => by cases failed⟩
      simp [resolve, found, parsed, bind, Except.bind, pure, Except.pure]
    | some location =>
      refine ⟨.ok (location.resolve reference), ?_, fun error failed => by cases failed⟩
      simp [resolve, found, parsed, bind, Except.bind, pure, Except.pure]

/-- Resolution faults exactly when the lookup of the span does: a lookup that does not fault lets
resolution finish. -/
theorem resolve_faults_iff (data : Option Bytes) (base : Option Uri.Reference) :
    (∃ fault, span.resolve data base = .error fault) ↔
      ∃ fault, span.read data = .error fault := by
  constructor
  · rintro ⟨fault, faulted⟩
    cases read : span.read data with
    | error readFault => exact ⟨readFault, rfl⟩
    | ok found =>
      cases found with
      | none =>
        rw [resolve_of_read_none read] at faulted
        cases faulted
      | some raw =>
        obtain ⟨outcome, resolvedSome, -⟩ := resolve_of_read_some read base
        rw [resolvedSome] at faulted
        cases faulted
  · rintro ⟨fault, faulted⟩
    exact ⟨fault, resolve_of_read_error faulted base⟩

/-- Without a wrap, resolution fails as an invalid argument exactly when the lookup gives no
bytes: when the span is not inside the buffer, or the buffer is nil. -/
theorem resolve_invalid_iff (unwrapped : ¬span.Wraps) (data : Option Bytes)
    (base : Option Uri.Reference) :
    (∃ error, span.resolve data base = .ok (.error error) ∧
        error.errorClass = .invalidArgument) ↔
      ¬span.Inside (data.getD []).length ∨ data = none := by
  constructor
  · rintro ⟨error, resolved, invalid⟩
    cases data with
    | none => exact Or.inr rfl
    | some bytes =>
      refine Or.inl fun inside => ?_
      obtain ⟨outcome, resolvedInside, other⟩ :=
        resolve_of_read_some (read_eq_map_of_not_wraps unwrapped inside) base
      rw [resolvedInside, Except.ok.injEq] at resolved
      rw [other error resolved] at invalid
      cases invalid
  · intro missing
    have nothing : span.read data = .ok none := by
      rcases missing with outside | rfl
      · exact read_eq_none_of_not_wraps unwrapped outside
      · rw [read_of_not_wraps unwrapped]
        rfl
    exact ⟨_, resolve_of_read_none nothing base, rfl⟩

end Span

namespace Playlist

/-- Writing a playlist faults exactly when looking up one of its URI spans faults. -/
theorem encode_faults_iff (playlist : Playlist) (data : Bytes) :
    (∃ fault, playlist.encode data = .error fault) ↔
      ∃ span ∈ playlist.uriSpans, ∃ fault, span.read (some data) = .error fault := by
  constructor
  · rintro ⟨fault, faulted⟩
    cases found : playlist.spanFault? data with
    | none => simp [encode, found] at faulted
    | some first =>
      obtain ⟨span, member, looked⟩ := List.exists_of_findSome?_eq_some found
      refine ⟨span, member, first, ?_⟩
      cases read : span.read (some data) <;> simp_all
  · rintro ⟨span, member, fault, faulted⟩
    cases found : playlist.spanFault? data with
    | none =>
      have clean := List.findSome?_eq_none_iff.mp found span member
      simp [faulted] at clean
    | some first => exact ⟨first, by simp [encode, found]⟩

end Playlist

namespace Span

/-- Looking up a word span in a buffer, `none` standing for the nil buffer. The lookup faults
exactly when the span's end wraps around. Otherwise it gives the bytes from the offset on, as many
as the length, when the span lies inside the buffer in exact arithmetic (nothing for the nil
buffer, whose cuts are nil), and none when it does not. The text of the span and its resolution
fault exactly when the lookup does. Without a wrap, resolution fails as an invalid argument exactly
when the span is not inside the buffer or the buffer is nil. Writing a playlist of word URI spans,
which treats the nil buffer as the empty one, faults exactly when one of them wraps. -/
theorem read_faults_iff_wraps (span : Span) (data : Option Bytes) (word : span.IsWord)
    (base : Option Uri.Reference) :
    ((∃ fault, span.read data = .error fault) ↔ span.Wraps) ∧
    (¬span.Wraps → span.Inside (data.getD []).length →
      span.read data = .ok (data.map fun bytes =>
        (bytes.drop span.offset.toNat).take span.length.toNat)) ∧
    (¬span.Wraps → ¬span.Inside (data.getD []).length → span.read data = .ok none) ∧
    ((∃ fault, span.string data = .error fault) ↔ span.Wraps) ∧
    ((∃ fault, span.resolve data base = .error fault) ↔ span.Wraps) ∧
    (¬span.Wraps →
      ((∃ error, span.resolve data base = .ok (.error error) ∧
          error.errorClass = .invalidArgument) ↔
        ¬span.Inside (data.getD []).length ∨ data = none)) ∧
    (∀ playlist : Playlist, (∀ uri ∈ playlist.uriSpans, uri.IsWord) →
      ((∃ fault, playlist.encode (data.getD []) = .error fault) ↔
        ∃ uri ∈ playlist.uriSpans, uri.Wraps)) := by
  have faults := read_faults_iff word data
  refine ⟨faults, read_eq_map_of_not_wraps, read_eq_none_of_not_wraps, ?_, ?_,
    fun unwrapped => resolve_invalid_iff unwrapped data base, fun playlist words => ?_⟩
  · rw [string_faults_iff, faults]
  · rw [resolve_faults_iff, faults]
  · -- each URI span faults exactly when it wraps
    rw [Playlist.encode_faults_iff]
    exact exists_congr fun uri => and_congr_right fun member =>
      read_faults_iff (words uri member) (some (data.getD []))

/-- A span past the end of a small buffer, whose bytes do not form a URI: resolving it is an
invalid argument, not a parse error. -/
theorem read_faults_iff_wraps_past_buffer :
    (⟨8, 10⟩ : Span).IsWord ∧ ¬(⟨8, 10⟩ : Span).Wraps ∧
      ¬(⟨8, 10⟩ : Span).Inside (Bytes.ofString "#EXTM3U\n%zz\n").length ∧
      ∃ error, (⟨8, 10⟩ : Span).resolve (some (Bytes.ofString "#EXTM3U\n%zz\n")) none =
          .ok (.error error) ∧ error.errorClass = .invalidArgument := by
  have facts :=
    read_faults_iff_wraps ⟨8, 10⟩ (some (Bytes.ofString "#EXTM3U\n%zz\n")) (by decide) none
  have unwrapped : ¬(⟨8, 10⟩ : Span).Wraps := by decide
  have outside : ¬(⟨8, 10⟩ : Span).Inside (Bytes.ofString "#EXTM3U\n%zz\n").length := by
    decide +kernel
  exact ⟨by decide, unwrapped, outside, (facts.2.2.2.2.2.1 unwrapped).mpr (Or.inl outside)⟩

/-- Two spans on which looking up goes wrong. The span of offset `2^63 - 1` and length one wraps
around: looking it up faults, naming the wrapped end `-2^63`, and so do its text, its resolution
and the writing of a playlist that has it as a segment URI. The span of length zero at offset zero
lies inside the nil buffer, and resolving it there is still an invalid argument. -/
theorem lookup_faults_on_wrap_and_rejects_nil_buffer :
    (⟨Int64Range.max, 1⟩ : Span).read (some [97, 98, 99]) = .error ⟨Int64Range.min⟩ ∧
      (⟨Int64Range.max, 1⟩ : Span).string (some [97, 98, 99]) = .error ⟨Int64Range.min⟩ ∧
      (⟨Int64Range.max, 1⟩ : Span).resolve (some [97, 98, 99]) none = .error ⟨Int64Range.min⟩ ∧
      ({ Playlist.empty 1 0 with
          segments := (Store.empty 1).write ⟨1000000, ⟨Int64Range.max, 1⟩⟩ } : Playlist).encode
          [97, 98, 99] = .error ⟨Int64Range.min⟩ ∧
      Span.zero.Inside 0 ∧
      Span.zero.resolve none none = .ok (.error (.spanOutside Span.zero 0)) ∧
      (ManifestError.spanOutside Span.zero 0).message =
        "span 0+0 outside buffer of 0 bytes: invalid argument" :=
  ⟨rfl, rfl, rfl, rfl, by decide, rfl, rfl⟩

end Span

end HlsManifest
