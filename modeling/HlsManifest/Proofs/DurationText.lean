import HlsManifest.Proofs.NumeralReading
import HlsManifest.Playlist.Version

/-!
# The written seconds of a duration

`Micros.render` writes a duration as decimal seconds. Said without the writer, its text is the
decimal form of the duration over a million: a minus sign exactly for a negative duration, the
whole seconds of the magnitude with no leading zero (`Bytes.DecimalOf`), and, exactly when the
magnitude is no whole number of seconds, a point and the six fraction digits, zero-padded, less
their trailing zeros (`Micros.FractionOf`). Any such text reads back whole, as the duration with
its magnitude capped at `Int64Range.max`; so every signed 64-bit duration reads back as itself but
`Int64Range.min`, whose magnitude lies one past the cap.

The writer decides on a point from the unsigned magnitude, the version rule from the remainder
truncated toward zero; both are zero together. So a playlist needs the fractional version exactly
when a point stands before the comma of one of the `#EXTINF` lines written for its segments.

Main statements: `Micros.render_decimal_reads_back`, `Playlist.minVersion_tracks_written_point`.
-/

set_option autoImplicit false

namespace HlsManifest

namespace Bytes

/-- `digits` is the decimal text of `value`: at least one decimal digit, worth `value`, and no
leading zero unless the text is the single digit `0`. -/
structure DecimalOf (value : Nat) (digits : Bytes) : Prop where
  allDigits : ∀ byte ∈ digits, isDigit byte = true
  worth : digitsValue digits = value
  nonempty : digits ≠ []
  noLeadingZero : digits.head? = some 48 → digits = [48]

theorem digitValue_le_nine {byte : UInt8} (digit : isDigit byte = true) : digitValue byte ≤ 9 := by
  simp only [isDigit, Bool.and_eq_true, decide_eq_true_eq, UInt8.le_iff_toNat_le,
    UInt8.reduceToNat] at digit
  unfold digitValue
  omega

theorem digitsValue_lt {digits : Bytes} (allDigits : ∀ byte ∈ digits, isDigit byte = true) :
    digitsValue digits < Nat.pow 10 digits.length := by
  induction digits with
  | nil => decide
  | cons byte rest ih =>
    have first := Nat.mul_le_mul_right (Nat.pow 10 rest.length)
      (digitValue_le_nine (allDigits byte List.mem_cons_self))
    have later := ih fun other member => allDigits other (List.mem_cons_of_mem byte member)
    have single : digitsValue [byte] = digitValue byte := by
      simp [digitsValue]
    calc digitsValue (byte :: rest)
        = digitValue byte * Nat.pow 10 rest.length + digitsValue rest := by
          rw [← List.singleton_append, digitsValue_append, single]
      _ < 9 * Nat.pow 10 rest.length + Nat.pow 10 rest.length := Nat.add_lt_add_of_le_of_lt first later
      _ = Nat.pow 10 (byte :: rest).length := by
          show _ = Nat.pow 10 rest.length * 10
          omega

theorem digitsValue_zero_cons (rest : Bytes) : digitsValue (48 :: rest) = digitsValue rest := by
  have single : digitsValue [48] = 0 := rfl
  rw [← List.singleton_append, digitsValue_append, single, Nat.zero_mul, Nat.zero_add]

theorem ofNat_decimal (value : Nat) : DecimalOf value (ofNat value) where
  allDigits _ member := isDigit_of_mem_ofNat member
  worth := digitsValue_ofNat value
  nonempty := ofNat_ne_nil value
  noLeadingZero := by
    intro leading
    obtain ⟨rest, written⟩ := List.head?_eq_some_iff.mp leading
    cases rest with
    | nil => exact written
    | cons next others =>
      -- a leading zero adds nothing, so the value is below the power of ten its text reaches
      have tail := digitsValue_lt fun byte member =>
        isDigit_of_mem_ofNat (written ▸ List.mem_cons_of_mem 48 member)
      have worth : digitsValue (ofNat value) = digitsValue (next :: others) := by
        rw [written, digitsValue_zero_cons]
      rw [digitsValue_ofNat] at worth
      have length : (ofNat value).length = others.length + 2 := by
        rw [written]
        rfl
      rw [ofNat, List.length_map] at length
      have short := (@Nat.length_toDigits_le_iff 10 value (others.length + 1) (by decide)
        (by omega)).mpr (worth ▸ tail)
      omega

end Bytes

namespace Micros

/-- `digits` is the fraction of a second of `remainder` microseconds: at most six decimal digits
that, padded on the right with zeros to six places, are worth `remainder`, and that end in no
zero. -/
structure FractionOf (remainder : Nat) (digits : Bytes) : Prop where
  allDigits : ∀ byte ∈ digits, Bytes.isDigit byte = true
  short : digits.length ≤ fractionDigits
  worth : Bytes.digitsValue (digits ++ List.replicate (fractionDigits - digits.length) 48) =
    remainder
  noTrailingZero : digits.getLast? ≠ some 48

theorem length_fractionText_le (remainder : Nat) : (fractionText remainder).length ≤ fractionDigits := by
  unfold fractionText
  dsimp only
  rw [List.length_reverse]
  refine Nat.le_trans (List.dropWhile_suffix _).length_le ?_
  simp

theorem getLast?_fractionText (remainder : Nat) : (fractionText remainder).getLast? ≠ some 48 := by
  unfold fractionText
  dsimp only
  rw [List.getLast?_reverse]
  intro leading
  have stops := List.head?_dropWhile_not (· == (48 : UInt8))
    ((List.replicate fractionDigits 48 ++ Bytes.ofNat remainder).drop
      (Bytes.ofNat remainder).length).reverse
  rw [leading] at stops
  exact absurd stops (by decide)

theorem fractionText_fraction {remainder : Nat} (small : remainder < perSecond) :
    FractionOf remainder (fractionText remainder) := by
  obtain ⟨allDigits, worth⟩ := fractionText_spec small
  have short := length_fractionText_le remainder
  refine ⟨allDigits, short, ?_, getLast?_fractionText remainder⟩
  rw [fractionValue_eq, List.take_of_length_le short] at worth
  rw [Bytes.digitsValue_append, Bytes.digitsValue_replicate_zero, Nat.add_zero,
    List.length_replicate, worth]

/-- The text of every duration is its decimal form. -/
theorem render_decimal (duration : Int) :
    ∃ whole fraction, Bytes.DecimalOf (duration.natAbs / perSecond) whole ∧
      FractionOf (duration.natAbs % perSecond) fraction ∧
      render duration = (if duration < 0 then [45] else []) ++ whole ++
        (if duration.natAbs % perSecond = 0 then [] else 46 :: fraction) :=
  ⟨_, _, Bytes.ofNat_decimal _, fractionText_fraction (Nat.mod_lt _ (by decide)),
    by rw [render_eq, List.append_assoc]⟩

theorem point_mem_render_iff (duration : Int) :
    (46 : UInt8) ∈ render duration ↔ duration.natAbs % perSecond ≠ 0 := by
  obtain ⟨whole, fraction, decimal, -, written⟩ := render_decimal duration
  have notInSign : (46 : UInt8) ∉ (if duration < 0 then [45] else []) := by
    split <;> simp
  have notInWhole : (46 : UInt8) ∉ whole := fun member =>
    absurd (decimal.allDigits 46 member) (by decide)
  rw [written, List.mem_append, List.mem_append, or_iff_right notInSign, or_iff_right notInWhole]
  split <;> simp_all

/-- The version rule's remainder, truncated toward zero, is zero exactly when the writer's
remainder of the magnitude is. -/
theorem hasFraction_iff (duration : Int) :
    Micros.hasFraction duration = true ↔ duration.natAbs % perSecond ≠ 0 := by
  rw [hasFraction, bne_iff_ne, ne_eq, ne_eq, ← Int.dvd_iff_tmod_eq_zero,
    Int.ofNat_dvd_left, Nat.dvd_iff_mod_eq_zero]

theorem blanks_of_head {text : Bytes} (first : ∀ byte ∈ text.head?, Bytes.isBlank byte = false) :
    text.takeWhile Bytes.isBlank = [] ∧ text.dropWhile Bytes.isBlank = text := by
  cases text with
  | nil => exact ⟨rfl, rfl⟩
  | cons byte rest =>
    have notBlank := first byte rfl
    simp [notBlank]

section Decimal

variable {duration : Int} {whole fraction rest : Bytes}

theorem length_signText : (if duration < 0 then [45] else [] : Bytes).length =
    if duration < 0 then 1 else 0 := by
  split <;> rfl

theorem secondsNumeral_of_decimal (decimal : Bytes.DecimalOf (duration.natAbs / perSecond) whole)
    (stops : ∀ byte ∈ rest.head?, Bytes.isDigit byte = false) :
    SecondsNumeral ((if duration < 0 then [45] else []) ++ whole ++ rest)
      (if duration < 0 then [45] else []) whole rest := by
  obtain ⟨first, others, written⟩ := List.exists_cons_of_ne_nil decimal.nonempty
  have firstDigit := decimal.allDigits first (written ▸ List.mem_cons_self)
  refine ⟨rfl, ?_, ?_, decimal.allDigits, stops⟩
  · unfold SignText
    split
    · exact .inr (.inr rfl)
    · exact .inl rfl
  · intro _ byte member
    rw [written, List.cons_append, List.head?_cons, Option.mem_some_iff] at member
    obtain ⟨-, notMinus, notPlus⟩ := Bytes.not_blank_of_isDigit firstDigit
    exact member ▸ ⟨notPlus, notMinus⟩

theorem blanks_of_decimal (decimal : Bytes.DecimalOf (duration.natAbs / perSecond) whole) :
    ∀ byte ∈ ((if duration < 0 then [45] else []) ++ whole ++ rest).head?,
      Bytes.isBlank byte = false := by
  obtain ⟨first, others, written⟩ := List.exists_cons_of_ne_nil decimal.nonempty
  have firstDigit := decimal.allDigits first (written ▸ List.mem_cons_self)
  intro byte member
  split at member
  · rw [Option.mem_def] at member
    cases member
    rfl
  · rw [written, List.nil_append, List.cons_append, List.head?_cons, Option.mem_some_iff] at member
    exact member ▸ (Bytes.not_blank_of_isDigit firstDigit).1

/-- A decimal form's sign and whole digits, then a tail whose fraction digits are worth the
remainder, read back as the duration with its magnitude capped at `Int64Range.max`. -/
theorem read_decimal_tail {digits : Bytes} {point : Bool}
    (decimal : Bytes.DecimalOf (duration.natAbs / perSecond) whole)
    (stops : ∀ byte ∈ rest.head?, Bytes.isDigit byte = false) (parts : Fraction rest digits point)
    (worth : paddedFraction digits = duration.natAbs % perSecond) :
    Micros.read ((if duration < 0 then [45] else []) ++ whole ++ rest) =
      some ⟨if duration < 0 then -Min.min (duration.natAbs : Int) Int64Range.max
          else Min.min (duration.natAbs : Int) Int64Range.max,
        (if duration < 0 then 1 else 0) + whole.length + (if point then 1 + digits.length else 0)⟩ := by
  obtain ⟨noBlanks, kept⟩ := blanks_of_head (@blanks_of_decimal _ _ rest decimal)
  have numeral := secondsNumeral_of_decimal decimal stops
  rw [← kept] at numeral
  have sign : (if duration < 0 then [45] else []) = [(45 : UInt8)] ↔ duration < 0 := by
    split <;> simp_all
  have magnitude : duration.natAbs / perSecond * perSecond + duration.natAbs % perSecond =
      duration.natAbs := by
    have divided := Nat.div_add_mod duration.natAbs perSecond
    unfold perSecond at *
    omega
  rw [read_of_secondsNumeral numeral parts, if_neg (by simp [decimal.nonempty])]
  simp only [noBlanks, sign, worth, decimal.worth, magnitude, length_signText, List.length_nil,
    Nat.zero_add]

/-- Every decimal form of a duration reads back whole, as the duration with its magnitude capped
at `Int64Range.max`. -/
theorem read_decimal (decimal : Bytes.DecimalOf (duration.natAbs / perSecond) whole)
    (fractional : FractionOf (duration.natAbs % perSecond) fraction) :
    let text := (if duration < 0 then [45] else []) ++ whole ++
      (if duration.natAbs % perSecond = 0 then [] else 46 :: fraction)
    Micros.read text =
      some ⟨if duration < 0 then -Min.min (duration.natAbs : Int) Int64Range.max
        else Min.min (duration.natAbs : Int) Int64Range.max, text.length⟩ := by
  intro text
  by_cases exact : duration.natAbs % perSecond = 0
  · -- no point: the text ends with the whole seconds, and no fraction digit is read
    have zero : paddedFraction [] = duration.natAbs % perSecond := by
      rw [exact, paddedFraction, List.nil_append, List.take_replicate, Nat.min_self,
        Bytes.digitsValue_replicate_zero]
    have read := @read_decimal_tail _ _ [] [] false decimal (by simp) (.none (by simp)) zero
    simp only [text, if_pos exact, read, List.length_append, length_signText, List.length_nil]
    rfl
  · -- a point and the fraction digits, worth the remainder once padded back to six places
    have point : Bytes.isDigit 46 = false := by decide
    have parts := @Fraction.point fraction [] fractional.allDigits (by simp)
    rw [List.append_nil] at parts
    have padded : paddedFraction fraction = duration.natAbs % perSecond := by
      rw [paddedFraction, List.take_append, List.take_of_length_le fractional.short,
        List.take_replicate, ← fractional.worth]
      congr 3
      have := fractional.short
      omega
    have read := read_decimal_tail decimal (by simp [point]) parts padded
    simp only [text, if_neg exact, read, List.length_append, length_signText, List.length_cons,
      if_true, Nat.add_comm 1 fraction.length]

end Decimal

/-- Writing seconds and reading them back. The text of every signed 64-bit duration is its decimal
form: a minus sign exactly for a negative duration, the whole seconds of its magnitude with no
leading zero and, exactly when the magnitude is no whole number of seconds, a point and the six
fraction digits, zero-padded, less their trailing zeros. Reading it takes the whole text and gives
the duration back, except `Int64Range.min`, which reads as `-Int64Range.max`. -/
theorem render_decimal_reads_back {duration : Int} (low : Int64Range.min ≤ duration)
    (high : duration ≤ Int64Range.max) :
    (∃ whole fraction, Bytes.DecimalOf (duration.natAbs / perSecond) whole ∧
      FractionOf (duration.natAbs % perSecond) fraction ∧
      render duration = (if duration < 0 then [45] else []) ++ whole ++
        (if duration.natAbs % perSecond = 0 then [] else 46 :: fraction)) ∧
    Micros.read (render duration) =
      some ⟨if duration = Int64Range.min then -Int64Range.max else duration,
        (render duration).length⟩ := by
  obtain ⟨whole, fraction, decimal, fractional, written⟩ := render_decimal duration
  refine ⟨⟨whole, fraction, decimal, fractional, written⟩, ?_⟩
  rw [written, read_decimal decimal fractional]
  unfold Int64Range.min Int64Range.max at *
  split <;> split <;> simp only [Option.some.injEq, Reading.mk.injEq, and_true] <;> omega

theorem render_decimal_reads_back_smallest_word :
    Int64Range.min ≤ Int64Range.min ∧ Int64Range.min ≤ Int64Range.max ∧
      ((∃ whole fraction, Bytes.DecimalOf (Int64Range.min.natAbs / perSecond) whole ∧
        FractionOf (Int64Range.min.natAbs % perSecond) fraction ∧
        render Int64Range.min = (if Int64Range.min < 0 then [45] else []) ++ whole ++
          (if Int64Range.min.natAbs % perSecond = 0 then [] else 46 :: fraction)) ∧
      Micros.read (render Int64Range.min) =
        some ⟨if Int64Range.min = Int64Range.min then -Int64Range.max else Int64Range.min,
          (render Int64Range.min).length⟩) :=
  ⟨Int.le_refl _, by decide, render_decimal_reads_back (Int.le_refl _) (by decide)⟩

end Micros

namespace Playlist

theorem takeWhile_segmentLines (data : Bytes) (segment : Segment) :
    (segmentLines data segment).takeWhile (· != 44) =
      Bytes.ofString "#EXTINF:" ++ Micros.render segment.duration := by
  have notInTag : (44 : UInt8) ∉ Bytes.ofString "#EXTINF:" := by
    decide +kernel
  have noComma : ∀ byte ∈ Bytes.ofString "#EXTINF:" ++ Micros.render segment.duration,
      (byte != 44) = true := by
    intro byte member
    rw [bne_iff_ne, ne_eq]
    rintro rfl
    rcases List.mem_append.mp member with tag | duration
    · exact notInTag tag
    · rcases Micros.mem_render duration with digit | minus | point
      · exact absurd digit (by decide)
      · exact absurd minus (by decide)
      · exact absurd point (by decide)
  have comma : Bytes.ofString "," = [44] := by
    decide +kernel
  rw [segmentLines, line, comma, List.append_assoc, List.append_assoc,
    List.takeWhile_append_of_pos noComma]
  simp

theorem point_before_comma_iff (data : Bytes) (segment : Segment) :
    (46 : UInt8) ∈ (segmentLines data segment).takeWhile (· != 44) ↔
      segment.duration.hasFraction = true := by
  have notInTag : (46 : UInt8) ∉ Bytes.ofString "#EXTINF:" := by
    decide +kernel
  rw [takeWhile_segmentLines, List.mem_append, or_iff_right notInTag,
    Micros.point_mem_render_iff, Micros.hasFraction_iff]

/-- The version a playlist needs follows the text written for it. The fractional version is
needed exactly when a point stands before the comma of the `#EXTINF` line written for one of the
kept segments, that is when one of their durations leaves a remainder by a second; otherwise the
least version is. Variants play no part. -/
theorem minVersion_tracks_written_point (playlist : Playlist) (data : Bytes) :
    (playlist.minVersion = ProtocolVersion.fractionalDurations ↔
      ∃ segment ∈ playlist.segments.items,
        (46 : UInt8) ∈ (segmentLines data segment).takeWhile (· != 44)) ∧
    (playlist.minVersion = ProtocolVersion.fractionalDurations ↔
      ∃ segment ∈ playlist.segments.items, segment.duration.tmod Micros.perSecond ≠ 0) ∧
    ((¬∃ segment ∈ playlist.segments.items, segment.duration.tmod Micros.perSecond ≠ 0) →
      playlist.minVersion = ProtocolVersion.minimal) ∧
    ∀ variants : Store Variant, { playlist with variants }.minVersion = playlist.minVersion := by
  have distinct : ProtocolVersion.minimal ≠ ProtocolVersion.fractionalDurations := by
    decide
  have needed : playlist.minVersion = ProtocolVersion.fractionalDurations ↔
      ∃ segment ∈ playlist.segments.items, segment.duration.hasFraction = true := by
    rw [minVersion_eq, ← List.any_eq_true]
    split <;> simp_all
  have remainder (segment : Segment) :
      segment.duration.hasFraction = true ↔ segment.duration.tmod Micros.perSecond ≠ 0 := by
    rw [Micros.hasFraction, bne_iff_ne]
  refine ⟨?_, ?_, ?_, fun variants => ?_⟩
  · simp only [needed, point_before_comma_iff]
  · simp only [needed, remainder]
  · intro none
    rw [minVersion_eq, if_neg]
    simpa [List.any_eq_true, remainder] using none
  · rw [minVersion_eq, minVersion_eq]

end Playlist

end HlsManifest
