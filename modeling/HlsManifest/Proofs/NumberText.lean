import HlsManifest.Numeric.Micros

/-!
# Numbers read back from their text

The writer prints integers with `Bytes.ofInt` and durations with `Micros.render`; the readers take
them in with saturating arithmetic. This module proves that what is printed reads back as the
value printed, as long as that value lies where the reader can reach: the signed 64-bit range for
integers, and `-Int64Range.max` up to `Int64Range.max` for durations (`Integer.read_ofInt`,
`Micros.read_render`). It also bounds what the readers can ever give (`Integer.read_value_mem`,
`Micros.read_value_mem`).

The saturating loops are compared with the exact value of their digits: reading upwards gives the
exact value capped at `Int64Range.max`, reading downwards its negation floored at
`Int64Range.min` (`Integer.accumulate_false`, `Integer.accumulate_true`).

A target duration is written in whole seconds, rounded up, and read back times a million. That
gives back the duration whenever the duration is a whole number of seconds or saturated upwards,
and never when it saturated downwards, since `Int64Range.min` is no multiple of a million
(`Micros.scale_wholeSecondsUp`).
-/

set_option autoImplicit false

namespace HlsManifest

namespace Bytes

private theorem byte_of_digitChar {c : Char} (digit : c.isDigit) :
    isDigit c.toNat.toUInt8 = true ∧ digitValue c.toNat.toUInt8 = c.toNat - '0'.toNat := by
  have bounds := Char.isDigit_iff_toNat.mp digit
  simp only [Char.reduceToNat] at bounds
  have small : c.toNat < 256 := by omega
  have value : (c.toNat.toUInt8).toNat = c.toNat := by
    simp [Nat.toUInt8, Nat.mod_eq_of_lt small]
  simp only [isDigit, digitValue, Char.reduceToNat, Bool.and_eq_true, decide_eq_true_eq,
    UInt8.le_iff_toNat_le, UInt8.reduceToNat]
  rw [value]
  omega

theorem isDigit_of_mem_ofNat {byte : UInt8} {value : Nat} (member : byte ∈ ofNat value) :
    isDigit byte = true := by
  obtain ⟨c, digitMember, rfl⟩ := List.mem_map.mp member
  exact (byte_of_digitChar (Nat.isDigit_of_mem_toDigits (by decide) (by decide) digitMember)).1

theorem ofNat_ne_nil (value : Nat) : ofNat value ≠ [] := by
  simp [ofNat]

theorem digitsValue_ofNat (value : Nat) : digitsValue (ofNat value) = value := by
  -- byte by byte, the fold over the digit bytes is the fold over the digit characters
  have agree : ∀ (chars : List Char), (∀ c ∈ chars, c.isDigit) → ∀ start,
      (chars.map fun c => c.toNat.toUInt8).foldl (fun sofar byte => sofar * 10 + digitValue byte)
        start = Nat.ofDigitChars 10 chars start := by
    intro chars
    induction chars with
    | nil => intro _ start; rfl
    | cons c rest ih =>
        intro digits start
        have head := (byte_of_digitChar (digits c (by simp))).2
        rw [List.map_cons, List.foldl_cons, Nat.ofDigitChars_cons, head, Nat.mul_comm]
        exact ih (fun other member => digits other (by simp [member])) _
  rw [digitsValue, ofNat, agree _ (fun c member => Nat.isDigit_of_mem_toDigits (by decide)
    (by decide) member), Nat.ofDigitChars_toDigits (by decide) (by decide)]

theorem foldl_digitStep (digits : Bytes) (start : Nat) :
    digits.foldl (fun sofar byte => sofar * 10 + digitValue byte) start =
      start * Nat.pow 10 digits.length + digitsValue digits := by
  induction digits generalizing start with
  | nil => simp [digitsValue]
  | cons byte rest ih =>
      have head : digitsValue (byte :: rest) =
          digitValue byte * Nat.pow 10 rest.length + digitsValue rest := by
        rw [digitsValue, List.foldl_cons, ih]
        simp
      have power : Nat.pow 10 (rest.length + 1) = Nat.pow 10 rest.length * 10 := rfl
      rw [List.foldl_cons, ih, head, List.length_cons, power, Nat.add_mul, Nat.mul_assoc,
        Nat.mul_comm 10, Nat.add_assoc]

theorem digitsValue_append (first second : Bytes) :
    digitsValue (first ++ second) = digitsValue first * Nat.pow 10 second.length +
      digitsValue second := by
  rw [digitsValue, List.foldl_append, ← digitsValue, foldl_digitStep]

theorem digitsValue_replicate_zero (count : Nat) : digitsValue (List.replicate count 48) = 0 := by
  induction count with
  | zero => rfl
  | succ count ih =>
      rw [List.replicate_succ', digitsValue_append, ih]
      rfl

theorem ne_of_isDigit {byte other : UInt8} (digit : isDigit byte = true)
    (notDigit : isDigit other = false) : byte ≠ other := by
  rintro rfl
  rw [digit] at notDigit
  cases notDigit

theorem not_blank_of_isDigit {byte : UInt8} (digit : isDigit byte = true) :
    isBlank byte = false ∧ byte ≠ 45 ∧ byte ≠ 43 := by
  simp only [isDigit, Bool.and_eq_true, decide_eq_true_eq, UInt8.le_iff_toNat_le,
    UInt8.reduceToNat] at digit
  simp only [isBlank, Bool.or_eq_false_iff, beq_eq_false_iff_ne, ne_eq, ← UInt8.toNat_inj,
    UInt8.reduceToNat]
  omega

theorem takeWhile_dropWhile_of_all {test : UInt8 → Bool} {text : Bytes}
    (all : ∀ byte ∈ text, test byte = true) :
    text.takeWhile test = text ∧ text.dropWhile test = [] := by
  have taken : (text ++ []).takeWhile test = text ++ ([] : Bytes).takeWhile test :=
    List.takeWhile_append_of_pos all
  have dropped : (text ++ []).dropWhile test = ([] : Bytes).dropWhile test :=
    List.dropWhile_append_of_pos all
  simp only [List.append_nil, List.takeWhile_nil, List.dropWhile_nil] at taken dropped
  exact ⟨taken, dropped⟩

end Bytes

namespace Reading

theorem sign_minus (rest : Bytes) : sign (45 :: rest) = (true, 1, rest) := by
  simp [sign]

theorem sign_of_isDigit {byte : UInt8} (digit : Bytes.isDigit byte = true) (rest : Bytes) :
    sign (byte :: rest) = (false, 0, byte :: rest) := by
  obtain ⟨-, notMinus, notPlus⟩ := Bytes.not_blank_of_isDigit digit
  simp [sign, notMinus, notPlus]

end Reading

namespace Int64Range

theorem capAbove_le_max (value : Int) : capAbove value ≤ max := by
  unfold capAbove
  split <;> omega

theorem capAbove_nonneg {value : Int} (nonneg : 0 ≤ value) : 0 ≤ capAbove value := by
  unfold capAbove max
  split <;> omega

end Int64Range

namespace Integer

private theorem pushDigit_false_min (sofar : Nat) (byte : UInt8) :
    pushDigit false (min (sofar : Int) Int64Range.max) byte =
      min ((sofar * 10 + Bytes.digitValue byte : Nat) : Int) Int64Range.max := by
  rw [pushDigit_false]
  unfold Int64Range.max
  omega

private theorem pushDigit_true_max (sofar : Nat) (byte : UInt8) :
    pushDigit true (max (-(sofar : Int)) Int64Range.min) byte =
      max (-((sofar * 10 + Bytes.digitValue byte : Nat) : Int)) Int64Range.min := by
  rw [pushDigit_true]
  unfold Int64Range.min
  omega

theorem foldl_pushDigit_false (digits : Bytes) (sofar : Nat) :
    digits.foldl (pushDigit false) (min (sofar : Int) Int64Range.max) =
      min ((digits.foldl (fun value byte => value * 10 + Bytes.digitValue byte) sofar : Nat) : Int)
        Int64Range.max := by
  induction digits generalizing sofar with
  | nil => rfl
  | cons byte rest ih => rw [List.foldl_cons, pushDigit_false_min, ih, List.foldl_cons]

theorem foldl_pushDigit_true (digits : Bytes) (sofar : Nat) :
    digits.foldl (pushDigit true) (max (-(sofar : Int)) Int64Range.min) =
      max (-((digits.foldl (fun value byte => value * 10 + Bytes.digitValue byte) sofar : Nat) :
        Int)) Int64Range.min := by
  induction digits generalizing sofar with
  | nil => rfl
  | cons byte rest ih => rw [List.foldl_cons, pushDigit_true_max, ih, List.foldl_cons]

theorem accumulate_false (digits : Bytes) :
    accumulate false digits = min (Bytes.digitsValue digits : Int) Int64Range.max := by
  have start : min ((0 : Nat) : Int) Int64Range.max = 0 := by decide
  rw [accumulate, ← start, foldl_pushDigit_false]
  rfl

theorem accumulate_true (digits : Bytes) :
    accumulate true digits = max (-(Bytes.digitsValue digits : Int)) Int64Range.min := by
  have start : max (-((0 : Nat) : Int)) Int64Range.min = 0 := by decide
  rw [accumulate, ← start, foldl_pushDigit_true]
  rfl

theorem accumulate_false_nonneg (digits : Bytes) : 0 ≤ accumulate false digits := by
  rw [accumulate_false]
  unfold Int64Range.max
  omega

theorem accumulate_mem (negative : Bool) (digits : Bytes) :
    Int64Range.min ≤ accumulate negative digits ∧ accumulate negative digits ≤ Int64Range.max := by
  cases negative with
  | false =>
      rw [accumulate_false]
      unfold Int64Range.min Int64Range.max
      omega
  | true =>
      rw [accumulate_true]
      unfold Int64Range.min Int64Range.max
      omega

theorem read_value_mem {text : Bytes} {reading : Reading} (read : Integer.read text = some reading) :
    Int64Range.min ≤ reading.value ∧ reading.value ≤ Int64Range.max := by
  unfold Integer.read at read
  dsimp only at read
  split at read
  · cases read
  · cases read
    exact accumulate_mem _ _

theorem takeWhile_ofNat (value : Nat) :
    (Bytes.ofNat value).takeWhile Bytes.isDigit = Bytes.ofNat value :=
  (Bytes.takeWhile_dropWhile_of_all fun _ member => Bytes.isDigit_of_mem_ofNat member).1

/-- Every signed 64-bit integer reads back from its decimal text, taking all of it. -/
theorem read_ofInt {value : Int} (low : Int64Range.min ≤ value) (high : value ≤ Int64Range.max) :
    Integer.read (Bytes.ofInt value) = some ⟨value, (Bytes.ofInt value).length⟩ := by
  obtain ⟨first, rest, digits_eq⟩ := List.exists_cons_of_ne_nil (Bytes.ofNat_ne_nil value.natAbs)
  have firstDigit : Bytes.isDigit first = true :=
    Bytes.isDigit_of_mem_ofNat (digits_eq ▸ List.mem_cons_self)
  have exact := Bytes.digitsValue_ofNat value.natAbs
  have nonempty : (Bytes.ofNat value.natAbs).isEmpty = false := by
    rw [digits_eq]
    rfl
  unfold Bytes.ofInt Integer.read
  by_cases negative : value < 0
  · simp only [negative, ↓reduceIte, Reading.sign_minus, takeWhile_ofNat, nonempty,
      Bool.false_eq_true, accumulate_true, exact, List.length_cons, Option.some.injEq,
      Reading.mk.injEq]
    unfold Int64Range.min Int64Range.max at *
    omega
  · rw [if_neg negative, digits_eq, Reading.sign_of_isDigit firstDigit, ← digits_eq]
    simp only [takeWhile_ofNat, nonempty, Bool.false_eq_true, ↓reduceIte, accumulate_false, exact,
      Option.some.injEq, Reading.mk.injEq]
    unfold Int64Range.min Int64Range.max at *
    omega

theorem mem_ofInt {byte : UInt8} {value : Int} (member : byte ∈ Bytes.ofInt value) :
    Bytes.isDigit byte = true ∨ byte = 45 := by
  unfold Bytes.ofInt at member
  split at member
  · rcases List.mem_cons.mp member with minus | digit
    · exact .inr minus
    · exact .inl (Bytes.isDigit_of_mem_ofNat digit)
  · exact .inl (Bytes.isDigit_of_mem_ofNat member)

end Integer

namespace Bandwidth

theorem read_value_mem {attributes : Bytes} {bandwidth : Int}
    (read : Bandwidth.read attributes = some bandwidth) :
    Int64Range.min ≤ bandwidth ∧ bandwidth ≤ Int64Range.max := by
  unfold Bandwidth.read at read
  split at read
  · obtain ⟨reading, found, rfl⟩ := Option.map_eq_some_iff.mp read
    exact Integer.read_value_mem found
  · cases read

theorem read_attributeName_append {bandwidth : Int} (low : Int64Range.min ≤ bandwidth)
    (high : bandwidth ≤ Int64Range.max) :
    Bandwidth.read (attributeName ++ Bytes.ofInt bandwidth) = some bandwidth := by
  have nonempty : attributeName ≠ [] := by decide +kernel
  obtain ⟨first, rest, written⟩ := List.exists_cons_of_ne_nil
    (List.append_ne_nil_of_left_ne_nil nonempty (Bytes.ofInt bandwidth))
  have found : Bytes.find? attributeName (attributeName ++ Bytes.ofInt bandwidth) = some 0 := by
    rw [written, Bytes.find?, if_pos]
    rw [← written]
    exact List.isPrefixOf_iff_prefix.mpr (List.prefix_append _ _)
  rw [Bandwidth.read, found]
  dsimp only
  rw [Nat.zero_add, List.drop_left, Integer.read_ofInt low high]
  rfl

end Bandwidth

namespace Micros

/-- A duration read lies between `-Int64Range.max` and `Int64Range.max`: its magnitude saturates
before the sign is applied. -/
theorem read_value_mem {text : Bytes} {reading : Reading} (read : Micros.read text = some reading) :
    -Int64Range.max ≤ reading.value ∧ reading.value ≤ Int64Range.max := by
  unfold Micros.read at read
  generalize Reading.sign (text.dropWhile Bytes.isBlank) = signed at read
  obtain ⟨negative, signWidth, body⟩ := signed
  dsimp only at read
  generalize SecondsText.scan body = parts at read
  split at read
  · cases read
  · cases read
    dsimp only
    rw [Int64Range.addCapped_eq, Int64Range.mulCapped_eq perSecond_pos]
    have whole := Integer.accumulate_false_nonneg parts.whole
    have scaled := Int64Range.capAbove_nonneg (Int.mul_nonneg whole (Int.natCast_nonneg perSecond))
    have magnitudeLow := Int64Range.capAbove_nonneg
      (Int.add_nonneg scaled (Int.natCast_nonneg (fractionValue parts.fraction)))
    have magnitudeHigh := Int64Range.capAbove_le_max
      (Int64Range.capAbove (Integer.accumulate false parts.whole * perSecond) +
        fractionValue parts.fraction)
    split <;> omega

theorem fractionText_spec {remainder : Nat} (small : remainder < perSecond) :
    (∀ byte ∈ fractionText remainder, Bytes.isDigit byte = true) ∧
      fractionValue (fractionText remainder) = remainder := by
  have short : (Bytes.ofNat remainder).length ≤ fractionDigits := by
    rw [Bytes.ofNat, List.length_map, Nat.length_toDigits_le_iff (by decide) (by decide)]
    simpa [perSecond, fractionDigits] using small
  -- the remainder padded on the left to six digits
  have padded_eq : (List.replicate fractionDigits 48 ++ Bytes.ofNat remainder).drop
      (Bytes.ofNat remainder).length =
      List.replicate (fractionDigits - (Bytes.ofNat remainder).length) 48 ++
        Bytes.ofNat remainder := by
    rw [List.drop_append_of_le_length (by simpa using short), List.drop_replicate]
  generalize paddedDef : List.replicate (fractionDigits - (Bytes.ofNat remainder).length) 48 ++
    Bytes.ofNat remainder = padded at padded_eq
  have paddedLength : padded.length = fractionDigits := by
    rw [← paddedDef, List.length_append, List.length_replicate]
    omega
  have paddedValue : Bytes.digitsValue padded = remainder := by
    rw [← paddedDef, Bytes.digitsValue_append, Bytes.digitsValue_replicate_zero, Nat.zero_mul,
      Nat.zero_add, Bytes.digitsValue_ofNat]
  have paddedDigits : ∀ byte ∈ padded, Bytes.isDigit byte = true := by
    intro byte member
    rw [← paddedDef] at member
    rcases List.mem_append.mp member with zero | digit
    · rw [List.eq_of_mem_replicate zero]
      rfl
    · exact Bytes.isDigit_of_mem_ofNat digit
  -- dropping the trailing zeros leaves the digits that carry the value
  dsimp only [fractionText]
  rw [padded_eq]
  generalize strippedDef : (padded.reverse.dropWhile (· == 48)).reverse = stripped
  generalize trailingDef : (padded.reverse.takeWhile (· == 48)).reverse = trailing
  have split : padded = stripped ++ trailing := by
    rw [← strippedDef, ← trailingDef, ← List.reverse_append, List.takeWhile_append_dropWhile,
      List.reverse_reverse]
  have zeros : trailing = List.replicate trailing.length 48 := by
    refine List.eq_replicate_iff.mpr ⟨rfl, fun byte member => ?_⟩
    rw [← trailingDef, List.mem_reverse] at member
    have zero := List.all_eq_true.mp List.all_takeWhile byte member
    simpa using zero
  have lengths : stripped.length + trailing.length = fractionDigits := by
    rw [← paddedLength, split, List.length_append]
  refine ⟨fun byte member => paddedDigits byte (split ▸ List.mem_append_left trailing member), ?_⟩
  have whole : stripped.take fractionDigits = stripped := List.take_of_length_le (by omega)
  have exponent : fractionDigits - stripped.length = trailing.length := by omega
  rw [fractionValue_eq, whole, exponent, ← paddedValue, split, Bytes.digitsValue_append, zeros,
    Bytes.digitsValue_replicate_zero, List.length_replicate, Nat.add_zero]

theorem render_eq (duration : Int) :
    render duration = (if duration < 0 then [45] else []) ++
      (Bytes.ofNat (duration.natAbs / perSecond) ++
        if duration.natAbs % perSecond = 0 then []
        else 46 :: fractionText (duration.natAbs % perSecond)) := by
  by_cases negative : duration < 0 <;> by_cases whole : duration.natAbs % perSecond = 0 <;>
    simp [render, negative, whole]

theorem scan_ofNat (whole : Nat) :
    SecondsText.scan (Bytes.ofNat whole) = ⟨Bytes.ofNat whole, [], false⟩ := by
  have all : (Bytes.ofNat whole).dropWhile Bytes.isDigit = [] :=
    (Bytes.takeWhile_dropWhile_of_all fun _ member => Bytes.isDigit_of_mem_ofNat member).2
  simp only [SecondsText.scan, Integer.takeWhile_ofNat, all]

theorem scan_ofNat_point (whole : Nat) {fraction : Bytes}
    (digits : ∀ byte ∈ fraction, Bytes.isDigit byte = true) :
    SecondsText.scan (Bytes.ofNat whole ++ 46 :: fraction) = ⟨Bytes.ofNat whole, fraction, true⟩ := by
  have wholeDigits : ∀ byte ∈ Bytes.ofNat whole, Bytes.isDigit byte = true :=
    fun _ member => Bytes.isDigit_of_mem_ofNat member
  have point : Bytes.isDigit 46 = false := by decide
  have stops : (46 :: fraction).takeWhile Bytes.isDigit = [] := by
    simp [point]
  have rests : (46 :: fraction).dropWhile Bytes.isDigit = 46 :: fraction := by
    simp [point]
  simp only [SecondsText.scan, List.takeWhile_append_of_pos wholeDigits,
    List.dropWhile_append_of_pos wholeDigits, stops, rests, List.append_nil,
    (Bytes.takeWhile_dropWhile_of_all digits).1]
  rfl

/-- Every duration between `-Int64Range.max` and `Int64Range.max` reads back from its text. -/
theorem read_render {duration : Int} (low : -Int64Range.max ≤ duration)
    (high : duration ≤ Int64Range.max) :
    (Micros.read (render duration)).map Reading.value = some duration := by
  -- the unsigned text scans as the whole seconds and a fraction worth the remainder
  obtain ⟨fraction, point, scanned, fractionEq⟩ : ∃ fraction point,
      SecondsText.scan (Bytes.ofNat (duration.natAbs / perSecond) ++
        if duration.natAbs % perSecond = 0 then []
        else 46 :: fractionText (duration.natAbs % perSecond)) =
        ⟨Bytes.ofNat (duration.natAbs / perSecond), fraction, point⟩ ∧
      fractionValue fraction = duration.natAbs % perSecond := by
    by_cases exact : duration.natAbs % perSecond = 0
    · refine ⟨[], false, ?_, ?_⟩
      · rw [if_pos exact, List.append_nil, scan_ofNat]
      · rw [exact]
        rfl
    · have spec := fractionText_spec (Nat.mod_lt duration.natAbs (by decide))
      exact ⟨_, true, by rw [if_neg exact, scan_ofNat_point _ spec.1], spec.2⟩
  -- and the magnitude read from them is the duration's, below the cap
  have magnitude : Int64Range.addCapped (Int64Range.mulCapped
      (Integer.accumulate false (Bytes.ofNat (duration.natAbs / perSecond))) perSecond)
        (fractionValue fraction : Nat) = duration.natAbs := by
    have parts := Nat.div_add_mod duration.natAbs perSecond
    have bound : (duration.natAbs : Int) ≤ Int64Range.max := by
      unfold Int64Range.max at *
      omega
    rw [Int64Range.addCapped_eq, Int64Range.mulCapped_eq perSecond_pos, fractionEq,
      Integer.accumulate_false, Bytes.digitsValue_ofNat]
    unfold Int64Range.capAbove Int64Range.max perSecond at *
    split <;> split <;> omega
  obtain ⟨first, rest, digits_eq⟩ :=
    List.exists_cons_of_ne_nil (Bytes.ofNat_ne_nil (duration.natAbs / perSecond))
  have firstDigit : Bytes.isDigit first = true :=
    Bytes.isDigit_of_mem_ofNat (digits_eq ▸ List.mem_cons_self)
  have wholeNonempty : (Bytes.ofNat (duration.natAbs / perSecond)).isEmpty = false := by
    rw [digits_eq]
    rfl
  generalize bodyDef : (Bytes.ofNat (duration.natAbs / perSecond) ++
    if duration.natAbs % perSecond = 0 then []
    else 46 :: fractionText (duration.natAbs % perSecond)) = body at scanned
  have bodyHead : body = first :: (body.drop 1) := by
    rw [← bodyDef, digits_eq]
    rfl
  have notBlank := (Bytes.not_blank_of_isDigit firstDigit).1
  rw [render_eq, bodyDef]
  by_cases negative : duration < 0
  · have minusNotBlank : Bytes.isBlank 45 = false := by decide
    simp only [negative, ↓reduceIte, List.singleton_append, Micros.read, List.takeWhile_cons,
      List.dropWhile_cons, minusNotBlank, Bool.false_eq_true, Reading.sign_minus, scanned,
      wholeNonempty, Bool.false_and, magnitude, Option.map_some, Option.some.injEq]
    omega
  · have blanks : body.takeWhile Bytes.isBlank = [] := by
      rw [bodyHead]
      simp [notBlank]
    have kept : body.dropWhile Bytes.isBlank = body := by
      rw [bodyHead]
      simp [notBlank]
    have signed : Reading.sign body = (false, 0, body) := by
      rw [bodyHead]
      exact Reading.sign_of_isDigit firstDigit _
    simp only [negative, ↓reduceIte, List.nil_append, Micros.read, blanks, kept, signed, scanned,
      wholeNonempty, Bool.false_and, Bool.false_eq_true, magnitude, Option.map_some,
      Option.some.injEq]
    omega

theorem mem_render {byte : UInt8} {duration : Int} (member : byte ∈ render duration) :
    Bytes.isDigit byte = true ∨ byte = 45 ∨ byte = 46 := by
  rw [render_eq] at member
  rcases List.mem_append.mp member with sign | unsigned
  · split at sign
    · exact .inr (.inl (List.mem_singleton.mp sign))
    · cases sign
  · rcases List.mem_append.mp unsigned with whole | tail
    · exact .inl (Bytes.isDigit_of_mem_ofNat whole)
    · split at tail
      · cases tail
      · rcases List.mem_cons.mp tail with point | digit
        · exact .inr (.inr point)
        · exact .inl ((fractionText_spec (Nat.mod_lt _ (by decide))).1 byte digit)

/-- A target duration read as whole seconds is written back as whole seconds, rounded up, that read
as the same duration, unless it saturated downwards. -/
theorem scale_wholeSecondsUp {seconds : Int} (low : Int64Range.min ≤ seconds)
    (high : seconds ≤ Int64Range.max)
    (notMin : Int64Range.scale perSecond seconds ≠ Int64Range.min) :
    Int64Range.min ≤ wholeSecondsUp (Int64Range.scale perSecond seconds) ∧
      wholeSecondsUp (Int64Range.scale perSecond seconds) ≤ Int64Range.max ∧
      Int64Range.scale perSecond (wholeSecondsUp (Int64Range.scale perSecond seconds)) =
        Int64Range.scale perSecond seconds := by
  simp only [Int64Range.scale_eq_clamp perSecond_pos] at *
  unfold Int64Range.clamp at *
  by_cases above : Int64Range.max < seconds * perSecond
  · -- saturated upwards: the seconds rounded up saturate again
    rw [if_pos above]
    decide
  · by_cases below : seconds * perSecond < Int64Range.min
    · rw [if_neg above, if_pos below] at notMin
      exact absurd rfl notMin
    · have whole : wholeSecondsUp (seconds * perSecond) = seconds := by
        unfold wholeSecondsUp
        rw [Int.mul_tdiv_cancel _ (by decide), Int.mul_tmod_left]
        simp
      rw [if_neg above, if_neg below, whole, if_neg above, if_neg below]
      exact ⟨low, high, rfl⟩

end Micros

end HlsManifest
