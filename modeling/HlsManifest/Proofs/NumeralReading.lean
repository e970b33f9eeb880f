import HlsManifest.Proofs.WrittenText
import HlsManifest.Event.Basic

/-!
# What the number readers take

A tag value is read from the front of its text. An integer is an optional sign and a run of
digits, within the text before the first blank; seconds are the same after leading blanks, with
an optional point and fraction digits. This module says exactly which texts read and what they
give: the exact number the text denotes, pinned to the range.

* `Integer.read_clamps_numeral`: a signed run of digits reads as its exact value clamped to the
  signed 64-bit range, and a text with no such run reads as nothing; the target duration taken
  from it is the exact value times a million, clamped once.
* `Micros.read_truncates_clamped`: seconds read as the exact value truncated to microseconds,
  with the magnitude capped at `Int64Range.max` before the sign is applied.

The readers never hold the exact value: each step pins its partial result to the range. The
proofs compare them with it one digit at a time (`Integer.accumulate_false`,
`Integer.accumulate_true`) and one saturating operation at a time (`Int64Range.scale_eq_clamp`).
-/

set_option autoImplicit false

namespace HlsManifest

/-- The sign a number may start with: none, `+` or `-`. -/
def SignText (sign : Bytes) : Prop :=
  sign = [] ∨ sign = [43] ∨ sign = [45]

/-- The exact value that a sign and a run of digits denote. -/
def signedValue (sign digits : Bytes) : Int :=
  if sign = [45] then -(Bytes.digitsValue digits : Int) else Bytes.digitsValue digits

namespace Int64Range

theorem clamp_of_nonneg {value : Int} (nonneg : 0 ≤ value) : clamp value = Min.min value max := by
  unfold clamp min max
  split <;> omega

theorem clamp_of_nonpos {value : Int} (nonpos : value ≤ 0) : clamp value = Max.max value min := by
  unfold clamp min max
  split
  · omega
  · split <;> omega

theorem clamp_of_max_le {value : Int} (high : max ≤ value) : clamp value = max := by
  unfold clamp
  by_cases above : max < value
  · rw [if_pos above]
  · rw [if_neg above, if_neg (by unfold min max at *; omega)]
    omega

theorem clamp_of_le_min {value : Int} (low : value ≤ min) : clamp value = min := by
  unfold clamp
  rw [if_neg (by unfold min max at *; omega)]
  by_cases below : value < min
  · rw [if_pos below]
  · rw [if_neg below]
    omega

/-- Clamping before a product by a positive factor changes nothing: a value past an end stays past
it once multiplied. -/
theorem clamp_mul_clamp {factor : Int} (positive : 0 < factor) (value : Int) :
    clamp (clamp value * factor) = clamp (value * factor) := by
  have grows : ∀ value : Int, 0 ≤ value → value ≤ value * factor := fun value nonneg => by
    have extra := Int.mul_nonneg nonneg (show 0 ≤ factor - 1 by omega)
    rw [Int.mul_sub, Int.mul_one] at extra
    omega
  have sinks : ∀ value : Int, value ≤ 0 → value * factor ≤ value := fun value nonpos => by
    have extra := Int.mul_nonneg (Int.neg_nonneg_of_nonpos nonpos) (show 0 ≤ factor - 1 by omega)
    rw [Int.mul_sub, Int.mul_one, Int.neg_mul] at extra
    omega
  by_cases above : max ≤ value
  · have top := grows max (by decide)
    have past := grows value (by unfold max at above; omega)
    rw [clamp_of_max_le above, clamp_of_max_le top, clamp_of_max_le (by omega)]
  · by_cases below : value ≤ min
    · have bottom := sinks min (by decide)
      have past := sinks value (by unfold min at below; omega)
      rw [clamp_of_le_min below, clamp_of_le_min bottom, clamp_of_le_min (by omega)]
    · rw [@clamp_of_mem value (by omega) (by omega)]

end Int64Range

namespace Bytes

/-- A run of digits followed by a byte that is no digit is exactly what `takeWhile` takes. -/
theorem takeWhile_dropWhile_isDigit {digits rest : Bytes}
    (all : ∀ byte ∈ digits, isDigit byte = true)
    (stops : ∀ byte ∈ rest.head?, isDigit byte = false) :
    (digits ++ rest).takeWhile isDigit = digits ∧ (digits ++ rest).dropWhile isDigit = rest := by
  have restTaken : rest.takeWhile isDigit = [] := by
    cases rest with
    | nil => rfl
    | cons byte after => simp [stops byte rfl]
  have restKept : rest.dropWhile isDigit = rest := by
    cases rest with
    | nil => rfl
    | cons byte after => simp [stops byte rfl]
  rw [List.takeWhile_append_of_pos all, List.dropWhile_append_of_pos all, restTaken, restKept,
    List.append_nil]
  exact ⟨rfl, rfl⟩

theorem isDigit_of_mem_takeWhile (text : Bytes) :
    ∀ byte ∈ text.takeWhile isDigit, isDigit byte = true :=
  fun byte member => List.all_eq_true.mp List.all_takeWhile byte member

theorem head?_dropWhile_isDigit (text : Bytes) :
    ∀ byte ∈ (text.dropWhile isDigit).head?, isDigit byte = false := by
  intro byte member
  have stops := List.head?_dropWhile_not isDigit text
  rw [Option.mem_def] at member
  rw [member] at stops
  exact stops

theorem isDigit_eq_false_of_isBlank {byte : UInt8} (blank : isBlank byte = true) :
    isDigit byte = false := by
  cases digit : isDigit byte with
  | false => rfl
  | true => rw [(not_blank_of_isDigit digit).1] at blank; cases blank

end Bytes

namespace Reading

/-- A sign that is taken whenever there is one is read off the front of a text. -/
theorem sign_append {sign rest : Bytes} (signed : SignText sign)
    (taken : sign = [] → ∀ byte ∈ rest.head?, byte ≠ 43 ∧ byte ≠ 45) :
    Reading.sign (sign ++ rest) = (decide (sign = [45]), sign.length, rest) := by
  rcases signed with rfl | rfl | rfl
  · cases rest with
    | nil => rfl
    | cons byte after =>
        obtain ⟨notPlus, notMinus⟩ := taken rfl byte rfl
        simp [Reading.sign, notPlus, notMinus]
  · simp [Reading.sign]
  · simp [Reading.sign]

/-- Every text starts with the sign `Reading.sign` takes off it. -/
theorem exists_sign (text : Bytes) :
    ∃ sign, SignText sign ∧ (sign = [] → ∀ byte ∈ (Reading.sign text).2.2.head?,
        byte ≠ 43 ∧ byte ≠ 45) ∧ text = sign ++ (Reading.sign text).2.2 := by
  cases text with
  | nil => exact ⟨[], .inl rfl, by simp [Reading.sign], rfl⟩
  | cons byte after =>
      by_cases minus : byte = 45
      · subst minus
        exact ⟨[45], .inr (.inr rfl), by simp, by simp [Reading.sign]⟩
      · by_cases plus : byte = 43
        · subst plus
          exact ⟨[43], .inr (.inl rfl), by simp, by simp [Reading.sign]⟩
        · refine ⟨[], .inl rfl, fun _ first member => ?_, ?_⟩
          · simp only [Reading.sign, beq_iff_eq, minus, plus, ↓reduceIte, List.head?_cons,
              Option.mem_def, Option.some.injEq] at member
            rw [← member]
            exact ⟨plus, minus⟩
          · simp [Reading.sign, minus, plus]

end Reading

namespace Integer

/-- The text an integer is read from: up to the first space or tab. -/
def token (text : Bytes) : Bytes :=
  text.takeWhile fun byte => !Bytes.isBlank byte

/-- A text split as a sign, a non-empty run of digits, and a rest that does not go on with a
digit. -/
structure Numeral (text sign digits rest : Bytes) : Prop where
  split : text = sign ++ digits ++ rest
  signed : SignText sign
  allDigits : ∀ byte ∈ digits, Bytes.isDigit byte = true
  nonempty : digits ≠ []
  stops : ∀ byte ∈ rest.head?, Bytes.isDigit byte = false

/-- What follows the token starts with a blank, which is no digit. -/
theorem head?_after_token (text : Bytes) :
    ∀ byte ∈ (text.dropWhile fun byte => !Bytes.isBlank byte).head?,
      Bytes.isDigit byte = false := by
  intro byte member
  have blank := List.head?_dropWhile_not (fun byte => !Bytes.isBlank byte) text
  rw [Option.mem_def] at member
  rw [member] at blank
  exact Bytes.isDigit_eq_false_of_isBlank (Bool.not_eq_false' _ ▸ blank)

theorem mem_head?_token {text : Bytes} {byte : UInt8} (member : byte ∈ (token text).head?) :
    byte ∈ text.head? := by
  cases text with
  | nil => simp [token] at member
  | cons first after =>
      unfold token at member
      rw [List.takeWhile_cons] at member
      split at member
      · exact member
      · simp at member

theorem token_append {before : Bytes} (nonblank : ∀ byte ∈ before, Bytes.isBlank byte = false)
    (rest : Bytes) : token (before ++ rest) = before ++ token rest :=
  List.takeWhile_append_of_pos fun byte member => by simp [nonblank byte member]

theorem signText_nonblank {sign : Bytes} (signed : SignText sign) :
    ∀ byte ∈ sign, Bytes.isBlank byte = false := by
  intro byte member
  rcases signed with rfl | rfl | rfl
  · cases member
  · rw [List.mem_singleton.mp member]
    rfl
  · rw [List.mem_singleton.mp member]
    rfl

theorem digits_nonblank {digits : Bytes} (all : ∀ byte ∈ digits, Bytes.isDigit byte = true) :
    ∀ byte ∈ digits, Bytes.isBlank byte = false :=
  fun byte member => (Bytes.not_blank_of_isDigit (all byte member)).1

/-- The saturating word of a signed run of digits is its exact value clamped. -/
theorem accumulate_eq_clamp {sign : Bytes} (signed : SignText sign) (digits : Bytes) :
    accumulate (decide (sign = [45])) digits = Int64Range.clamp (signedValue sign digits) := by
  have natural := Int.natCast_nonneg (Bytes.digitsValue digits)
  rcases signed with rfl | rfl | rfl
  · rw [decide_eq_false (by decide), accumulate_false, signedValue, if_neg (by decide),
      Int64Range.clamp_of_nonneg natural]
  · rw [decide_eq_false (by decide), accumulate_false, signedValue, if_neg (by decide),
      Int64Range.clamp_of_nonneg natural]
  · rw [decide_eq_true rfl, accumulate_true, signedValue, if_pos rfl,
      Int64Range.clamp_of_nonpos (Int.neg_nonpos_of_nonneg natural)]

/-- A numeral before the first blank reads as its exact value clamped, taking its sign and
digits. -/
theorem read_of_numeral {text sign digits rest : Bytes}
    (numeral : Numeral (token text) sign digits rest) :
    read text = some ⟨Int64Range.clamp (signedValue sign digits), sign.length + digits.length⟩ := by
  -- past the numeral comes the rest of the token, then a blank or nothing
  have whole : text = sign ++ (digits ++ (rest ++ text.dropWhile fun byte => !Bytes.isBlank byte)) := by
    conv => lhs; rw [← @List.takeWhile_append_dropWhile _ (fun byte => !Bytes.isBlank byte) text]
    rw [← token, numeral.split]
    simp
  have stops : ∀ byte ∈ (rest ++ text.dropWhile fun byte => !Bytes.isBlank byte).head?,
      Bytes.isDigit byte = false := by
    cases rest with
    | cons first after => exact fun byte member => numeral.stops byte (by simpa using member)
    | nil => exact head?_after_token text
  obtain ⟨taken, _⟩ := Bytes.takeWhile_dropWhile_isDigit numeral.allDigits stops
  have signTaken : sign = [] → ∀ byte ∈ (digits ++ (rest ++ text.dropWhile fun byte =>
      !Bytes.isBlank byte)).head?, byte ≠ 43 ∧ byte ≠ 45 := by
    intro _ byte member
    obtain ⟨first, others, rfl⟩ := List.exists_cons_of_ne_nil numeral.nonempty
    simp only [List.cons_append, List.head?_cons, Option.mem_def, Option.some.injEq] at member
    subst member
    obtain ⟨-, notMinus, notPlus⟩ := Bytes.not_blank_of_isDigit (numeral.allDigits first (by simp))
    exact ⟨notPlus, notMinus⟩
  have nonempty : digits.isEmpty = false := List.isEmpty_eq_false_iff.mpr numeral.nonempty
  rw [read, whole, Reading.sign_append numeral.signed signTaken]
  simp only [taken, nonempty, Bool.false_eq_true, ↓reduceIte, accumulate_eq_clamp numeral.signed]

/-- Whatever reads holds a numeral before its first blank. -/
theorem numeral_of_read {text : Bytes} {reading : Reading} (read : Integer.read text = some reading) :
    ∃ sign digits rest, Numeral (token text) sign digits rest := by
  obtain ⟨sign, signed, _, split⟩ := Reading.exists_sign text
  generalize bodyDef : (Reading.sign text).2.2 = body at split
  have signedRead : Reading.sign text = ((Reading.sign text).1, (Reading.sign text).2.1, body) := by
    rw [← bodyDef]
  unfold Integer.read at read
  rw [signedRead] at read
  dsimp only at read
  split at read
  · cases read
  · next nonempty =>
      have digits := Bytes.isDigit_of_mem_takeWhile body
      have text_eq : text = (sign ++ body.takeWhile Bytes.isDigit) ++ body.dropWhile Bytes.isDigit := by
        rw [List.append_assoc, List.takeWhile_append_dropWhile, split]
      have nonblank : ∀ byte ∈ sign ++ body.takeWhile Bytes.isDigit, Bytes.isBlank byte = false := by
        intro byte member
        rcases List.mem_append.mp member with inSign | inDigits
        · exact signText_nonblank signed byte inSign
        · exact digits_nonblank digits byte inDigits
      refine ⟨sign, body.takeWhile Bytes.isDigit, token (body.dropWhile Bytes.isDigit), ?_, signed,
        digits, by simpa using nonempty, ?_⟩
      · rw [text_eq, token_append nonblank]
      · exact fun byte member => Bytes.head?_dropWhile_isDigit body byte (mem_head?_token member)

/-- A target duration tag whose value holds a numeral before its first blank: its event carries,
and the playlist reader takes, the numeral's exact value times a million, clamped once. -/
theorem targetDuration_of_numeral {text sign digits rest : Bytes}
    (numeral : Numeral (token text) sign digits rest) {record : Record}
    (bytes_eq : record.bytes = Bytes.ofString "#EXT-X-TARGETDURATION:" ++ text) :
    (Event.ofRecord record).value = Int64Range.clamp (signedValue sign digits * Micros.perSecond) ∧
      ∀ strict state, Decoder.step strict state record =
        .ok { state with playlist := { state.playlist with
          targetDuration := Int64Range.clamp (signedValue sign digits * Micros.perSecond) } } := by
  have readText := read_of_numeral numeral
  have duration : Int64Range.scale Micros.perSecond (Int64Range.clamp (signedValue sign digits)) =
      Int64Range.clamp (signedValue sign digits * Micros.perSecond) := by
    rw [Int64Range.scale_eq_clamp Micros.perSecond_pos,
      Int64Range.clamp_mul_clamp Micros.perSecond_pos]
  have kind : Directive.classify record.bytes = .targetDuration := by
    rw [Directive.classify, bytes_eq, Directive.recognize_targetDuration_append]
  refine ⟨?_, fun strict state => ?_⟩
  · simp only [Event.ofRecord, bytes_eq, Directive.recognize_targetDuration_append, List.drop_left,
      readOrZero, readText, duration]
  · rw [Decoder.step_eq, if_neg (by simp [kind])]
    simp only [Decoder.advance, kind]
    simp only [Directive.value, bytes_eq, Directive.recognize_targetDuration_append, List.drop_left,
      readText, duration]

/-- Reading an integer gives the exact value of the numeral before the first blank, clamped to the
signed 64-bit range, and nothing when no numeral stands there. A word times a positive factor is
the exact product clamped, so the target duration read from such a text is the numeral's value
times a million, clamped once. -/
theorem read_clamps_numeral (text : Bytes) :
    (∀ sign digits rest, Numeral (token text) sign digits rest →
      read text = some ⟨Int64Range.clamp (signedValue sign digits), sign.length + digits.length⟩ ∧
      ∀ record : Record, record.bytes = Bytes.ofString "#EXT-X-TARGETDURATION:" ++ text →
        (Event.ofRecord record).value =
            Int64Range.clamp (signedValue sign digits * Micros.perSecond) ∧
          ∀ strict state, Decoder.step strict state record =
            .ok { state with playlist := { state.playlist with
              targetDuration := Int64Range.clamp (signedValue sign digits * Micros.perSecond) } }) ∧
    ((¬∃ sign digits rest, Numeral (token text) sign digits rest) → read text = none) ∧
    ∀ value, Int64Range.scale Micros.perSecond value = Int64Range.clamp (value * Micros.perSecond) := by
  refine ⟨fun sign digits rest numeral => ⟨read_of_numeral numeral,
    fun record bytes_eq => targetDuration_of_numeral numeral bytes_eq⟩, fun noNumeral => ?_,
    Int64Range.scale_eq_clamp Micros.perSecond_pos⟩
  cases reading : read text with
  | none => rfl
  | some found => exact absurd (numeral_of_read reading) noNumeral

-- Past the smallest word the numeral saturates, and the blank ends it.
example : read (Bytes.ofString "-99999999999999999999 5") = some ⟨Int64Range.min, 21⟩ := by
  decide +kernel

end Integer

namespace Micros

/-- A seconds text after its blanks, split as a sign, the whole digits and what follows them. A
sign is taken whenever there is one, and the whole digits run as far as they go. -/
structure SecondsNumeral (text sign whole rest : Bytes) : Prop where
  split : text = sign ++ whole ++ rest
  signed : SignText sign
  signTaken : sign = [] → ∀ byte ∈ (whole ++ rest).head?, byte ≠ 43 ∧ byte ≠ 45
  allDigits : ∀ byte ∈ whole, Bytes.isDigit byte = true
  stops : ∀ byte ∈ rest.head?, Bytes.isDigit byte = false

/-- What follows the whole digits: a point and the digits after it as far as they go, or no point
and no fraction. -/
inductive Fraction : Bytes → Bytes → Bool → Prop
  | point {digits after : Bytes} (allDigits : ∀ byte ∈ digits, Bytes.isDigit byte = true)
      (stops : ∀ byte ∈ after.head?, Bytes.isDigit byte = false) :
      Fraction (46 :: (digits ++ after)) digits true
  | none {rest : Bytes} (noPoint : rest.head? ≠ some 46) : Fraction rest [] false

/-- The first six fraction digits, padded on the right with zeros, read as a number. -/
def paddedFraction (digits : Bytes) : Nat :=
  Bytes.digitsValue ((digits ++ List.replicate fractionDigits 48).take fractionDigits)

theorem fraction_exists (rest : Bytes) : ∃ fraction point, Fraction rest fraction point := by
  cases rest with
  | nil => exact ⟨[], false, .none (by simp)⟩
  | cons byte after =>
      by_cases point : byte = 46
      · subst point
        have split := (@List.takeWhile_append_dropWhile _ Bytes.isDigit after).symm
        refine ⟨after.takeWhile Bytes.isDigit, true, ?_⟩
        conv => arg 1; rw [split]
        exact .point (Bytes.isDigit_of_mem_takeWhile after) (Bytes.head?_dropWhile_isDigit after)
      · exact ⟨[], false, .none (by simp [point])⟩

theorem scan_of_fraction {whole rest fraction : Bytes} {point : Bool}
    (allDigits : ∀ byte ∈ whole, Bytes.isDigit byte = true)
    (stops : ∀ byte ∈ rest.head?, Bytes.isDigit byte = false)
    (parts : Fraction rest fraction point) :
    SecondsText.scan (whole ++ rest) = ⟨whole, fraction, point⟩ := by
  obtain ⟨taken, dropped⟩ := Bytes.takeWhile_dropWhile_isDigit allDigits stops
  cases parts with
  | point fractionDigits fractionStops =>
      have fractionTaken := (Bytes.takeWhile_dropWhile_isDigit fractionDigits fractionStops).1
      simp [SecondsText.scan, taken, dropped, fractionTaken]
  | none noPoint =>
      cases rest with
      | nil =>
          rw [List.append_nil] at taken dropped ⊢
          simp [SecondsText.scan, taken, dropped]
      | cons byte after =>
          have notPoint : byte ≠ 46 := fun same => noPoint (by rw [same]; rfl)
          simp [SecondsText.scan, taken, dropped, notPoint]

/-- Keeping six fraction digits and padding them is reading the first six of the digits padded
with zeros. -/
theorem fractionValue_eq_paddedFraction (digits : Bytes) :
    fractionValue digits = paddedFraction digits := by
  have kept := List.length_take_le fractionDigits digits
  rw [fractionValue_eq, paddedFraction, List.take_append, List.take_replicate,
    Bytes.digitsValue_append, Bytes.digitsValue_replicate_zero, List.length_replicate, Nat.add_zero,
    List.length_take]
  congr 2
  unfold fractionDigits at *
  omega

/-- The three saturating steps together cap the exact magnitude once. -/
theorem magnitude_eq (whole fraction : Bytes) :
    Int64Range.addCapped (Int64Range.mulCapped (Integer.accumulate false whole) perSecond)
        (fractionValue fraction) =
      Min.min ((Bytes.digitsValue whole * perSecond + paddedFraction fraction : Nat) : Int)
        Int64Range.max := by
  rw [Int64Range.addCapped_eq, Int64Range.mulCapped_eq perSecond_pos, Integer.accumulate_false,
    fractionValue_eq_paddedFraction]
  unfold Int64Range.capAbove Int64Range.max perSecond
  split <;> split <;> omega

theorem secondsNumeral_exists (text : Bytes) :
    ∃ sign whole rest, SecondsNumeral text sign whole rest := by
  obtain ⟨sign, signed, taken, split⟩ := Reading.exists_sign text
  generalize (Reading.sign text).2.2 = body at taken split
  refine ⟨sign, body.takeWhile Bytes.isDigit, body.dropWhile Bytes.isDigit, ?_, signed, ?_,
    Bytes.isDigit_of_mem_takeWhile body, Bytes.head?_dropWhile_isDigit body⟩
  · rw [List.append_assoc, List.takeWhile_append_dropWhile, split]
  · rw [List.takeWhile_append_dropWhile]
    exact taken

theorem read_of_secondsNumeral {text sign whole rest fraction : Bytes} {point : Bool}
    (numeral : SecondsNumeral (text.dropWhile Bytes.isBlank) sign whole rest)
    (parts : Fraction rest fraction point) :
    Micros.read text =
      if whole = [] ∧ fraction = [] then none
      else
        let magnitude := Min.min
          ((Bytes.digitsValue whole * perSecond + paddedFraction fraction : Nat) : Int) Int64Range.max
        some ⟨if sign = [45] then -magnitude else magnitude,
          (text.takeWhile Bytes.isBlank).length + sign.length + whole.length +
            (if point then 1 + fraction.length else 0)⟩ := by
  have signed : Reading.sign (text.dropWhile Bytes.isBlank) =
      (decide (sign = [45]), sign.length, whole ++ rest) := by
    rw [numeral.split, List.append_assoc]
    exact Reading.sign_append numeral.signed numeral.signTaken
  rw [Micros.read, signed]
  dsimp only
  rw [scan_of_fraction numeral.allDigits numeral.stops parts]
  by_cases empty : whole = [] ∧ fraction = []
  · obtain ⟨rfl, rfl⟩ := empty
    rfl
  · have someDigit : (whole.isEmpty && fraction.isEmpty) = false := by
      rw [Bool.and_eq_false_iff, List.isEmpty_eq_false_iff, List.isEmpty_eq_false_iff]
      exact Decidable.not_and_iff_not_or_not.mp empty
    rw [if_neg empty]
    simp only [someDigit, Bool.false_eq_true, ↓reduceIte, magnitude_eq, decide_eq_true_eq,
      SecondsText.width, Nat.add_assoc]

/-- Reading seconds. After the blanks come a sign, taken whenever there is one, the whole digits
as far as they go and, after a point, the fraction digits as far as they go. With a digit on
either side of the point the text reads as its exact value truncated to microseconds, its
magnitude capped at `Int64Range.max` and then signed, and the reading takes the blanks, the sign,
both digit runs and the point; with no digit it reads as nothing. So every duration read lies
between `-Int64Range.max` and `Int64Range.max`. -/
theorem read_truncates_clamped (text : Bytes) :
    (∃ sign whole rest fraction point,
      SecondsNumeral (text.dropWhile Bytes.isBlank) sign whole rest ∧
        Fraction rest fraction point) ∧
    (∀ sign whole rest fraction point,
      SecondsNumeral (text.dropWhile Bytes.isBlank) sign whole rest →
      Fraction rest fraction point →
      Micros.read text =
        if whole = [] ∧ fraction = [] then none
        else
          let magnitude := Min.min
            ((Bytes.digitsValue whole * perSecond + paddedFraction fraction : Nat) : Int)
            Int64Range.max
          some ⟨if sign = [45] then -magnitude else magnitude,
            (text.takeWhile Bytes.isBlank).length + sign.length + whole.length +
              (if point then 1 + fraction.length else 0)⟩) ∧
    ∀ reading, Micros.read text = some reading →
      -Int64Range.max ≤ reading.value ∧ reading.value ≤ Int64Range.max := by
  obtain ⟨sign, whole, rest, numeral⟩ := secondsNumeral_exists (text.dropWhile Bytes.isBlank)
  obtain ⟨fraction, point, parts⟩ := fraction_exists rest
  exact ⟨⟨sign, whole, rest, fraction, point, numeral, parts⟩,
    fun _ _ _ _ _ numeral parts => read_of_secondsNumeral numeral parts,
    fun _ read => read_value_mem read⟩

-- The seventh fraction digit is read past and dropped, not rounded.
example : Micros.read (Bytes.ofString " -1.1234569x") = some ⟨-1123456, 11⟩ := by
  decide +kernel

end Micros

end HlsManifest
