import HlsManifest.Manifest.Record
import HlsManifest.Manifest.Span

/-!
# Where records lie in their buffer

A buffer is its pieces joined by newlines: `pieces_eq_splitOn` says the pieces are the buffer
split on the newline byte, and `intercalate_pieces` that joining them gives the buffer back.

The reader reports positions and copies nothing, so what matters is where a record lies. Every
record of `split` stands in the buffer at its own offset (`occursAt_of_mem_split`), so a span
made of a record's offset and length, or of any part of it, addresses exactly those bytes
(`Span.bytes?_of_occursAt`). Records are numbered from 1 in order, blank ones included
(`line_of_split_eq`), and a record's bytes are its raw line, the piece less one carriage return
(`map_bytes_split`).
-/

set_option autoImplicit false

namespace HlsManifest

namespace Bytes

/-- `text` stands in `data` from byte `offset` on. -/
def OccursAt (data text : Bytes) (offset : Nat) : Prop :=
  ∃ before after, data = before ++ text ++ after ∧ before.length = offset

theorem OccursAt.left {data first second : Bytes} {offset : Nat}
    (occurs : OccursAt data (first ++ second) offset) : OccursAt data first offset := by
  obtain ⟨before, after, rfl, rfl⟩ := occurs
  exact ⟨before, second ++ after, by simp, rfl⟩

theorem OccursAt.right {data first second : Bytes} {offset : Nat}
    (occurs : OccursAt data (first ++ second) offset) :
    OccursAt data second (offset + first.length) := by
  obtain ⟨before, after, rfl, rfl⟩ := occurs
  exact ⟨before ++ first, after, by simp, by simp⟩

theorem OccursAt.of_isPrefix {data text start : Bytes} {offset : Nat}
    (occurs : OccursAt data text offset) (isPrefix : start <+: text) :
    OccursAt data start offset := by
  obtain ⟨rest, rfl⟩ := isPrefix
  exact occurs.left

theorem OccursAt.drop {data text : Bytes} {offset : Nat}
    (occurs : OccursAt data text offset) {count : Nat} (within : count ≤ text.length) :
    OccursAt data (text.drop count) (offset + count) := by
  rw [← List.take_append_drop count text] at occurs
  have shifted := occurs.right
  rwa [List.length_take, Nat.min_eq_left within] at shifted

theorem OccursAt.end_le {data text : Bytes} {offset : Nat} (occurs : OccursAt data text offset) :
    offset + text.length ≤ data.length := by
  obtain ⟨before, after, rfl, rfl⟩ := occurs
  simp only [List.length_append]
  omega

end Bytes

namespace Span

/-- A span made of the offset and the length of a text that stands in the buffer addresses that
text. -/
theorem bytes?_of_occursAt {data text : Bytes} {offset : Nat}
    (occurs : Bytes.OccursAt data text offset) :
    (⟨offset, text.length⟩ : Span).bytes? data = some text := by
  have fits := occurs.end_le
  obtain ⟨before, after, rfl, rfl⟩ := occurs
  have inside : (⟨before.length, text.length⟩ : Span).Inside (before ++ text ++ after).length := by
    simp only [Inside]
    omega
  rw [bytes?, if_pos inside, cut]
  simp

/-- An end that stays within the words is the exact sum. -/
theorem stop_of_mem {span : Span} (low : Int64Range.min ≤ span.offset + span.length)
    (high : span.offset + span.length ≤ Int64Range.max) :
    span.stop = span.offset + span.length := by
  have modulus : ((Nat.pow 2 64 : Nat) : Int) = 18446744073709551616 := rfl
  unfold stop Int64Range.wrap
  simp only [Int64Range.min, Int64Range.max] at low high
  apply Int.bmod_eq_of_le <;> rw [modulus] <;> omega

/-- Inside a buffer whose length is a signed 64-bit word, the end of a span inside it cannot
wrap around, so the word lookup gives what the exact one gives. -/
theorem read_of_inside {span : Span} {data : Bytes} (inside : span.Inside data.length)
    (bounded : (data.length : Int) ≤ Int64Range.max) :
    span.read (some data) = .ok (span.bytes? data) := by
  have ⟨offsetNonneg, lengthNonneg, fits⟩ := inside
  have exact : span.stop = span.offset + span.length :=
    stop_of_mem (by simp only [Int64Range.min]; omega) (Int.le_trans fits bounded)
  have passes : ¬(span.offset < 0 ∨ span.length < 0 ∨ (data.length : Int) < span.stop) := by
    rw [exact]
    omega
  have notWrapped : ¬span.stop < 0 := by
    rw [exact]
    omega
  simp only [read, Option.getD_some, passes, notWrapped, ↓reduceIte, bytes?, inside,
    Option.map_some]

/-- A span that addresses some text lies inside the buffer. -/
theorem inside_of_bytes? {span : Span} {data text : Bytes} (addressed : span.bytes? data = some text) :
    span.Inside data.length :=
  (bytes?_isSome_iff span data).mp (Option.isSome_iff_exists.mpr ⟨text, addressed⟩)

theorem text_of_bytes? {span : Span} {data text : Bytes} (addressed : span.bytes? data = some text)
    (bounded : (data.length : Int) ≤ Int64Range.max) : span.text data = text := by
  rw [Span.text, read_of_inside (inside_of_bytes? addressed) bounded, addressed]

end Span

namespace Record

/-- The raw lines of a buffer, split on newlines, blank ones included, each less one carriage
return at its end. The first is the header. -/
def lines (data : Bytes) : List Bytes :=
  (data.splitOn Bytes.newline).map dropCarriageReturn

theorem pieces_eq_splitOn (data : Bytes) : pieces data = data.splitOn Bytes.newline := by
  induction data with
  | nil => rfl
  | cons byte rest ih =>
      rw [List.splitOn_cons_eq_if_modifyHead, ← ih]
      simp only [pieces]
      by_cases separator : byte = Bytes.newline
      · simp [separator]
      · have notBeq : (byte == Bytes.newline) = false := by simpa using separator
        rw [if_neg separator, notBeq]
        cases split : pieces rest with
        | nil => exact absurd split (pieces_ne_nil rest)
        | cons first others => simp

theorem intercalate_pieces (data : Bytes) : [Bytes.newline].intercalate (pieces data) = data := by
  rw [pieces_eq_splitOn, List.intercalate_splitOn]

theorem pieces_intercalate {lines : List Bytes} (noNewline : ∀ line ∈ lines, Bytes.newline ∉ line)
    (nonempty : lines ≠ []) : pieces ([Bytes.newline].intercalate lines) = lines := by
  rw [pieces_eq_splitOn, List.splitOn_intercalate _ noNewline nonempty]

theorem dropCarriageReturn_isPrefix (piece : Bytes) : dropCarriageReturn piece <+: piece := by
  unfold dropCarriageReturn
  split
  · exact List.dropLast_prefix piece
  · exact List.prefix_refl piece

theorem dropCarriageReturn_of_getLast? {piece : Bytes}
    (noReturn : piece.getLast? ≠ some Bytes.carriageReturn) : dropCarriageReturn piece = piece := by
  simp [dropCarriageReturn, noReturn]

theorem occursAt_of_mem_number {data : Bytes} {pieces : List Bytes} {line offset : Nat}
    (joined : Bytes.OccursAt data ([Bytes.newline].intercalate pieces) offset) :
    ∀ record ∈ number line offset pieces, Bytes.OccursAt data record.bytes record.offset := by
  induction pieces generalizing line offset with
  | nil => simp [number]
  | cons piece rest ih =>
      intro record member
      simp only [number, List.mem_cons] at member
      -- the piece comes first in the joined text, and the rest after its newline
      have split : ∃ tail, [Bytes.newline].intercalate (piece :: rest) = piece ++ tail ∧
          (rest ≠ [] → tail = [Bytes.newline] ++ [Bytes.newline].intercalate rest) := by
        cases rest with
        | nil => exact ⟨[], by simp [List.intercalate_singleton], by simp⟩
        | cons next others =>
            exact ⟨[Bytes.newline] ++ [Bytes.newline].intercalate (next :: others),
              by rw [List.intercalate_cons_cons, List.append_assoc], fun _ => rfl⟩
      obtain ⟨tail, joinedEq, tailEq⟩ := split
      rw [joinedEq] at joined
      rcases member with rfl | member
      · exact joined.left.of_isPrefix (dropCarriageReturn_isPrefix piece)
      · cases rest with
        | nil => simp [number] at member
        | cons next others =>
            rw [tailEq (List.cons_ne_nil _ _)] at joined
            have later := joined.right.right
            simp only [List.length_singleton] at later
            exact ih later record member

theorem occursAt_of_mem_split {data : Bytes} {record : Record} (member : record ∈ split data) :
    Bytes.OccursAt data record.bytes record.offset := by
  have whole : Bytes.OccursAt data ([Bytes.newline].intercalate (pieces data)) 0 :=
    ⟨[], [], by simp [intercalate_pieces], rfl⟩
  exact occursAt_of_mem_number whole record member

theorem mem_split_of_mem_body {data : Bytes} {record : Record} (member : record ∈ body data) :
    record ∈ split data :=
  List.mem_of_mem_drop (List.mem_filter.mp member).1

theorem occursAt_of_mem_body {data : Bytes} {record : Record} (member : record ∈ body data) :
    Bytes.OccursAt data record.bytes record.offset :=
  occursAt_of_mem_split (mem_split_of_mem_body member)

theorem map_bytes_number (line offset : Nat) (pieces : List Bytes) :
    (number line offset pieces).map Record.bytes = pieces.map dropCarriageReturn := by
  induction pieces generalizing line offset with
  | nil => rfl
  | cons piece rest ih => simp [number, ih]

theorem line_of_number_eq {line offset : Nat} {pieces : List Bytes}
    {before after : List Record} {record : Record}
    (numbered : number line offset pieces = before ++ record :: after) :
    record.line = line + before.length := by
  induction pieces generalizing line offset before with
  | nil => simp [number] at numbered
  | cons piece rest ih =>
      cases before with
      | nil =>
          simp only [number, List.nil_append, List.cons.injEq] at numbered
          rw [← numbered.1]
          simp
      | cons first others =>
          simp only [number, List.cons_append, List.cons.injEq] at numbered
          rw [ih numbered.2, List.length_cons]
          omega

theorem line_of_split_eq {data : Bytes} {before after : List Record} {record : Record}
    (split_eq : split data = before ++ record :: after) : record.line = before.length + 1 := by
  rw [line_of_number_eq split_eq]
  omega

theorem map_bytes_split (data : Bytes) : (split data).map Record.bytes = lines data := by
  rw [split, map_bytes_number, pieces_eq_splitOn, lines]

theorem newline_not_mem_of_mem_pieces {data piece : Bytes} (member : piece ∈ pieces data) :
    Bytes.newline ∉ piece := by
  induction data generalizing piece with
  | nil =>
      rw [pieces, List.mem_singleton] at member
      rw [member]
      exact List.not_mem_nil
  | cons byte rest ih =>
      unfold pieces at member
      split at member
      · rcases List.mem_cons.mp member with rfl | later
        · exact List.not_mem_nil
        · exact ih later
      · next notNewline =>
          split at member
          · next first others split_eq =>
              rcases List.mem_cons.mp member with rfl | later
              · rw [List.mem_cons, not_or]
                exact ⟨fun same => notNewline same.symm, ih (by simp [split_eq])⟩
              · exact ih (by simp [split_eq, later])
          · next split_eq => exact absurd split_eq (pieces_ne_nil rest)

theorem newline_not_mem_of_mem_split {data : Bytes} {record : Record}
    (member : record ∈ split data) : Bytes.newline ∉ record.bytes := by
  have listed : record.bytes ∈ (pieces data).map dropCarriageReturn := by
    rw [← map_bytes_number 1 0]
    exact List.mem_map_of_mem member
  obtain ⟨piece, pieceMember, dropped⟩ := List.mem_map.mp listed
  rw [← dropped]
  exact fun inside =>
    newline_not_mem_of_mem_pieces pieceMember ((dropCarriageReturn_isPrefix piece).subset inside)

/-- Lines with no newline, and no carriage return at their end, joined by newlines are read back
as the same lines. -/
theorem lines_intercalate {lines : List Bytes} (noNewline : ∀ line ∈ lines, Bytes.newline ∉ line)
    (noReturn : ∀ line ∈ lines, line.getLast? ≠ some Bytes.carriageReturn) (nonempty : lines ≠ []) :
    Record.lines ([Bytes.newline].intercalate lines) = lines := by
  rw [Record.lines, ← pieces_eq_splitOn, pieces_intercalate noNewline nonempty]
  conv => rhs; rw [← List.map_id lines]
  exact List.map_congr_left fun line member => dropCarriageReturn_of_getLast? (noReturn line member)

theorem header_of_lines {data first : Bytes} {rest : List Bytes}
    (lines_eq : lines data = first :: rest) : header data = first := by
  rw [← map_bytes_split] at lines_eq
  unfold header
  cases split_eq : split data with
  | nil =>
      rw [split_eq] at lines_eq
      cases lines_eq
  | cons record others =>
      rw [split_eq, List.map_cons] at lines_eq
      exact (List.cons.inj lines_eq).1

theorem map_bytes_body_of_lines {data first : Bytes} {rest : List Bytes}
    (lines_eq : lines data = first :: rest) :
    (body data).map Record.bytes = rest.filter fun line => !line.isEmpty := by
  have filtered : (((split data).drop 1).filter fun record => !record.bytes.isEmpty).map
      Record.bytes = (((split data).drop 1).map Record.bytes).filter fun line => !line.isEmpty := by
    rw [List.filter_map]
    rfl
  rw [body, filtered, List.map_drop, map_bytes_split, lines_eq, List.drop_one, List.tail_cons]

end Record

end HlsManifest
