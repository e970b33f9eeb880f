import HlsManifest.Manifest.Scanner
import HlsManifest.Proofs.EventLaw

/-!
# What the line scanner yields

The scanner is compared with the records of `Record.split`: the pieces of the buffer between
newlines, each less one final carriage return, numbered from 1 and placed at the offset past the
earlier pieces and their newlines. The invariant is `LineScanner.Before`: the scanner stands before
a list of pieces still to scan, either at an offset from which the buffer is those pieces joined by
newlines, or past the end with none left. Taking a record moves it before the next piece
(`record_before`); one call of `next` gives the first non-empty record still ahead and leaves the
scanner before the rest (`next_before`); so calls in a row give the non-empty records ahead one
after another and nothing once they run out (`iterate_next_before`).

Main statement: `LineScanner.scan_yields_lines`. The header is the first line of the buffer, and the
calls of `next` after it give the buffer's non-empty lines after the first, each with its line
number and offset, in order, and then nothing, call after call.
-/

set_option autoImplicit false

namespace HlsManifest

namespace LineScanner

/-- The scanner stands before the pieces `rest` of its buffer, none of which holds a newline: past
the end of the buffer when none is left, and otherwise at an offset inside it from which the buffer
is those pieces joined by newlines. -/
def Before (scanner : LineScanner) : List Bytes → Prop
  | [] => scanner.data.length < scanner.position
  | piece :: more => scanner.position ≤ scanner.data.length ∧
      scanner.data.drop scanner.position = [Bytes.newline].intercalate (piece :: more) ∧
      ∀ other ∈ piece :: more, Bytes.newline ∉ other

/-- The non-empty records ahead of a scanner that stands before `rest`. -/
def ahead (scanner : LineScanner) (rest : List Bytes) : List Record :=
  (Record.number (scanner.line + 1) scanner.position rest).filter fun record => !record.bytes.isEmpty

theorem record_past_end {scanner : LineScanner} (past : scanner.Before []) :
    scanner.record = (none, scanner) := by
  unfold record
  rw [if_pos (show scanner.data.length < scanner.position from past)]

theorem idxOf?_newline_append {piece rest : Bytes} (clean : Bytes.newline ∉ piece) :
    (piece ++ Bytes.newline :: rest).idxOf? Bytes.newline = some piece.length := by
  induction piece with
  | nil => simp [List.idxOf?_cons]
  | cons byte others ih =>
    rw [List.mem_cons, not_or] at clean
    simp [List.idxOf?_cons, ih clean.2, Ne.symm clean.1]

/-- Taking a record before a piece gives that piece, numbered and placed, and leaves the scanner
before the pieces after it, where their numbering goes on. -/
theorem record_before {scanner : LineScanner} {piece : Bytes} {more : List Bytes}
    (before : scanner.Before (piece :: more)) :
    ∃ after, scanner.record =
        (some ⟨scanner.line + 1, scanner.position, Record.dropCarriageReturn piece⟩, after) ∧
      after.Before more ∧
      Record.number (after.line + 1) after.position more =
        Record.number (scanner.line + 1 + 1) (scanner.position + piece.length + 1) more := by
  obtain ⟨inside, joined, clean⟩ := before
  have pieceClean := clean piece List.mem_cons_self
  unfold record
  rw [if_neg (Nat.not_lt.mpr inside)]
  dsimp only
  cases more with
  | nil =>
    -- the last piece runs to the end of the buffer
    rw [List.intercalate_singleton] at joined
    have missing : piece.idxOf? Bytes.newline = none := List.idxOf?_eq_none_iff.mpr pieceClean
    rw [joined, missing]
    exact ⟨_, rfl, Nat.lt_succ_self _, rfl⟩
  | cons next others =>
    -- a newline ends the piece, and the next piece starts after it
    rw [List.intercalate_cons_cons, List.append_assoc, List.singleton_append] at joined
    have length := congrArg List.length joined
    rw [List.length_drop, List.length_append, List.length_cons] at length
    rw [joined, idxOf?_newline_append pieceClean]
    dsimp only
    rw [List.take_left]
    refine ⟨_, rfl, ⟨by dsimp only; omega, ?_, fun other member => clean other
      (List.mem_cons_of_mem piece member)⟩, rfl⟩
    dsimp only
    rw [Nat.add_assoc, ← List.drop_drop, joined]
    simp

/-- One call of `next` gives the first non-empty record ahead and leaves the scanner before the
rest of the pieces, with the other records still ahead. -/
theorem next_before {scanner : LineScanner} {rest : List Bytes} (before : scanner.Before rest) :
    ∃ after later, scanner.next = ((scanner.ahead rest).head?, after) ∧ after.Before later ∧
      after.ahead later = (scanner.ahead rest).tail := by
  -- induction on the pieces ahead: each empty record is one more turn of the search
  induction rest generalizing scanner with
  | nil => exact ⟨scanner, [], next_of_none (record_past_end before), before, rfl⟩
  | cons piece more ih =>
    obtain ⟨after, step, afterBefore, numbered⟩ := record_before before
    have ahead_eq : scanner.ahead (piece :: more) =
        if (Record.dropCarriageReturn piece).isEmpty then after.ahead more
        else ⟨scanner.line + 1, scanner.position, Record.dropCarriageReturn piece⟩ ::
          after.ahead more := by
      rw [ahead, ahead, Record.number, numbered, List.filter_cons]
      split <;> simp_all
    rw [next_of_some step, ahead_eq]
    by_cases empty : (Record.dropCarriageReturn piece).isEmpty
    · rw [if_pos empty, if_pos empty]
      exact ih afterBefore
    · rw [if_neg empty, if_neg empty]
      exact ⟨after, more, rfl, afterBefore, rfl⟩

/-- Calls of `next` in a row give the non-empty records ahead one after another, and nothing once
they run out. -/
theorem iterate_next_before {scanner : LineScanner} {rest : List Bytes} (before : scanner.Before rest)
    (calls : Nat) :
    ((fun scanner : LineScanner => scanner.next.2)^[calls] scanner).next.1 =
      (scanner.ahead rest)[calls]? := by
  induction calls generalizing scanner rest with
  | zero =>
    obtain ⟨after, later, result, -, -⟩ := next_before before
    rw [Function.iterate_zero_apply, result, List.head?_eq_getElem?]
  | succ calls ih =>
    obtain ⟨after, later, result, afterBefore, remaining⟩ := next_before before
    rw [Function.iterate_succ_apply, result, ih afterBefore, remaining, List.getElem?_tail]

theorem start_before (data : Bytes) : (start data).Before (Record.pieces data) := by
  obtain ⟨first, more, split⟩ := List.exists_cons_of_ne_nil (Record.pieces_ne_nil data)
  have joined := Record.intercalate_pieces data
  rw [split] at joined ⊢
  exact ⟨Nat.zero_le _, joined.symm, fun other member =>
    Record.newline_not_mem_of_mem_pieces (split ▸ member)⟩

theorem header_start (data : Bytes) :
    ∃ later, (start data).header.1 = Record.header data ∧ (start data).header.2.Before later ∧
      (start data).header.2.ahead later = Record.body data := by
  have before := start_before data
  obtain ⟨first, more, split⟩ := List.exists_cons_of_ne_nil (Record.pieces_ne_nil data)
  rw [split] at before
  obtain ⟨after, step, afterBefore, numbered⟩ := record_before before
  refine ⟨more, ?_, ?_, ?_⟩ <;> simp only [header, step]
  · simp [Record.header, Record.split, split, Record.number, start]
  · exact afterBefore
  · rw [ahead, numbered, Record.body, Record.split, split, Record.number]
    rfl

/-- The line scanner. Its header is the first line of the buffer, the first piece between newlines
less one carriage return at its end, which is empty for an empty buffer. The calls of `next` that
follow give the non-empty lines after the first in order, the `i`-th piece numbered `i + 1` and
placed at its offset in the buffer, and once these run out this call and every later one gives
nothing. -/
theorem scan_yields_lines (data : Bytes) :
    (start data).header.1 = (Record.lines data).headD [] ∧
    ∀ calls : Nat, ((fun scanner : LineScanner => scanner.next.2)^[calls]
        (start data).header.2).next.1 =
      ((((Record.lines data).zipIdx.drop 1).filter fun entry => !entry.1.isEmpty).map
        fun entry => (⟨entry.2 + 1, Record.start data entry.2, entry.1⟩ : Record))[calls]? := by
  obtain ⟨later, header, before, remaining⟩ := header_start data
  refine ⟨?_, fun calls => ?_⟩
  · obtain ⟨first, rest, lines⟩ : ∃ first rest, Record.lines data = first :: rest :=
      List.exists_cons_of_ne_nil (by simp [Record.lines, List.splitOn_ne_nil])
    rw [header, Record.header_of_lines lines, lines]
    rfl
  · rw [iterate_next_before before, remaining, Record.body_eq_lines]

example : (start []).header.1 = [] := by
  decide

end LineScanner

end HlsManifest
