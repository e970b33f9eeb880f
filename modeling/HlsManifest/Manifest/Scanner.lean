import HlsManifest.Manifest.Record

/-!
# Scanning a buffer record by record

`LineScanner` walks a buffer one record at a time, without copying it. From the offset of the next
record it cuts at the next newline, or at the end of the buffer when no newline is left, and drops
one carriage return from the end of what it cut. After the cut at the end, the offset is put one
past the end of the buffer: a buffer that ends in a newline still has a last, empty record before
that, and every later call finds none. `header` takes the first record whatever it holds; `next`
skips empty records and gives the next non-empty one with its line number, blank records counted.

Each record taken moves the offset forward, and an offset past the end takes none, so `next` ends:
its recursion is on the bytes left to scan.
-/

set_option autoImplicit false

namespace HlsManifest

/-- A walk over a buffer, record by record: the offset of the next record (one past the end of
the buffer once every record is taken) and the line number of the last record taken. -/
structure LineScanner where
  data : Bytes
  position : Nat
  line : Nat
  deriving DecidableEq, Repr

namespace LineScanner

def start (data : Bytes) : LineScanner :=
  ⟨data, 0, 0⟩

/-- Takes the next record, empty or not, numbered and placed; none once past the end. -/
def record (scanner : LineScanner) : Option Record × LineScanner :=
  if scanner.data.length < scanner.position then (none, scanner)
  else
    let rest := scanner.data.drop scanner.position
    let line := scanner.line + 1
    match rest.idxOf? Bytes.newline with
    | some index =>
      (some ⟨line, scanner.position, Record.dropCarriageReturn (rest.take index)⟩,
        { scanner with position := scanner.position + index + 1, line })
    | none =>
      (some ⟨line, scanner.position, Record.dropCarriageReturn rest⟩,
        { scanner with position := scanner.data.length + 1, line })

theorem record_advances {scanner after : LineScanner} {taken : Record}
    (step : scanner.record = (some taken, after)) :
    after.data = scanner.data ∧ scanner.position ≤ scanner.data.length ∧
      scanner.position < after.position := by
  unfold record at step
  split at step
  · cases step
  · next inside =>
    dsimp only at step
    split at step <;> (simp only [Prod.mk.injEq, Option.some.injEq] at step; rw [← step.2])
    all_goals exact ⟨rfl, by omega, by dsimp only; omega⟩

/-- The first record of the buffer, whatever it holds. -/
def header (scanner : LineScanner) : Bytes × LineScanner :=
  match scanner.record with
  | (taken, after) => ((taken.map Record.bytes).getD [], after)

/-- The next non-empty record, numbered and placed, or none once the records run out. -/
def next (scanner : LineScanner) : Option Record × LineScanner :=
  match _taken : scanner.record with
  | (none, after) => (none, after)
  | (some taken, after) => if taken.bytes.isEmpty then next after else (some taken, after)
termination_by scanner.data.length + 1 - scanner.position
decreasing_by
  obtain ⟨same, inside, forward⟩ := record_advances _taken
  rw [same]
  omega

theorem next_of_none {scanner after : LineScanner} (step : scanner.record = (none, after)) :
    scanner.next = (none, after) := by
  rw [next]
  split <;> simp_all

theorem next_of_some {scanner after : LineScanner} {taken : Record}
    (step : scanner.record = (some taken, after)) :
    scanner.next = if taken.bytes.isEmpty then after.next else (some taken, after) := by
  rw [next]
  split <;> simp_all

end LineScanner

end HlsManifest
