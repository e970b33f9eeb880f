import HlsManifest.Bytes

/-!
# Records

A manifest is a sequence of records separated by newlines. A record keeps its bytes up to the
newline, less one carriage return at its end, and is known by its 1-based line number and the
offset of its first byte. A buffer with `k` newlines has `k + 1` records, so a final newline is
followed by one last empty record, and the empty buffer is one empty record.

The first record is the header. The records that carry meaning are the non-empty ones after it,
still numbered by their place among all records: `Record.body`.
-/

set_option autoImplicit false

namespace HlsManifest

/-- One line of a manifest: its 1-based line number, blank lines counted, the offset of its first
byte, and its bytes without the newline and without one final carriage return. -/
structure Record where
  line : Nat
  offset : Nat
  bytes : Bytes
  deriving DecidableEq, Repr

namespace Record

/-- The pieces of a buffer between newlines, newlines left out. -/
def pieces : Bytes → List Bytes
  | [] => [[]]
  | byte :: rest =>
    if byte = Bytes.newline then [] :: pieces rest
    else
      match pieces rest with
      | first :: others => (byte :: first) :: others
      | [] => [[byte]]

/-- A piece less one carriage return at its end. -/
def dropCarriageReturn (piece : Bytes) : Bytes :=
  if piece.getLast? = some Bytes.carriageReturn then piece.dropLast else piece

/-- Numbers pieces from line `line` at offset `offset`; each piece is followed by its newline,
one byte. -/
def number (line offset : Nat) : List Bytes → List Record
  | [] => []
  | piece :: rest =>
    ⟨line, offset, dropCarriageReturn piece⟩ :: number (line + 1) (offset + piece.length + 1) rest

def split (data : Bytes) : List Record :=
  number 1 0 (pieces data)

def header (data : Bytes) : Bytes :=
  match split data with
  | first :: _ => first.bytes
  | [] => []

/-- The non-empty records after the first, in order. -/
def body (data : Bytes) : List Record :=
  (split data).drop 1 |>.filter fun record => !record.bytes.isEmpty

theorem pieces_ne_nil (data : Bytes) : pieces data ≠ [] := by
  induction data with
  | nil => simp [pieces]
  | cons byte rest ih =>
    unfold pieces
    split
    · simp
    · split <;> simp

end Record

end HlsManifest
