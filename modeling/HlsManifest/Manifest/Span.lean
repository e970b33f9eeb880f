import HlsManifest.Bytes
import HlsManifest.Numeric.Int64Range

/-!
# Spans

The reader copies nothing: a URI, a title or a tag value is reported as a span, an offset and a
length into the buffer it was read from. `bytes?` says which bytes a span means: they are there
exactly when the whole span lies inside the buffer, decided in exact integer arithmetic.

A span can also be built by hand with any signed 64-bit offset and length, and `read` is how such
a span is actually looked up, in a buffer that may also be the nil buffer. Its end is computed as
a signed 64-bit word, so an offset and a length whose sum passes the largest word wrap around to a
negative end. Such an end passes the bounds test and then cannot cut the buffer: the lookup
faults, naming the wrapped end. Otherwise `read` gives what `bytes?` gives, and nothing for the
nil buffer.

Main statement: `bytes?_isSome_iff`, the exact condition under which a span has bytes.
-/

set_option autoImplicit false

namespace HlsManifest

/-- A run of bytes inside a buffer, by offset and length. -/
structure Span where
  offset : Int
  length : Int
  deriving DecidableEq, Repr

namespace Span

/-- The span of no bytes at offset zero, which stands for "no span". -/
def zero : Span := ⟨0, 0⟩

/-- Whether the span lies inside a buffer of `size` bytes. -/
def Inside (span : Span) (size : Nat) : Prop :=
  0 ≤ span.offset ∧ 0 ≤ span.length ∧ span.offset + span.length ≤ size

instance (span : Span) (size : Nat) : Decidable (span.Inside size) := by
  unfold Inside
  infer_instance

/-- The bytes from the offset on, as many as the length. -/
def cut (span : Span) (data : Bytes) : Bytes :=
  (data.drop span.offset.toNat).take span.length.toNat

/-- The bytes a span addresses in `data`, or nothing when the span does not lie inside it. -/
def bytes? (span : Span) (data : Bytes) : Option Bytes :=
  if span.Inside data.length then some (span.cut data) else none

/-- The offset one past the span, as a signed 64-bit word: the sum wraps like word
arithmetic. -/
def stop (span : Span) : Int :=
  Int64Range.wrap (span.offset + span.length)

/-- A fault in looking up a span: its end wrapped around to a negative word, the `bound`, which
is out of range as the bound of a cut of the buffer. -/
structure Fault where
  bound : Int
  deriving DecidableEq, Repr

/-- The text of a fault, as the run-time reports an out-of-range cut. -/
def Fault.message (fault : Fault) : String :=
  "runtime error: slice bounds out of range [::" ++ Text.ofInt fault.bound ++ "]"

/-- The bytes a span addresses in a buffer, `none` standing for the nil buffer, with its end as a
signed 64-bit word: nothing when the offset or the length is negative or the end lies past the
buffer, a fault when the end wrapped around, and otherwise the cut. A cut of the nil buffer is
nil, so the span of length zero at offset zero, which lies inside it, gives nothing as well. -/
def read (span : Span) (data : Option Bytes) : Except Fault (Option Bytes) :=
  if span.offset < 0 ∨ span.length < 0 ∨ ((data.getD []).length : Int) < span.stop then .ok none
  else if span.stop < 0 then .error ⟨span.stop⟩
  else .ok (data.map span.cut)

/-- The bytes a span addresses as a text: empty when the lookup gives none, and a fault when the
span's end wrapped around. -/
def string (span : Span) (data : Option Bytes) : Except Fault Bytes := do
  pure ((← span.read data).getD [])

/-- The bytes a span addresses, empty when the lookup gives none or faults; for spans the reader
made, which always lie inside their buffer. -/
def text (span : Span) (data : Bytes) : Bytes :=
  match span.read (some data) with
  | .ok (some bytes) => bytes
  | _ => []

def isEmpty (span : Span) : Bool :=
  span.length == 0

theorem bytes?_isSome_iff (span : Span) (data : Bytes) :
    (span.bytes? data).isSome ↔ span.Inside data.length := by
  unfold bytes?
  split <;> simp_all

end Span

end HlsManifest
