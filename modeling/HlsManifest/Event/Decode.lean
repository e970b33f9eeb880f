import HlsManifest.Event.Basic
import HlsManifest.Manifest.Store

/-!
# Reading line events

`Event.list` gives the events of every non-empty record after the header. `Event.decodeInto`
writes them into an output of fixed length: it keeps the first ones that fit, counts them all,
and reports truncation when the output has room for at least one event but not for all. The
buffer must not be empty and must start with the header, as for playlists.

`Event.decodeOver` is the same call on the caller's output itself: the events kept are written
over its first positions, and it also gives back the output as the call leaves it.
-/

set_option autoImplicit false

namespace HlsManifest

/-- The outcome of writing events into an output of fixed length: how many events the manifest
has, the first ones, which were kept, and whether some were left out of a non-empty output. -/
structure EventBatch where
  total : Nat
  events : List Event
  truncated : Bool
  deriving DecidableEq, Repr

/-- What writing events into the caller's output leaves behind: the batch it reports (all zero
when it fails), why the manifest could not be read, and the output after the call. -/
structure EventWrite where
  batch : EventBatch
  error : Option ManifestError
  output : List Event
  deriving DecidableEq, Repr

namespace Event

/-- The events of a manifest, in line order. -/
def list (data : Bytes) : Except ManifestError (List Event) :=
  match openingError? data with
  | some error => .error error
  | none => .ok ((Record.body data).map ofRecord)

/-- Writes the events of a manifest into an output with room for `room` events. -/
def decodeInto (data : Bytes) (room : Nat) : Except ManifestError EventBatch := do
  let events ← list data
  let store := (Store.empty room : Store Event).writeAll events
  pure ⟨store.total, store.items, 0 < room && store.truncated⟩

/-- Writes the events of a manifest into the caller's output, whose length is the room: a store
made over the output keeps the first events that fit, written to its first positions one after
the other. A manifest that cannot be read reports nothing and writes nothing. -/
def decodeOver (data : Bytes) (output : List Event) : EventWrite :=
  match list data with
  | .error error => ⟨⟨0, [], false⟩, some error, output⟩
  | .ok events =>
    let (store, written) := Store.fillOver output events
    ⟨⟨store.total, store.items, 0 < output.length && store.truncated⟩, none, written⟩

end Event

end HlsManifest
