import HlsManifest.Playlist.Basic

/-!
# The protocol version a playlist needs

Protocol version 1 is the least this library writes. A playlist needs version 3 when one of its
kept segments has a duration that is not a whole number of seconds, since whole seconds are all
that earlier versions allow in `#EXTINF`. Variants never raise the version.
-/

set_option autoImplicit false

namespace HlsManifest

/-- A protocol version and why it is needed. -/
structure ProtocolVersion where
  number : Nat
  reason : String
  deriving DecidableEq, Repr

namespace ProtocolVersion

/-- The least version this library writes. -/
def minimal : ProtocolVersion := ⟨1, "minimal version supported by this library"⟩

/-- The version that allows fractional segment durations. -/
def fractionalDurations : ProtocolVersion := ⟨3, "floating point EXTINF duration"⟩

/-- Raises a version to `needed`, reason and all, when `needed` is higher; a version is never
lowered. -/
def raise (current needed : ProtocolVersion) : ProtocolVersion :=
  if needed.number ≤ current.number then current else needed

end ProtocolVersion

/-- Whether a duration has a fraction of a second: its remainder by a second, truncated toward
zero, is not zero. -/
def Micros.hasFraction (duration : Micros) : Bool :=
  duration.tmod Micros.perSecond != 0

/-- The least protocol version a playlist needs. The segments are searched in order and the
search stops at the first one with a fraction of a second, which raises the version. -/
def Playlist.minVersion (playlist : Playlist) : ProtocolVersion :=
  match playlist.segments.items.find? (fun segment => segment.duration.hasFraction) with
  | some _ => ProtocolVersion.minimal.raise ProtocolVersion.fractionalDurations
  | none => ProtocolVersion.minimal

/-- The search gives the fractional version exactly when some segment has a fraction. -/
theorem Playlist.minVersion_eq (playlist : Playlist) :
    playlist.minVersion =
      if playlist.segments.items.any (fun segment => segment.duration.hasFraction) then
        ProtocolVersion.fractionalDurations
      else ProtocolVersion.minimal := by
  unfold minVersion
  split
  · next segment found =>
    have fraction := List.find?_some found
    have some : playlist.segments.items.any (fun segment => segment.duration.hasFraction) :=
      List.any_eq_true.mpr ⟨segment, List.mem_of_find?_eq_some found, fraction⟩
    rw [if_pos some]
    rfl
  · next missing =>
    have none : ¬playlist.segments.items.any (fun segment => segment.duration.hasFraction) := by
      rw [List.any_eq_true]
      rintro ⟨segment, member, fraction⟩
      exact List.find?_eq_none.mp missing segment member fraction
    rw [if_neg none]

end HlsManifest
