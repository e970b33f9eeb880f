import HlsManifest.Uri.Parse
import HlsManifest.Uri.Render
import HlsManifest.Error

/-!
# Resolving a reference against a base

Reference resolution after RFC 3986, section 5.2. A reference with a scheme or an authority keeps
its own; an opaque reference stands alone; otherwise the base's scheme and authority are taken,
an empty path keeps the base's path (and, without a query, the base's query and fragment), and a
relative path is merged with the base path after its last slash. Dot segments are then removed:
`.` drops itself, `..` drops itself and the segment before it (climbing past the first segment
starts the path afresh), and a final `.` or `..` leaves a trailing slash.

A URI line of a playlist is a span of its buffer, and `Span.resolve` reads the bytes of the span
as a reference and resolves it against the playlist's own location when that is known. A span
whose lookup gives no bytes is an invalid argument, and bytes that are not a reference are an
error of their own, which keeps the reason. A span whose end wraps around faults before any of
this, so the outcome is a fault or else a reference or an error.
-/

set_option autoImplicit false

namespace HlsManifest

namespace Uri

def segments (path : Bytes) : List Bytes :=
  path.splitOn 47

/-- The output of dot-segment removal so far: the text after its leading slash, and whether the
next segment starts it (so needs no slash before it). -/
structure DotState where
  written : Bytes
  atStart : Bool

def DotState.step (state : DotState) (segment : Bytes) : DotState :=
  if segment == [46] then { state with atStart := false }
  else if segment == [46, 46] then
    match lastIndex? 47 state.written with
    | some (position + 1) => ⟨state.written.take (position + 1), state.atStart⟩
    | _ => ⟨[], true⟩
  else
    ⟨state.written ++ (if state.atStart then [] else [47]) ++ segment, false⟩

/-- Merges a relative path with a base path and removes dot segments. -/
def resolvePath (base reference : Bytes) : Bytes :=
  let full :=
    if reference.isEmpty then base
    else if reference.head? != some 47 then
      (match lastIndex? 47 base with
        | some position => base.take (position + 1)
        | none => []) ++ reference
    else reference
  if full.isEmpty then []
  else
    let parts := segments full
    let final := parts.foldl DotState.step ⟨[], true⟩
    let trailing := match parts.getLast? with
      | some last => if last == [46] || last == [46, 46] then [47] else []
      | none => []
    let text := 47 :: final.written ++ trailing
    match text with
    | 47 :: 47 :: rest => 47 :: rest
    | _ => text

/-- Sets a resolved path; a path that does not decode leaves the reference as it was. -/
def Reference.withResolvedPath (reference : Reference) (written : Bytes) : Reference :=
  match reference.withPath written with
  | .ok updated => updated
  | .error _ => reference

def Reference.resolve (base reference : Reference) : Reference :=
  let inherited := if reference.scheme.isEmpty then { reference with scheme := base.scheme }
    else reference
  if !reference.scheme.isEmpty || !reference.host.isEmpty || reference.user.isSome then
    inherited.withResolvedPath (resolvePath reference.escapedPath [])
  else if !reference.opaquePart.isEmpty then
    { inherited with user := none, host := [], path := [] }
  else
    let withQuery :=
      if reference.path.isEmpty && !reference.forceQuery && reference.query.isEmpty then
        if reference.fragment.isEmpty then
          { inherited with
            query := base.query
            fragment := base.fragment
            rawFragment := base.rawFragment }
        else { inherited with query := base.query }
      else inherited
    if reference.path.isEmpty && !base.opaquePart.isEmpty then
      { withQuery with opaquePart := base.opaquePart, user := none, host := [], path := [] }
    else
      Reference.withResolvedPath { withQuery with host := base.host, user := base.user }
        (resolvePath base.escapedPath reference.escapedPath)

end Uri

/-- The reference a span addresses in a buffer (`none` for the nil buffer), resolved against
`base` when there is one. -/
def Span.resolve (span : Span) (data : Option Bytes) (base : Option Uri.Reference) :
    Except Span.Fault (Except ManifestError Uri.Reference) := do
  match ← span.read data with
  | none => pure (.error (.spanOutside span (data.getD []).length))
  | some raw =>
    pure (match Uri.parse raw with
      | .error error => .error (.unparsableUri error)
      | .ok reference =>
        match base with
        | some location => .ok (location.resolve reference)
        | none => .ok reference)

end HlsManifest
