import HlsManifest.Uri.Escape

/-!
# Writing a URI reference

A reference is written `scheme:`, then either its opaque part or `//` with the user information
and host, then the path, `?` and the query, `#` and the fragment. The path and the fragment are
written in the form they were read in when that form is still valid and decodes to them, and
freshly escaped otherwise. A relative reference whose first path segment holds a colon is written
after `./`, so that it does not read as a scheme, and a path that starts with `//` after a left
out authority has its first slash escaped as `%2F`, so that it does not read as an authority.
-/

set_option autoImplicit false

namespace HlsManifest

namespace Uri

/-- Whether a written text decodes, in a component, to the given bytes. -/
def decodesTo (component : Component) (written decoded : Bytes) : Bool :=
  match unescape component written with
  | .ok value => value == decoded
  | .error _ => false

/-- The form a decoded text was read in, when it was kept and is still valid for the component
and decodes to the text. -/
def keptForm? (component : Component) (decoded kept : Bytes) : Option Bytes :=
  if !kept.isEmpty && validEncoded component kept && decodesTo component kept decoded then some kept
  else none

/-- User information as written: the name, and a colon and the password when there is one. -/
def UserInfo.render (info : UserInfo) : Bytes :=
  escape .userInfo info.name ++
    match info.password with
    | some password => 58 :: escape .userInfo password
    | none => []

namespace Reference

/-- The path as written: its kept form, or `*` alone, or the default escaping. -/
def escapedPath (reference : Reference) : Bytes :=
  (keptForm? .path reference.path reference.rawPath).getD
    (if reference.path == [42] then [42] else escape .path reference.path)

/-- The fragment as written: its kept form, or the default escaping. -/
def escapedFragment (reference : Reference) : Bytes :=
  (keptForm? .fragment reference.fragment reference.rawFragment).getD
    (escape .fragment reference.fragment)

/-- The authority part with its leading `//`, when it is written. -/
def authorityText (reference : Reference) : Bytes :=
  if reference.scheme.isEmpty && reference.host.isEmpty && reference.user.isNone then []
  else if reference.omitHost && reference.host.isEmpty && reference.user.isNone then []
  else
    (if !reference.host.isEmpty || !reference.path.isEmpty || reference.user.isSome then [47, 47]
      else []) ++
    (match reference.user with
      | some info => UserInfo.render info ++ [64]
      | none => []) ++
    escape .host reference.host

def render (reference : Reference) : Bytes :=
  let schemeText := if reference.scheme.isEmpty then [] else reference.scheme ++ [58]
  let middle :=
    if !reference.opaquePart.isEmpty then reference.opaquePart
    else
      let authority := reference.authorityText
      let escaped := reference.escapedPath
      let path :=
        if reference.omitHost && reference.host.isEmpty && reference.user.isNone &&
            [47, 47].isPrefixOf escaped then [37, 50, 70] ++ escaped.drop 1
        else escaped
      let slash := if !path.isEmpty && path.head? != some 47 && !reference.host.isEmpty then [47]
        else []
      let dotSlash :=
        if schemeText.isEmpty && authority.isEmpty && slash.isEmpty &&
            (path.takeWhile (· != 47)).contains 58 then [46, 47]
        else []
      authority ++ slash ++ dotSlash ++ path
  let queryText := if reference.forceQuery || !reference.query.isEmpty then 63 :: reference.query
    else []
  let fragmentText := if reference.fragment.isEmpty then [] else 35 :: reference.escapedFragment
  schemeText ++ middle ++ queryText ++ fragmentText

end Reference

end Uri

end HlsManifest
