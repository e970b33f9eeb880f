import HlsManifest.Text.Quoted
import HlsManifest.Ip.Address

/-!
# URI references

A URI reference as the resolver holds it: the scheme, the authority (user information and host),
the path, the query and the fragment, after the generic syntax of RFC 3986 has cut them apart. A
reference with a scheme whose remainder does not start with `/` keeps that remainder whole as its
`opaquePart`. The path and the fragment are held decoded; `rawPath` and `rawFragment` keep the text
as written when re-encoding the decoded form would not give it back. The query is kept as written.

Reading fails for the reasons of `Uri.Failure`, each with its fixed wording.
-/

set_option autoImplicit false

namespace HlsManifest

namespace Uri

/-- The user information of an authority: the user name, decoded, and the password, decoded, when
a colon follows the name. -/
structure UserInfo where
  name : Bytes
  password : Option Bytes
  deriving DecidableEq, Repr

/-- A URI reference cut into its components. The scheme is in lower case and empty for a relative
reference; `opaquePart` is what follows `scheme:` when it does not start with a slash. The host
(with its port), the path and the fragment are decoded, and `rawPath` and `rawFragment` keep the
text as written when it differs from the default encoding. `omitHost` leaves out an empty
authority after the scheme, `forceQuery` writes a `?` before an empty query, and the query is kept
as written. -/
structure Reference where
  scheme : Bytes := []
  opaquePart : Bytes := []
  user : Option UserInfo := none
  host : Bytes := []
  path : Bytes := []
  rawPath : Bytes := []
  omitHost : Bool := false
  forceQuery : Bool := false
  query : Bytes := []
  fragment : Bytes := []
  rawFragment : Bytes := []
  deriving DecidableEq, Repr

inductive Failure where
  | controlCharacter
  | missingScheme
  | colonInFirstSegment
  | unclosedBracket
  | badPort (port : Bytes)
  | badEscape (escape : Bytes)
  | badHostCharacter (character : Bytes)
  | badUserInfo
  | ipLiteral
  | badAddress (error : IpAddress.ParseError)
  deriving DecidableEq, Repr

def Failure.message : Failure → String
  | .controlCharacter => "net/url: invalid control character in URL"
  | .missingScheme => "missing protocol scheme"
  | .colonInFirstSegment => "first path segment in URL cannot contain colon"
  | .unclosedBracket => "missing ']' in host"
  | .badPort port => "invalid port " ++ Quoted.render port ++ " after host"
  | .badEscape escape => "invalid URL escape " ++ Quoted.render escape
  | .badHostCharacter character => "invalid character " ++ Quoted.render character ++ " in host name"
  | .badUserInfo => "net/url: invalid userinfo"
  | .ipLiteral => "invalid IP-literal"
  | .badAddress error => "invalid host: " ++ error.message

/-- A text that failed to read as a URI reference, and why. -/
structure ParseError where
  input : Bytes
  failure : Failure
  deriving DecidableEq, Repr

/-- The wording of a failed read: the text, quoted, and the reason. -/
def ParseError.message (error : ParseError) : String :=
  "parse " ++ Quoted.render error.input ++ ": " ++ error.failure.message

end Uri

end HlsManifest
