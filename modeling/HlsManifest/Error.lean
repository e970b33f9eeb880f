import HlsManifest.Manifest.Span
import HlsManifest.Uri.Basic

/-!
# Errors

Everything that can go wrong in the library, by cause. Each error belongs to one of five classes,
and the class fixes its integer status: success is 0, and the classes count down from -1. An
error that wraps another (a span outside its buffer is an invalid argument) has the class of
the one it wraps.
-/

set_option autoImplicit false

namespace HlsManifest

/-- The class of an error, which decides its status. -/
inductive ErrorClass where
  | invalidArgument
  | malformedHeader
  | unsupportedDirective
  | shortBuffer
  | other
  deriving DecidableEq, Repr

def ErrorClass.status : ErrorClass → Int
  | .invalidArgument => -1
  | .malformedHeader => -2
  | .unsupportedDirective => -3
  | .shortBuffer => -4
  | .other => -4

/-- Why an operation of the library failed. -/
inductive ManifestError where
  | invalidArgument
  | malformedHeader
  | unsupportedDirective (line : Nat) (record : Bytes)
  | shortBuffer
  | spanOutside (span : Span) (size : Nat)
  | unparsableUri (error : Uri.ParseError)
  | other (message : String)
  deriving DecidableEq, Repr

namespace ManifestError

def errorClass : ManifestError → ErrorClass
  | .invalidArgument => .invalidArgument
  | .malformedHeader => .malformedHeader
  | .unsupportedDirective _ _ => .unsupportedDirective
  | .shortBuffer => .shortBuffer
  | .spanOutside _ _ => .invalidArgument
  | .unparsableUri _ => .other
  | .other _ => .other

def status (error : ManifestError) : Int :=
  error.errorClass.status

def message : ManifestError → String
  | .invalidArgument => "invalid argument"
  | .malformedHeader => "#EXTM3U absent"
  | .unsupportedDirective line record =>
    "line " ++ Text.ofNat line ++ ": " ++ Quoted.render record ++
      ": unsupported directive"
  | .shortBuffer => "buffer too small"
  | .spanOutside span size =>
    "span " ++ Text.ofInt span.offset ++ "+" ++ Text.ofInt span.length ++ " outside buffer of " ++
      Text.ofNat size ++ " bytes: invalid argument"
  | .unparsableUri error => "parse uri: " ++ error.message
  | .other text => text

end ManifestError

/-- Outcomes compare by value, so the outcome of an operation on a fixed input can be checked by
evaluation. -/
instance decidableEqExcept {ε α : Type} [DecidableEq ε] [DecidableEq α] :
    DecidableEq (Except ε α)
  | .ok first, .ok second => decidable_of_iff (first = second) ⟨congrArg _, Except.ok.inj⟩
  | .error first, .error second =>
    decidable_of_iff (first = second) ⟨congrArg _, Except.error.inj⟩
  | .ok _, .error _ => isFalse fun same => by cases same
  | .error _, .ok _ => isFalse fun same => by cases same

/-- The status of an outcome: 0 for success, the error's status otherwise. -/
def statusOf : Option ManifestError → Int
  | none => 0
  | some error => error.status

end HlsManifest
