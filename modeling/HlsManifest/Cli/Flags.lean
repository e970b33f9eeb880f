import HlsManifest.Cli.Literal
import HlsManifest.Text.Quoted

/-!
# Command line flags

The command takes its flags before the playlist names. An argument is a flag when it starts with
`-` and is longer than that; `--` ends the flags and is dropped, and the first argument that is not
a flag ends them and is kept. A flag is `-name` or `--name`, with its value after `=` or, for a flag
that is not a switch, in the next argument. A switch without a value is set to true. A name that
is empty or starts with `-` or `=` is bad syntax, an unknown name is an error, and `help` or `h`
asks for help. A flag may be given again; the last value counts.

The format and the base start from the environment variables `M3U8SPAN_FORMAT` and
`M3U8SPAN_BASE` when they are set and not empty, and otherwise from `text` and no base.
-/

set_option autoImplicit false

namespace HlsManifest

namespace Cli

/-- The settings of a run: strict reading, events instead of a playlist, the re-encoded playlist
with the report, the output format by name, how many segments, variants and events to store (zero
events for all of them), and the base URL to resolve URIs against (empty for none). -/
structure Options where
  strict : Bool := false
  events : Bool := false
  encode : Bool := false
  format : String := "text"
  segments : Int := 1024
  variants : Int := 256
  maxEvents : Int := 0
  base : String := ""
  deriving DecidableEq, Repr

abbrev Environment := List (String × String)

/-- The value of a variable when it is set and not empty, else a fallback. -/
def Environment.valueOr (environment : Environment) (name fallback : String) : String :=
  match environment.lookup name with
  | some value => if value.isEmpty then fallback else value
  | none => fallback

/-- The settings before any flag: the defaults, with the format and base taken from the
environment. -/
def Options.initial (environment : Environment) : Options :=
  { format := environment.valueOr "M3U8SPAN_FORMAT" "text"
    base := environment.valueOr "M3U8SPAN_BASE" "" }

inductive Flag where
  | strict
  | events
  | encode
  | format
  | segments
  | variants
  | maxEvents
  | base
  deriving DecidableEq, Repr

namespace Flag

def ofName? : String → Option Flag
  | "strict" => some .strict
  | "events" => some .events
  | "encode" => some .encode
  | "format" => some .format
  | "segments" => some .segments
  | "variants" => some .variants
  | "max-events" => some .maxEvents
  | "base" => some .base
  | _ => none

/-- Whether a flag is a switch, set without a value. -/
def isSwitch : Flag → Bool
  | .strict | .events | .encode => true
  | _ => false

end Flag

inductive FlagError where
  | help
  | badSyntax (argument : String)
  | undefined (name : String)
  | badBoolean (name value : String) (failure : Literal.Failure)
  | missingValue (name : String)
  | badValue (name value : String) (failure : Literal.Failure)
  deriving DecidableEq, Repr

def FlagError.message : FlagError → String
  | .help => "flag: help requested"
  | .badSyntax argument => "bad flag syntax: " ++ argument
  | .undefined name => "flag provided but not defined: -" ++ name
  | .badBoolean name value failure =>
    "invalid boolean value " ++ Quoted.ofString value ++ " for -" ++ name ++ ": " ++ failure.message
  | .missingValue name => "flag needs an argument: -" ++ name
  | .badValue name value failure =>
    "invalid value " ++ Quoted.ofString value ++ " for flag -" ++ name ++ ": " ++ failure.message

/-- Sets a flag from its value text. -/
def Options.set (options : Options) (flag : Flag) (name value : String) :
    Except FlagError Options :=
  let number (update : Int → Options) : Except FlagError Options :=
    match Literal.readInt value with
    | .ok parsed => .ok (update parsed)
    | .error failure => .error (.badValue name value failure)
  let switch (update : Bool → Options) : Except FlagError Options :=
    match Literal.readBool value with
    | .ok parsed => .ok (update parsed)
    | .error failure => .error (.badBoolean name value failure)
  match flag with
  | .strict => switch fun on => { options with strict := on }
  | .events => switch fun on => { options with events := on }
  | .encode => switch fun on => { options with encode := on }
  | .format => .ok { options with format := value }
  | .segments => number fun count => { options with segments := count }
  | .variants => number fun count => { options with variants := count }
  | .maxEvents => number fun count => { options with maxEvents := count }
  | .base => .ok { options with base := value }

/-- A flag argument's name and, after the first `=` past its first character, its value. -/
def splitValue (name : String) : String × Option String :=
  let characters := name.toList
  let key := characters.takeWhile (· != '=')
  if key.length == characters.length then (name, none)
  else (String.ofList key, some (String.ofList (characters.drop (key.length + 1))))

/-- The name part of a flag argument, after one or two dashes. -/
def flagName (argument : String) : String :=
  if argument.startsWith "--" then String.ofList (argument.toList.drop 2)
  else String.ofList (argument.toList.drop 1)

/-- What one argument does while the flags are read: one that is not a flag ends the flags and is
kept as the first argument left, `--` ends them and is dropped, a whole flag gives its settings,
and a flag without `=` may wait for the next argument as its value. -/
inductive FlagRead where
  | keep
  | drop
  | set (options : Options)
  | expect (flag : Flag) (key : String)

def readFlag (options : Options) (argument : String) : Except FlagError FlagRead :=
  if !argument.startsWith "-" || argument == "-" then .ok .keep
  else if argument == "--" then .ok .drop
  else
    let name := flagName argument
    if name.isEmpty || name.startsWith "-" || name.startsWith "=" then
      .error (.badSyntax argument)
    else
      let (key, value?) := splitValue name
      match Flag.ofName? key with
      | none => if key == "help" || key == "h" then .error .help else .error (.undefined key)
      | some flag =>
        if flag.isSwitch then (options.set flag key (value?.getD "true")).map .set
        else
          match value? with
          | some value => (options.set flag key value).map .set
          | none => .ok (.expect flag key)

/-- Reads the flags at the front of the arguments; gives the settings and the arguments left. -/
def parseFlags (options : Options) : List String → Except FlagError (Options × List String)
  | [] => .ok (options, [])
  | argument :: rest =>
    match readFlag options argument with
    | .error failure => .error failure
    | .ok .keep => .ok (options, argument :: rest)
    | .ok .drop => .ok (options, rest)
    | .ok (.set next) => parseFlags next rest
    | .ok (.expect flag key) =>
      match rest with
      | value :: more =>
        match options.set flag key value with
        | .ok next => parseFlags next more
        | .error failure => .error failure
      | [] => .error (.missingValue key)

end Cli

end HlsManifest
