set_option autoImplicit false

/-!
# Arguments

What the arguments of the program ask for.  They are read from left to right,
and the first thing that settles the matter counts: a call for help or for the
version, or something that is not allowed.
-/

namespace PoolScaler.CommandLine

/-- How notices are written. -/
inductive LogFormat where
  /-- As lines for people. -/
  | text
  /-- As lines of JSON. -/
  | json
  deriving DecidableEq, Repr, Inhabited

/-- What the program is to do. -/
inductive Command where
  /-- Keep the pool of a settings file until told to stop; a token that is given
  goes before that of the settings. -/
  | run (config : String) (token : Option String)
  /-- Check a settings file. -/
  | check (config : String)
  deriving DecidableEq, Repr, Inhabited

/-- What arguments ask for. -/
inductive Request where
  /-- Do something. -/
  | perform (format : LogFormat) (command : Command)
  /-- Show a text. -/
  | display (lines : List String)
  /-- They are not allowed. -/
  | refused
  deriving DecidableEq, Repr, Inhabited

/-- The word of a command. -/
inductive Verb where
  /-- Keep a pool. -/
  | run
  /-- Check settings. -/
  | check
  deriving DecidableEq, Repr, Inhabited

/-- The command of a word. -/
def Verb.ofWord? : String → Option Verb
  | "run" => some .run
  | "check" => some .check
  | _ => none

/-! ## Texts -/

/-- The name and the version of the program. -/
def versionLines : List String := ["fleetd 0.1.0"]

/-- What there is to say about the program. -/
def helpLines : List String := [
  "runnerfleet daemon",
  "",
  "Usage: fleetd [OPTIONS] <COMMAND>",
  "",
  "Commands:",
  "  run    Listen for jobs and scale the pool until interrupted",
  "  check  Load and validate the configuration, then exit",
  "  help   Print this message or the help of the given subcommand(s)",
  "",
  "Options:",
  "      --log-format <LOG_FORMAT>  Log output format [default: text] [possible values: text, json]",
  "  -h, --help                     Print help",
  "  -V, --version                  Print version"]

/-- What there is to say about a command. -/
def Verb.helpLines : Verb → List String
  | .run => [
    "Listen for jobs and scale the pool until interrupted",
    "",
    "Usage: fleetd run [OPTIONS]",
    "",
    "Options:",
    "      --config <CONFIG>          [default: fleet.toml]",
    "      --log-format <LOG_FORMAT>  Log output format [default: text] [possible values: text, json]",
    "      --token <TOKEN>            Personal access token. Overrides \x60github.token\x60 [env: GITHUB_TOKEN]",
    "  -h, --help                     Print help"]
  | .check => [
    "Load and validate the configuration, then exit",
    "",
    "Usage: fleetd check [OPTIONS]",
    "",
    "Options:",
    "      --config <CONFIG>          [default: fleet.toml]",
    "      --log-format <LOG_FORMAT>  Log output format [default: text] [possible values: text, json]",
    "  -h, --help                     Print help"]

/-- What there is to say about the command that explains commands. -/
def helpOfHelp : List String := [
  "Print this message or the help of the given subcommand(s)",
  "",
  "Usage: fleetd help [COMMAND]...",
  "",
  "Arguments:",
  "  [COMMAND]...  Print help for the subcommand(s)"]

/-! ## Reading -/

/-- One argument. -/
inductive Token where
  /-- Two dashes: what follows is not read as options. -/
  | stop
  /-- A long option, perhaps with its value. -/
  | long (name : String) (value : Option String)
  /-- Letters after one dash. -/
  | short (letters : List Char)
  /-- Anything else. -/
  | word (text : String)
  deriving DecidableEq, Repr, Inhabited

/-- An argument taken apart. -/
def Token.ofArgument (arg : String) : Token :=
  match arg.toList with
  | ['-', '-'] => .stop
  | '-' :: '-' :: rest =>
    let value := match rest.dropWhile (· ≠ '=') with
      | [] => none
      | _ :: value => some (String.ofList value)
    .long (String.ofList (rest.takeWhile (· ≠ '='))) value
  | '-' :: c :: rest => .short (c :: rest)
  | _ => .word arg

/-- The value of an option: written with it, or the next argument unless that
looks like an option. -/
def takeValue (attached : Option String) (rest : List String) : Option (String × List String) :=
  match attached, rest with
  | some value, _ => some (value, rest)
  | none, [] => none
  | none, next :: rest =>
    match Token.ofArgument next with
    | .word value => some (value, rest)
    | _ => none

/-- The format of a word. -/
def LogFormat.ofWord? : String → Option LogFormat
  | "text" => some .text
  | "json" => some .json
  | _ => none

/-- The options of a command as far as they were given. -/
structure Options where
  format : Option LogFormat
  config : Option String
  token : Option String
  deriving DecidableEq, Repr, Inhabited

/-- Take an option that a command knows, which may be given once. -/
def Options.take (o : Options) (verb : Verb) (name : String) (attached : Option String)
    (rest : List String) : Option (Options × List String) :=
  match takeValue attached rest with
  | none => none
  | some (value, rest) =>
    if name = "log-format" then
      match LogFormat.ofWord? value with
      | some format => if o.format.isSome then none else some ({ o with format := some format }, rest)
      | none => none
    else if name = "config" then
      if o.config.isSome || value.isEmpty then none else some ({ o with config := some value }, rest)
    else if name = "token" && verb = .run then
      if o.token.isSome then none else some ({ o with token := some value }, rest)
    else none

/-- The command of a verb with its options; the token of the environment counts
when none is given. -/
def Verb.command (verb : Verb) (o : Options) (ambient : Option String) : Command :=
  let config := o.config.getD "fleet.toml"
  match verb with
  | .run => .run config (match o.token with
      | some token => some token
      | none => ambient)
  | .check => .check config

/-- What letters after one dash ask for: the first of them decides. -/
def shortRequest (help : List String) (version : Option (List String)) : List Char → Request
  | 'h' :: _ => .display help
  | 'V' :: _ =>
    match version with
    | some lines => .display lines
    | none => .refused
  | _ => .refused

/-- Read the arguments after a command, so many at most. -/
def readOptions (verb : Verb) (outer : Option LogFormat) (ambient : Option String) :
    Nat → Options → List String → Request
  | _, o, [] =>
    .perform ((o.format.orElse fun _ => outer).getD .text) (verb.command o ambient)
  | 0, _, _ => .refused
  | fuel + 1, o, arg :: rest =>
    match Token.ofArgument arg with
    | .stop =>
      if rest.isEmpty then readOptions verb outer ambient fuel o rest else .refused
    | .short letters => shortRequest verb.helpLines none letters
    | .word _ => .refused
    | .long "help" none => .display verb.helpLines
    | .long name attached =>
      match o.take verb name attached rest with
      | some (o, rest) => readOptions verb outer ambient fuel o rest
      | none => .refused

/-- What a call for help about something asks for. -/
def helpRequest : List String → Request
  | [] => .display helpLines
  | [word] =>
    match Verb.ofWord? word with
    | some verb => .display verb.helpLines
    | none => if word = "help" then .display helpOfHelp else .refused
  | _ => .refused

/-- Read the arguments before a command, so many at most. -/
def readTop (ambient : Option String) : Nat → Option LogFormat → List String → Request
  | _, _, [] => .refused
  | 0, _, _ => .refused
  | fuel + 1, format, arg :: rest =>
    match Token.ofArgument arg with
    | .stop => .refused
    | .short letters => shortRequest helpLines (some versionLines) letters
    | .long "help" none => .display helpLines
    | .long "version" none => .display versionLines
    | .long "log-format" attached =>
      match takeValue attached rest, format with
      | some (value, rest), none =>
        match LogFormat.ofWord? value with
        | some format => readTop ambient fuel (some format) rest
        | none => .refused
      | _, _ => .refused
    | .long _ _ => .refused
    | .word word =>
      match Verb.ofWord? word with
      | some verb => readOptions verb format ambient rest.length ⟨none, none, none⟩ rest
      | none => if word = "help" then helpRequest rest else .refused

/-- What arguments ask for, given the token of the environment. -/
def Request.ofArguments (args : List String) (ambient : Option String) : Request :=
  readTop ambient args.length none args

end PoolScaler.CommandLine
