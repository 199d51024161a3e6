/-!
# Command line arguments

The options of the gateway.  An option with a value takes it from the rest of
its argument or from the next one, and may be given once.  Help and version
are answered as soon as they are met, unless something in front of them is
wrong.
-/

namespace SessionGateway.Cli

/-- The options of a start. -/
structure Options where
  config : Option String := none
  bind : Option String := none
  deriving DecidableEq, Repr

/-- What arguments ask for. -/
inductive Request where
  | start (options : Options)
  | help
  | version
  /-- The arguments are wrong. -/
  | misuse
  deriving DecidableEq, Repr

/-- An option with a value. -/
inductive Valued where
  | config
  | bind
  deriving DecidableEq, Repr

/-- Stores the value of an option that has none yet; a file name may not be empty. -/
def Options.set? (options : Options) (option : Valued) (value : String) : Option Options :=
  match option with
  | .config =>
      if options.config.isSome || value.isEmpty then
        none
      else
        some { options with config := some value }
  | .bind => if options.bind.isSome then none else some { options with bind := some value }

/-- What an argument begins. -/
inductive Opening where
  | help
  | version
  | value (option : Valued) (attached : Option String)
  /-- Everything behind it is no option. -/
  | separator
  | unknown
  deriving DecidableEq, Repr

/-- The value behind the name of an option in one letter. -/
def attached : List Char → Option String
  | [] => none
  | '=' :: rest => some (String.ofList rest)
  | rest => some (String.ofList rest)

/-- Reads the beginning of an argument. -/
def opening (argument : String) : Opening :=
  match argument.toList with
  | ['-', '-'] => .separator
  | '-' :: '-' :: name =>
      let (name, rest) := name.span (· ≠ '=')
      let value := match rest with
        | [] => none
        | _ :: text => some (String.ofList text)
      match String.ofList name, value with
      | "help", none => .help
      | "version", none => .version
      | "config", value => .value .config value
      | "bind", value => .value .bind value
      | _, _ => .unknown
  | '-' :: 'h' :: _ => .help
  | '-' :: 'V' :: _ => .version
  | '-' :: 'c' :: rest => .value .config (attached rest)
  | '-' :: 'b' :: rest => .value .bind (attached rest)
  | _ => .unknown

/-- An argument that can be the value of the option in front of it. -/
def isValue (argument : String) : Bool :=
  argument == "-" || argument.toList.head? != some '-'

/-- Reads arguments behind those already taken into account. -/
def read (options : Options) : List String → Request
  | [] => .start options
  | argument :: rest =>
      match opening argument with
      | .help => .help
      | .version => .version
      | .unknown => .misuse
      | .separator => if rest.isEmpty then .start options else .misuse
      | .value option (some value) =>
          match options.set? option value with
          | some options => read options rest
          | none => .misuse
      | .value option none =>
          match rest with
          | [] => .misuse
          | value :: rest =>
              if isValue value then
                match options.set? option value with
                | some options => read options rest
                | none => .misuse
              else
                .misuse

/-- What the arguments of a start ask for. -/
def Request.ofArguments (arguments : List String) : Request :=
  read {} arguments

/-- The lines of the help. -/
def helpLines : List String :=
  [ "SockJS protocol gateway",
    "",
    "Usage: sockjs-gateway [OPTIONS]",
    "",
    "Options:",
    "  -c, --config <CONFIG>  TOML configuration file, watched for changes. " ++
      "Defaults apply when omitted",
    "  -b, --bind <BIND>      Override `listener.bind_address`",
    "  -h, --help             Print help",
    "  -V, --version          Print version" ]

/-- The version of the gateway. -/
def version : String := "0.1.0"

end SessionGateway.Cli
