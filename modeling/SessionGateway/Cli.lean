import SessionGateway.Cli.Arguments
import SessionGateway.Log.Line
import SessionGateway.Server
import SessionGateway.Settings.Watch

/-!
# The command line

A start of the gateway: it reads its arguments and its settings, reports them,
binds its address and serves until it is interrupted.  What a start depends on
is its `Environment`, what it leaves behind its `Report`.
-/

namespace SessionGateway.Cli

/-- Why an address cannot be bound. -/
inductive BindFault where
  | noAddress
  | noPort
  /-- The host name has no known address. -/
  | unresolved
  /-- The address belongs to another machine. -/
  | notAvailable
  deriving DecidableEq, Repr

/-- What a start finds around it. -/
structure Environment where
  /-- What is found at a path. -/
  file : String → Settings.File
  /-- The name of a service that is given none. -/
  serviceName : String
  /-- Whether an address belongs to this machine. -/
  isLocal : String → Bool := fun _ => true
  /-- The address of a host name, if it has one. -/
  resolve? : String → Option String :=
    fun name => if name = "localhost" then some "127.0.0.1" else none

/-- What a start leaves behind. -/
structure Report where
  exitCode : Nat
  output : List String := []
  /-- The first line of the error output. -/
  error : String := ""
  deriving DecidableEq, Repr

/-! ## Faults -/

/-- The description of a fault of the operating system. -/
def systemFault (code : Nat) (kind message : String) : String :=
  "Os \x7b code: " ++ toString code ++ ", kind: " ++ kind ++ ", message: " ++
    Text.quoted message ++ " \x7d"

/-- The description of a fault that has only a kind and a message. -/
def plainFault (kind message : String) : String :=
  "Error \x7b kind: " ++ kind ++ ", message: " ++ Text.quoted message ++ " \x7d"

/-- The description of a file fault. -/
def describeFile : Settings.FileFault → String
  | .missing => systemFault 2 "NotFound" "No such file or directory"
  | .directory => systemFault 21 "IsADirectory" "Is a directory"
  | .notText => plainFault "InvalidData" "stream did not contain valid UTF-8"

/-- The description of a problem of the settings. -/
def describeProblem (problem : Settings.Problem) : String :=
  let subject := match problem with
    | .bindAddress address => s!"({Text.quoted address})"
    | .pathPrefix path => s!"({Text.quoted path})"
    | .notPositive field => s!"({Text.quoted field.path})"
    | .emptyClientLibraryUrl => ""
    | .allowedOrigin entry => s!"({Text.quoted entry})"
  problem.kind ++ subject

/-- The description of a fault of the settings. -/
def describeSettings : Settings.Fault → String
  | .file fault => s!"Io({describeFile fault})"
  | .document => "Parse"
  | .invalid problems =>
      "Validation([" ++ ", ".intercalate (problems.map describeProblem) ++ "])"

/-- The description of a bind fault. -/
def describeBind : BindFault → String
  | .noAddress => plainFault "InvalidInput" "invalid socket address"
  | .noPort => plainFault "InvalidInput" "invalid port value"
  | .unresolved =>
      "Custom \x7b kind: Uncategorized, error: \"failed to lookup address information: " ++
        "Temporary failure in name resolution\" \x7d"
  | .notAvailable => systemFault 99 "AddrNotAvailable" "Cannot assign requested address"

/-- The address that is bound for an address or a host name with a port. -/
def bound (environment : Environment) (address : String) : Except BindFault String :=
  if Net.SocketAddress.isLegal address.toList then
    if environment.isLocal address then pure address else throw .notAvailable
  else
    match Net.splitAtLastColon address.toList with
    | none => throw .noAddress
    | some (name, port) =>
        match Http.port? port, environment.resolve? (String.ofList name) with
        | none, _ => throw .noPort
        | some _, none => throw .unresolved
        | some number, some found => pure s!"{found}:{number}"

/-! ## What is logged -/

/-- The name that log lines give to the gateway itself. -/
def program : String := "sockjs_gateway"

/-- The name that log lines give to a part of the gateway. -/
def part (name : String) : String :=
  s!"{program}::{name}"

/-- An event and the part of the gateway it comes from. -/
abbrev Entry := String × Log.Event

/-- The entries of a start that has its settings. -/
def startEntries (settings : GatewaySettings) : List Entry :=
  [ (program, { level := .info, message := s!"sockjs-gateway v{version} starting" }),
    (program,
      { level := .info
        message := "Configuration loaded"
        fields :=
          [ ("bind_address", settings.listener.bindAddress),
            ("path_prefix", settings.listener.pathPrefix),
            ("service", settings.service.name) ] }) ]

/-- The entries about the metrics endpoint. -/
def metricsEntries (settings : ObservabilitySettings) : List Entry :=
  let address := settings.metricsAddress
  if !settings.metricsEnabled then
    []
  else if Net.SocketAddress.isLegal address.toList then
    [(part "observability::metrics",
      { level := .info
        message := "Metrics exporter listening"
        fields := [("address", address)] })]
  else
    [(program,
      { level := .error
        message := "Failed to parse metrics address"
        fields := [("metrics_address", address)] })]

/-- The entries about the watched file. -/
def watchEntries (config : Option String) : List Entry :=
  config.toList.map fun path => (part "config::watcher", Settings.Watcher.started path)

/-- The part of the gateway that logs an event of a server. -/
def serverPart (event : Log.Event) : String :=
  if event.message = "Shutdown triggered" then
    part "lifecycle::shutdown"
  else if event.message = "SockJS service created" then
    part "sockjs::service"
  else
    part "http::server"

/-- The entry about the address that is bound. -/
def listening (address : String) : Entry :=
  (program,
    { level := .info, message := "Listening for connections", fields := [("address", address)] })

/-- The entries of a server that has been started at an address and is interrupted. -/
def serverEntries (server : Server) (address : String) : List Entry :=
  let complete : Log.Event := { level := .info, message := "Shutdown complete" }
  listening address :: server.stop.2.events.map (fun event => (serverPart event, event)) ++
    [(program, complete)]

/-- The entries of a server whose mount point is refused; its service exists by then. -/
def refusedEntries (settings : GatewaySettings) (address : String) : List Entry :=
  let created := Service.created settings.service
  [listening address, (serverPart created, created)]

/-! ## The start -/

/-- The settings of a start; the address given as an option replaces the one in them. -/
def settings (environment : Environment) (options : Options) :
    Except Settings.Fault GatewaySettings := do
  let settings ← match options.config with
    | some path => Settings.load environment.serviceName (environment.file path)
    | none => pure { service := { name := environment.serviceName } }
  match options.bind with
  | some address =>
      pure { settings with listener := { settings.listener with bindAddress := address } }
  | none => pure settings

/-- What is logged, and what is complained about, at the level an operator names. -/
def verbosity (level : String) : Log.Verbosity × String :=
  match Log.Verbosity.ofName? level with
  | some verbosity => (verbosity, "")
  | none =>
      (.upTo .error, s!"ignoring `{program}={level}`: invalid filter directive")

/-- Starts the gateway with its settings; it is interrupted as soon as it serves. -/
def start (environment : Environment) (options : Options) (settings : GatewaySettings) :
    Report :=
  let (verbosity, complaint) := verbosity settings.observability.logLevel
  let lines (entries : List Entry) : List String :=
    (entries.filter fun (_, event) => verbosity.admits event).map fun (part, event) =>
      Log.line part event
  let opened := startEntries settings ++ metricsEntries settings.observability ++
    watchEntries options.config
  match bound environment settings.listener.bindAddress with
  | .error fault =>
      { exitCode := 1
        output := lines opened
        error := if complaint.isEmpty then "Error: " ++ describeBind fault else complaint }
  | .ok address =>
      match Server.launch settings address true with
      | .error _ =>
          -- The report of the panic begins with a blank line.
          { exitCode := 1
            output := lines (opened ++ refusedEntries settings address)
            error := complaint }
      | .ok server =>
          { exitCode := 0
            output := lines (opened ++ serverEntries server address)
            error := complaint }

/-- Runs the command line; a gateway that serves is interrupted at once. -/
def run (environment : Environment) (arguments : List String) : Report :=
  match Request.ofArguments arguments with
  | .misuse => { exitCode := 2, error := "usage" }
  | .help => { exitCode := 0, output := helpLines }
  | .version => { exitCode := 0, output := [s!"sockjs-gateway {version}"] }
  | .start options =>
      match settings environment options with
      | .error fault => { exitCode := 1, error := "Error: " ++ describeSettings fault }
      | .ok settings => start environment options settings

end SessionGateway.Cli
