import SessionGateway.Iframe
import SessionGateway.Info
import SessionGateway.Metric
import SessionGateway.Path
import SessionGateway.Service.Collaborator
import SessionGateway.Text.Quoted

/-!
# The service

Serves one request below the mount prefix: the path decides between the fixed
endpoints, the collaborators and a refusal.  `Service.dispatch` is that
decision, `Collaborators.reply` asks the collaborator it names, and
`Service.handle` adds what is counted and logged around both.

* Every refusal is the response as it was, with status 404.
* At most one collaborator is asked, at most once.
* The request is described for the log only if the log shows it.
-/

namespace SessionGateway.Service

open Http

/-! ## What is logged -/

/-- The fields that describe the settings of a service. -/
def settingsFields (settings : ServiceSettings) : List (String × String) :=
  [ ("name", settings.name),
    ("websocket_enabled", toString settings.websocketEnabled),
    ("allowed_origins", Text.quotedList settings.allowedOrigins) ]

/-- Logged when a service starts. -/
def created (settings : ServiceSettings) : Log.Event :=
  { level := .info, message := "SockJS service created", fields := settingsFields settings }

/-- Logged when a service gets other settings. -/
def updated (settings : ServiceSettings) : Log.Event :=
  { level := .info
    message := "SockJS configuration updated"
    fields := settingsFields settings }

/-- Logged for a request without a path below the prefix. -/
def pathAbsent (request : Request) : Log.Event :=
  { level := .warn
    message := "Expected SockJS path. Failing request"
    fields := [("uri", request.target.text)] }

/-- Logs a message about a request that has been described. -/
def about (description : Option String) (message : String) : List Log.Event :=
  match description with
  | some request => [{ level := .debug, message, fields := [("request", request)] }]
  | none => []

/-- Logs that a request is being served. -/
def processing (description : Option String) : List Log.Event :=
  about description "Processing transport request"

/-- Logs that a request is refused. -/
def ignoring (description : Option String) : List Log.Event :=
  about description "Ignoring transport request"

/-- Logs that a request is refused because WebSocket is disabled. -/
def webSocketDisabled (description : Option String) : List Log.Event :=
  about description "WebSocket disabled. Ignoring transport request"

/-- Logs that the bootstrap page is refused because origins are restricted. -/
def iframeDisabled (description : Option String) : List Log.Event :=
  about description
    ("Iframe support is disabled when an origin check is required. " ++
      "Ignoring transport request")

/-- Logged for a path that names no endpoint. -/
def pathInvalid (path : String) (fault : Path.Fault) : Log.Event :=
  let message := match fault with
    | .segmentCount => "Invalid SockJS path - required to have 3 path segments"
    | .dot => Path.dotMessage
    | .encoding => "SockJS path is not valid UTF-8 once percent-decoded"
  { level := .warn, message, fields := [("path", path)] }

/-- Logged for a request that could not be served. -/
def failed (fault : Fault) : Log.Event :=
  { level := .error
    message := "SockJS request failed"
    fields := [("error", fault.message), ("session_id", Text.quotedOption fault.sessionId?)] }

/-! ## Dispatch -/

/-- What a collaborator was asked. -/
inductive Call where
  | raw (request : Request)
  | session (context : SessionContext)
  deriving DecidableEq

/-- What serving a request leaves behind. -/
structure Outcome where
  response : Response
  failure : Option Fault := none
  calls : List Call := []
  takeover : Option Takeover := none
  metrics : List Metric := []
  events : List Log.Event := []

/-- How far a request is served before a collaborator is asked. -/
inductive Progress where
  /-- The request is served; there is nothing to ask. -/
  | served (outcome : Outcome)
  /-- A collaborator has to be asked, after some events. -/
  | delegated (call : Call) (events : List Log.Event)

/-- What an answered call leaves behind. -/
def Outcome.ofReply (call : Call) (events : List Log.Event) (reply : Reply Fault) : Outcome :=
  { response := reply.response
    failure := reply.failure
    calls := [call]
    takeover := reply.takeover
    events := events ++ reply.events }

/-- The reply to a call. -/
def Collaborators.reply (collaborators : Collaborators) (request : Request)
    (response : Response) : Call → Reply Fault
  | .raw _ => (collaborators.raw request response).mapFailure Fault.io
  | .session context => collaborators.session context request response

/-- What a request leaves behind, given the reply to each call. -/
def Progress.complete (reply : Call → Reply Fault) : Progress → Outcome
  | served outcome => outcome
  | delegated call events => .ofReply call events (reply call)

/-- The greeting at the prefix itself. -/
def welcome (response : Response) : Response :=
  (response.insert .contentType (HeaderValue.literal "text/plain;charset=UTF-8")).withBody
    "Welcome to SockJS!\n"

/-- Refuses a request: only the status changes. -/
def refuse (events : List Log.Event) (response : Response) : Outcome :=
  { response := response.withStatus .notFound, events }

/-- Serves the bootstrap page, unless an origin check would be needed for it. -/
def serveIframe (settings : ServiceSettings) (description : Option String) (request : Request)
    (response : Response) : Outcome :=
  if settings.restrictsOrigins then
    refuse (iframeDisabled description) response
  else
    let response :=
      if settings.allowedOrigins.isEmpty then
        response.insert .xFrameOptions (HeaderValue.literal "SAMEORIGIN")
      else
        response
    let served := Iframe.respond settings.clientLibraryUrl request response
    { response := served.value, events := processing description ++ served.events }

/-- Serves the raw endpoint; while WebSocket is disabled the response stays as it is. -/
def serveRaw (settings : ServiceSettings) (description : Option String) (request : Request)
    (response : Response) : Progress :=
  if settings.websocketEnabled then
    .delegated (.raw request) (processing description)
  else
    .served { response, events := webSocketDisabled description }

/-- Serves a session request. -/
def serveSession (validate : String → String → String → Log.Logged Bool)
    (context : SessionContext) (description : Option String) (response : Response) : Progress :=
  if !context.settings.websocketEnabled && context.transport == "websocket" then
    .served (refuse (webSocketDisabled description) response)
  else
    let valid := validate context.serverId context.sessionId context.transport
    if valid.value then
      .delegated (.session context) (valid.events ++ processing description)
    else
      .served (refuse (valid.events ++ ignoring description) response)

/-- Serves a request by the path below the prefix, until a collaborator is asked. -/
def dispatch (validate : String → String → String → Log.Logged Bool)
    (surroundings : Info.Surroundings) (settings : ServiceSettings)
    (description : Option String) (path : String) (request : Request)
    (response : Response) : Progress :=
  match Path.classify path with
  | .root => .served { response := welcome response, events := processing description }
  | .info =>
      let served := Info.respond surroundings settings request response
      .served { response := served.value, events := processing description ++ served.events }
  | .iframe _ => .served (serveIframe settings description request response)
  | .rawWebSocket => serveRaw settings description request response
  | .session serverId sessionId transport =>
      serveSession validate { serverId, sessionId, transport, settings } description response
  | .invalid fault =>
      .served (refuse (pathInvalid path fault :: ignoring description) response)

/-- The description of a request, made only if the log shows it. -/
def description? (threshold : Log.Level) (request : Request) : Option String :=
  if threshold.admits .debug then some request.description else none

/-- Refuses a request without a path below the prefix; it is not counted. -/
def refuseAbsent (threshold : Log.Level) (request : Request) (response : Response) : Outcome :=
  refuse (Log.visible threshold [pathAbsent request]) response

/--
Counts and logs a served request.  What is counted is the kind of its path and
the status left in the response, also if serving it failed and the answer is
another one.
-/
def account (threshold : Log.Level) (path : String) (outcome : Outcome) : Outcome :=
  let failure := outcome.failure.toList.map failed
  { outcome with
    metrics := [.requests (Path.classify path).kind outcome.response.status]
    events := Log.visible threshold (outcome.events ++ failure) }

/-- Serves a request. -/
def handle (collaborators : Collaborators) (surroundings : Info.Surroundings)
    (threshold : Log.Level) (settings : ServiceSettings) (path? : Option String)
    (request : Request) (response : Response) : Outcome :=
  match path? with
  | none => refuseAbsent threshold request response
  | some path =>
      let progress := dispatch collaborators.validate surroundings settings
        (description? threshold request) path request response
      account threshold path (progress.complete (collaborators.reply request response))

end SessionGateway.Service
