import SessionGateway.Net.SocketAddress
import SessionGateway.Settings
import SessionGateway.Text.White
import SessionGateway.Url

/-!
# Validation of settings

Semantic rules for settings.  Every problem is reported, in a fixed order of
the fields, and each rule looks at its own field only: mending one field
removes exactly its own reports.
-/

namespace SessionGateway.Settings

/-- A field that has to be greater than zero. -/
inductive PositiveField where
  | maxBodySize
  | streamBytesLimit
  | heartbeatInterval
  | disconnectDelay
  | messageCacheSize
  deriving DecidableEq, Repr

/-- The place of a field in a document. -/
def PositiveField.path : PositiveField → String
  | maxBodySize => "listener.max_body_size"
  | streamBytesLimit => "sockjs.stream_bytes_limit"
  | heartbeatInterval => "sockjs.heartbeat_interval_ms"
  | disconnectDelay => "sockjs.disconnect_delay_ms"
  | messageCacheSize => "sockjs.http_message_cache_size"

/-- A problem of some settings. -/
inductive Problem where
  | bindAddress (address : String)
  | pathPrefix (path : String)
  | notPositive (field : PositiveField)
  | emptyClientLibraryUrl
  | allowedOrigin (entry : String)
  deriving DecidableEq, Repr

namespace Problem

/-- The wording of a problem. -/
def message : Problem → String
  | bindAddress address => s!"listener.bind_address '{address}' is not a socket address"
  | pathPrefix path =>
      s!"listener.path_prefix '{path}' must start with '/' and must not end with '/'"
  | notPositive field => s!"{field.path} must be greater than zero"
  | emptyClientLibraryUrl => "sockjs.client_library_url must not be empty"
  | allowedOrigin entry =>
      s!"allowed origin '{entry}' must be \"*\" or an http(s) origin such as " ++
        "\"https://example.org\""

/-- The name of the kind of a problem. -/
def kind : Problem → String
  | bindAddress _ => "BindAddress"
  | pathPrefix _ => "PathPrefix"
  | notPositive _ => "NotPositive"
  | emptyClientLibraryUrl => "EmptyClientLibraryUrl"
  | allowedOrigin _ => "AllowedOrigin"

end Problem

/-- A mount prefix starts with a slash, has more than that, and does not end with one. -/
def isMountPrefix (path : String) : Bool :=
  let text := path.toList
  text.head? == some '/' && 2 ≤ text.length && text.getLast? != some '/'

/-- An entry of an allow-list: `*`, or a web URL with a host. -/
def isOriginEntry (entry : String) : Bool :=
  entry == "*" ||
    match Url.parse? entry.toList with
    | none => false
    | some url => (url.scheme == "http" || url.scheme == "https") && url.host.isSome

/-- A report, if it is due. -/
def report (due : Bool) (problem : Problem) : List Problem :=
  if due then [problem] else []

/-- The problems of a listener. -/
def listenerProblems (settings : ListenerSettings) : List Problem :=
  report (!Net.SocketAddress.isLegal settings.bindAddress.toList)
      (.bindAddress settings.bindAddress) ++
    report (!isMountPrefix settings.pathPrefix) (.pathPrefix settings.pathPrefix) ++
    report (settings.maxBodySize == 0) (.notPositive .maxBodySize)

/-- The problems of a service. -/
def serviceProblems (settings : ServiceSettings) : List Problem :=
  report (Text.isBlank settings.clientLibraryUrl.toList) .emptyClientLibraryUrl ++
    report (settings.streamBytesLimit == 0) (.notPositive .streamBytesLimit) ++
    report (settings.heartbeatInterval == 0) (.notPositive .heartbeatInterval) ++
    report (settings.disconnectDelay == 0) (.notPositive .disconnectDelay) ++
    report (settings.messageCacheSize == 0) (.notPositive .messageCacheSize) ++
    (settings.allowedOrigins.filter fun entry => !isOriginEntry entry).map .allowedOrigin

/-- All problems of the settings of a gateway. -/
def problems (settings : GatewaySettings) : List Problem :=
  listenerProblems settings.listener ++ serviceProblems settings.service

end SessionGateway.Settings
