/-!
# Settings

Everything an operator can configure: where the gateway listens, how the
service at that place behaves, and what it reports about itself.  A value of
these types is a snapshot; a change replaces it as a whole.

Numbers are unsigned and have sixty-four bits.
-/

namespace SessionGateway

/-- Where and below which prefix the gateway answers. -/
structure ListenerSettings where
  bindAddress : String := "0.0.0.0:8080"
  pathPrefix : String := "/sockjs"
  maxBodySize : UInt64 := 2097152
  deriving DecidableEq, Repr

/-- How the service answers. -/
structure ServiceSettings where
  /-- Names the service in the log. -/
  name : String
  /-- Where the bootstrap page loads the client library from. -/
  clientLibraryUrl : String := "https://cdn.jsdelivr.net/sockjs/0.3.4/sockjs.min.js"
  streamBytesLimit : UInt64 := 131072
  sessionCookieNeeded : Bool := true
  /-- Milliseconds between heartbeats. -/
  heartbeatInterval : UInt64 := 25000
  /-- Milliseconds without a connection until a client counts as gone. -/
  disconnectDelay : UInt64 := 5000
  /-- Frames a session holds back for a slow client. -/
  messageCacheSize : UInt64 := 100
  websocketEnabled : Bool := true
  /-- Origins allowed by name; the empty list stands for the own origin, `*` for any. -/
  allowedOrigins : List String := []
  suppressCors : Bool := false
  deriving DecidableEq, Repr

/-- What the gateway reports about itself. -/
structure ObservabilitySettings where
  logLevel : String := "info"
  metricsEnabled : Bool := true
  metricsAddress : String := "0.0.0.0:9090"
  deriving DecidableEq, Repr

/-- All settings of a gateway. -/
structure GatewaySettings where
  listener : ListenerSettings := {}
  service : ServiceSettings
  observability : ObservabilitySettings := {}
  deriving DecidableEq, Repr

namespace ServiceSettings

/-- The name a service gets when the operator gives none. -/
def generatedName (number : UInt32) : String :=
  let digits := Nat.toDigits 16 number.toNat
  "SockJSService@" ++ String.ofList (List.replicate (8 - digits.length) '0' ++ digits)

/-- Whether the allow-list names every origin. -/
def allowsAnyOrigin (settings : ServiceSettings) : Bool :=
  settings.allowedOrigins.contains "*"

/-- Whether origins are limited to those the allow-list names. -/
def restrictsOrigins (settings : ServiceSettings) : Bool :=
  !settings.allowedOrigins.isEmpty && !settings.allowsAnyOrigin

end ServiceSettings

end SessionGateway
