import SessionGateway.Path
import SessionGateway.Service.Collaborator
import SessionGateway.Transport
import SessionGateway.WebSocket.Handshake

/-!
# WebSocket endpoints

The collaborators that serve WebSocket and nothing else: the raw endpoint, and
sessions over the transport `websocket`.  Any other transport, and a session
request with a method other than that of its transport, is answered with 404
and no attempt to take the connection over.
-/

namespace SessionGateway.WebSocket

open Http
open Service

/-- Logged for a rejected handshake. -/
def handshakeRejected : Log.Event :=
  { level := .debug, message := "WebSocket upgrade rejected" }

/-- Tries to take a connection over; either answer replaces the whole response. -/
def takeOver {ε : Type} (request : Request) : Reply ε :=
  match handshake request with
  | .ok key => { response := accepted key, takeover := some .accepted }
  | .error rejection =>
      { response := rejection.response
        takeover := some .rejected
        events := [handshakeRejected] }

/-- Refuses a session request without touching more than the status. -/
def refuse {ε : Type} (event : Log.Event) (response : Response) : Reply ε :=
  { response := response.withStatus .notFound, events := [event] }

/-- Logged for a session request with another method than its transport has. -/
def methodUnsupported (context : SessionContext) (method : Method) : Log.Event :=
  { level := .debug
    message := "HTTP method not supported by transport"
    fields := [("session_id", context.sessionId), ("method", method.token)] }

/-- Logged for a transport that is not served. -/
def transportUnsupported (context : SessionContext) (transport : Transport) : Log.Event :=
  { level := .debug
    message := "Transport not supported"
    fields := [("session_id", context.sessionId), ("transport", transport.name)] }

/-- Logged for a name that is no transport's. -/
def transportUnknown (context : SessionContext) : Log.Event :=
  { level := .warn
    message := "Unknown transport"
    fields := [("session_id", context.sessionId)] }

/-- Serves a session request. -/
def serveSession (context : SessionContext) (request : Request) (response : Response) :
    Reply Fault :=
  match Transport.ofName? context.transport with
  | none => refuse (transportUnknown context) response
  | some .webSocket =>
      if request.method = Transport.webSocket.method then
        takeOver request
      else
        refuse (methodUnsupported context request.method) response
  | some other => refuse (transportUnsupported context other) response

/-- The collaborators that serve WebSocket. -/
def collaborators : Collaborators where
  raw request _ := takeOver request
  validate serverId sessionId transport :=
    let (valid, events) := Path.validateSegments serverId sessionId transport
    { value := valid, events }
  session := serveSession

end SessionGateway.WebSocket
