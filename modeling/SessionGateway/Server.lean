import SessionGateway.Mount
import SessionGateway.Server.Reload
import SessionGateway.Shutdown
import SessionGateway.WebSocket.Endpoint

/-!
# The server

A mounted service with the layers around it, its reload loop, and an orderly
stop.  The mount prefix and the limit on request bodies are those of the start
and never change.
-/

namespace SessionGateway

open Http

/-- A server. -/
structure Server where
  reload : Server.Reload
  shutdown : Shutdown := { signals := ["server"] }
  /-- Whether clients can reach the server. -/
  isListening : Bool := true
  events : List Log.Event := []

namespace Server

/-- Logged when a server starts at an address. -/
def starting (address mount : String) : Log.Event :=
  { level := .info
    message := "HTTP server starting"
    fields := [("address", address), ("prefix", mount)] }

/-- Logged when a server is asked to stop. -/
def signalReceived : Log.Event :=
  { level := .info, message := "Shutdown signal received" }

/-- Logged when a server has stopped. -/
def stopped : Log.Event :=
  { level := .info, message := "HTTP server stopped" }

/-- Starts a server at an address, with a mount point that its router has taken. -/
def start (settings : GatewaySettings) (address : String) (isListening : Bool) : Server where
  reload := { listener := settings.listener, service := settings.service }
  isListening
  events :=
    [Service.created settings.service, starting address settings.listener.pathPrefix]

/-- Starts a server at an address; there is none if its mount point is refused. -/
def launch (settings : GatewaySettings) (address : String) (isListening : Bool) :
    Except Mount.Refusal Server :=
  (Mount.router settings.listener.pathPrefix).map fun _ => start settings address isListening

/-- Moves what the reload loop has logged into the log of the server. -/
def absorb (server : Server) (reload : Reload) : Server :=
  { server with
    reload := { reload with events := [] }
    events := server.events ++ reload.events }

/-- Sends an update and lets the reload loop run; answers whether it was taken. -/
def update (server : Server) (settings : GatewaySettings) : Bool × Server :=
  match server.reload.send? settings with
  | some reload => (true, server.absorb reload.settle)
  | none => (false, server)

/-- Closes the channel of updates. -/
def closeUpdates (server : Server) : Server :=
  server.absorb server.reload.close.settle

/-- The signals that a running server holds: its own, and that of the reload loop. -/
def signals (server : Server) : List String :=
  if server.reload.isRunning then ["server", "reload"] else ["server"]

/-- Stops a server; answers whether it was running. -/
def stop (server : Server) : Bool × Server :=
  if server.shutdown.triggered then
    (false, server)
  else
    let triggered := Shutdown.trigger { server.shutdown with signals := server.signals }
    let reload := server.reload.shutDown
    let ended := reload.finish?.getD reload
    (true,
      { server.absorb ended with
        shutdown := triggered.value
        isListening := false
        events := server.events ++ triggered.events ++ [signalReceived, stopped] })

/-! ## Exchanges -/

/-- The answer to a request whose body is announced as too long. -/
def bodyTooLong : Response :=
  .plainText .payloadTooLarge "length limit exceeded"

/-- The announced length of the body of a request. -/
def announcedLength? (request : Request) : Option Nat :=
  (request.headers.firstText? .contentLength).bind fun text => Text.decimal? text.toList

/-- Whether a request announces more than a limit. -/
def exceeds (limit : UInt64) (request : Request) : Bool :=
  match announcedLength? request with
  | some length => limit.toNat < length
  | none => false

/-- The identification of a request: the first one it carries, or the one made for it. -/
def requestId (generated : HeaderValue) (request : Request) : HeaderValue :=
  (request.headers.first? .xRequestId).getD generated

/--
Serves a request that reaches the server.  A body announced as too long is
refused before the mount point is asked, and every answer carries the
identification of its request.
-/
def exchange? (server : Server) (surroundings : Info.Surroundings) (threshold : Log.Level)
    (generated : HeaderValue) (request : Request) : Option Service.Outcome :=
  if !server.isListening then
    none
  else
    let listener := server.reload.listener
    let outcome : Service.Outcome :=
      if exceeds listener.maxBodySize request then
        { response := Mount.complete request.method bodyTooLong }
      else
        Mount.serve WebSocket.collaborators surroundings threshold listener.pathPrefix
          server.reload.service request
    let response :=
      if outcome.response.headers.contains .xRequestId then
        outcome.response
      else
        outcome.response.insert .xRequestId (requestId generated request)
    some { outcome with response }

end Server

end SessionGateway
