import SessionGateway.Mount
import SessionGateway.Session
import SessionGateway.Session.Raw
import SessionGateway.WebSocket.Endpoint

/-!
# A gateway with its connections

A mounted service together with the WebSocket connections it has accepted, on
a clock that only `Hub.advance` moves.  A connection is served under the
settings at the time it was opened; other settings are for later ones.

What a client receives is kept per connection, the latest first, until it is
collected.
-/

namespace SessionGateway.WebSocket

open Http
open Session

/-- Something that a client receives. -/
inductive Received where
  | text (content : String)
  | pong (payload : List UInt8)
  | close
  /-- The end of the connection, behind a close frame or without one. -/
  | finished (orderly : Bool)
  deriving DecidableEq, Repr

/-- What serves a connection. -/
inductive Serving (σ : Type) where
  | raw (sessionId : String) (state : Raw.State σ)
  /-- A session and the task of its heartbeat. -/
  | session (setup : Setup σ) (state : Session.State σ) (heart : Scheduler.Task)

/-- A connection. -/
structure Connection (σ : Type) where
  serving : Serving σ
  isLive : Bool := true
  /-- What the client has received and nobody has collected, the latest first. -/
  inbox : List Received := []

/-- A mounted service with its connections. -/
structure Hub (σ : Type) where
  mount : String
  application : Application σ
  settings : ServiceSettings
  /-- The memory that a connection of the application starts with. -/
  memory : σ
  threshold : Log.Level := .error
  /-- Microseconds since the hub was started. -/
  now : Nat := 0
  connections : List (String × Connection σ) := []
  callbacks : List Callback := []
  events : List Log.Event := []

namespace Hub

variable {σ : Type}

/-- The connection with a name. -/
def connection? (hub : Hub σ) (id : String) : Option (Connection σ) :=
  hub.connections.lookup id

/-- Puts a connection in the place of the one with its name. -/
def put (hub : Hub σ) (id : String) (connection : Connection σ) : Hub σ :=
  { hub with
    connections := (hub.connections.filter fun entry => entry.1 ≠ id) ++ [(id, connection)] }

/-- What a frame is for the client. -/
def received (frame : Frame) : Received :=
  match frame.text? with
  | some content => .text content
  | none => .close

/-- Hands out what a connection has written, called and logged. -/
def flush (hub : Hub σ) (id : String) (connection : Connection σ) : Hub σ :=
  match connection.serving with
  | .raw sessionId state =>
      let inbox := (state.written.map Received.text).reverse ++ connection.inbox
      let ended := connection.isLive && !state.isOpen
      let hub := { hub with
        callbacks := hub.callbacks ++ state.callbacks
        events := hub.events ++ Log.visible hub.threshold state.events }
      hub.put id
        { serving := .raw sessionId { state with written := [], callbacks := [], events := [] }
          isLive := connection.isLive && state.isOpen
          inbox := if ended then .finished false :: inbox else inbox }
  | .session setup state heart =>
      let inbox := (state.written.map received).reverse ++ connection.inbox
      let ended := connection.isLive && state.isEnded
      let orderly := state.written.contains .close
      let hub := { hub with
        callbacks := hub.callbacks ++ state.callbacks
        events := hub.events ++ Log.visible hub.threshold state.events }
      hub.put id
        { serving :=
            .session setup { state with written := [], callbacks := [], events := [] } heart
          isLive := connection.isLive && !state.isEnded
          inbox := if ended then .finished orderly :: inbox else inbox }

/-- Starts serving an accepted connection; a raw one is given a name. -/
def accept (hub : Hub σ) (rawId : String) : Service.Call → Serving σ
  | .raw _ => .raw rawId (Raw.start hub.application rawId hub.memory)
  | .session context =>
      let setup := Setup.ofSettings hub.application context.sessionId context.settings
      .session setup (Session.start setup hub.memory)
        (Scheduler.Task.every hub.now setup.period {})

/-- Cuts a connection; the client sees nothing more. -/
def cut (hub : Hub σ) (id : String) : Hub σ :=
  match hub.connection? id with
  | none => hub
  | some connection =>
      if !connection.isLive then
        hub
      else
        let connection := { connection with isLive := false }
        match connection.serving with
        | .raw sessionId state =>
            let state := Raw.finish hub.application sessionId state
            hub.flush id { connection with serving := .raw sessionId state }
        | .session setup state heart =>
            let state := receive setup .gone { state with isConnected := false }
            hub.flush id { connection with serving := .session setup (settle setup state) heart }

/-- Serves a request; an accepted connection is held under a name. -/
def connect (hub : Hub σ) (id rawId : String) (surroundings : Info.Surroundings)
    (request : Request) : Response × Hub σ :=
  let outcome := Mount.serve collaborators surroundings hub.threshold hub.mount hub.settings
    { request with upgradable := true }
  let hub := { hub with events := hub.events ++ outcome.events }
  match outcome.takeover, outcome.calls with
  | some .accepted, call :: _ =>
      let serving := accept hub rawId call
      (outcome.response, (hub.cut id).flush id { serving })
  | _, _ => (outcome.response, hub)

/-- Gives a connection something from its client. -/
def give (hub : Hub σ) (id : String) (connection : Connection σ) (inbound : Inbound) : Hub σ :=
  match connection.serving with
  | .raw sessionId state =>
      let state := match inbound with
        | .text content => Raw.receiveText hub.application sessionId content state
        | .other => state
        | .gone => Raw.finish hub.application sessionId state
      hub.flush id { connection with serving := .raw sessionId state }
  | .session setup state heart =>
      let state := { state with isConnected := state.isConnected && inbound != .gone }
      let state := settle setup (receive setup inbound state)
      hub.flush id { connection with serving := .session setup state heart }

/-- A frame that a client sends. -/
inductive Sent where
  | text (content : String)
  | binary
  | ping (payload : List UInt8)
  | pong
  | close
  deriving DecidableEq, Repr

/--
Takes a frame from a client; answers whether the connection was live, or
nothing if there is none with that name.  A ping is answered at once.
-/
def take? (hub : Hub σ) (id : String) (sent : Sent) : Option (Bool × Hub σ) := do
  let connection ← hub.connection? id
  if !connection.isLive then
    some (false, hub)
  else
    match sent with
    | .text content => some (true, hub.give id connection (.text content))
    | .binary | .pong => some (true, hub.give id connection .other)
    | .ping payload =>
        let connection := { connection with inbox := .pong payload :: connection.inbox }
        some (true, hub.give id connection .other)
    | .close => some (true, hub.give id connection .gone)

/-- Lets the heartbeat of a session run some times. -/
def beatTimes (setup : Setup σ) : Nat → Session.State σ → List Received →
    Session.State σ × List Received
  | 0, state, inbox => (state, inbox)
  | times + 1, state, inbox =>
      let state := settle setup (beat setup (wake state))
      let inbox := (state.written.map received).reverse ++ inbox
      beatTimes setup times { state with written := [] } inbox

/-- Lets time pass for a connection. -/
def Connection.advance (now : Nat) (connection : Connection σ) : Connection σ :=
  match connection.serving with
  | .raw .. => connection
  | .session setup state heart =>
      if !connection.isLive then
        connection
      else
        let (runs, heart) := heart.advance now
        let (state, inbox) := beatTimes setup runs.length state connection.inbox
        { connection with serving := .session setup state heart, inbox }

/-- Lets milliseconds pass; everything due up to the very end has run. -/
def advance (hub : Hub σ) (milliseconds : Nat) : Hub σ :=
  let now := hub.now + 1000000 * milliseconds
  { hub with
    now
    connections := hub.connections.map fun (id, connection) =>
      (id, Connection.advance now connection) }

/-- Replaces the settings for connections to come. -/
def update (hub : Hub σ) (settings : ServiceSettings) : Hub σ :=
  { hub with
    settings
    events := hub.events ++ Log.visible hub.threshold [Service.updated settings] }

/-- Hands out what clients have received and what the application was called with. -/
def collect (hub : Hub σ) : List (String × List Received) × List Callback × Hub σ :=
  let inboxes := hub.connections.filterMap fun (id, connection) =>
    if connection.inbox.isEmpty then none else some (id, connection.inbox.reverse)
  let connections := hub.connections.map fun (id, connection) =>
    (id, { connection with inbox := [] })
  (inboxes, hub.callbacks, { hub with connections, callbacks := [] })

/-- A service that has just been mounted at a prefix that its router has taken. -/
def start (mount : String) (application : Application σ) (settings : ServiceSettings)
    (memory : σ) (threshold : Log.Level) : Hub σ :=
  { mount
    application
    settings
    memory
    threshold
    events := Log.visible threshold [Service.created settings] }

end Hub

end SessionGateway.WebSocket
