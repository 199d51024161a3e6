import SessionGateway.Server

/-!
# Servers under way

A server between those who send it updates, the owner of its shutdown flag and
its own tasks.  They take turns in any order: `Course.step?` is one action,
`Course.run?` a run of them.  A turn of the reload loop is one action, as
nothing in it waits.

A course also keeps account of the updates that were sent and of those that
were applied.
-/

namespace SessionGateway.Server

/-- Raises the shutdown flag. -/
def raise (server : Server) : Server :=
  let triggered := Shutdown.trigger { server.shutdown with signals := server.signals }
  { server with
    shutdown := triggered.value
    reload := server.reload.shutDown
    events := server.events ++ triggered.events }

/-- Drops the owner of the shutdown flag; whoever waits for the flag goes on as if it were up. -/
def abandon (server : Server) : Server :=
  { server with
    shutdown := server.shutdown.dropOwner
    reload := server.reload.shutDown }

/-- Lets no more clients in. -/
def leave (server : Server) : Server :=
  { server with isListening := false, events := server.events ++ [signalReceived] }

/-- What can happen to a server. -/
inductive Action where
  | send (update : GatewaySettings)
  /-- The last of those who send updates is gone. -/
  | close
  | trigger
  | dropOwner
  /-- The reload loop applies the oldest update. -/
  | apply
  /-- The reload loop ends. -/
  | finish
  /-- The server lets no more clients in. -/
  | leave

/-- The update that an action tries to send. -/
def Action.update? : Action → Option GatewaySettings
  | send update => some update
  | close | trigger | dropOwner | apply | finish | leave => none

/-- A server, and the account of its updates. -/
structure Course where
  server : Server
  sent : List GatewaySettings := []
  applied : List GatewaySettings := []

namespace Course

/-- A server that has just been started. -/
def start (settings : GatewaySettings) (address : String) (isListening : Bool) : Course :=
  { server := Server.start settings address isListening }

/-- Puts the reload loop into some state. -/
def withReload (course : Course) (reload : Reload) : Course :=
  { course with server := { course.server with reload } }

/-- One action; an update that nobody would take is not sent. -/
def step? (course : Course) : Action → Option Course
  | .send update =>
      match course.server.reload.send? update with
      | some reload => some { course.withReload reload with sent := course.sent ++ [update] }
      | none => some course
  | .close => some (course.withReload course.server.reload.close)
  | .trigger =>
      if course.server.shutdown.hasOwner then
        some { course with server := course.server.raise }
      else
        none
  | .dropOwner =>
      if course.server.shutdown.hasOwner then
        some { course with server := course.server.abandon }
      else
        none
  | .apply =>
      course.server.reload.takeUpdate?.map fun reload =>
        { course.withReload reload with
          applied := course.applied ++ course.server.reload.pending.take 1 }
  | .finish => course.server.reload.finish?.map course.withReload
  | .leave =>
      if course.server.isListening && course.server.shutdown.isOver then
        some { course with server := course.server.leave }
      else
        none

/-- Actions one after the other. -/
def run? (course : Course) (actions : List Action) : Option Course :=
  actions.foldlM step? course

end Course

end SessionGateway.Server
