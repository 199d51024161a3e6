import SessionGateway.Metric
import SessionGateway.Service

/-!
# The reload loop

A running server takes settings updates from a channel, one at a time and in
order, until it is shut down or the channel is closed.  Only the settings of
the service change; a change of the listener is reported, because it takes a
restart.

`Reload.takeUpdate?` and `Reload.finish?` are the steps of the loop.  When an update
is waiting and the loop may also end, either step is possible.
-/

namespace SessionGateway.Server

/-- The reload loop and its channel. -/
structure Reload where
  /-- The listener that the server was started with. -/
  listener : ListenerSettings
  service : ServiceSettings
  /-- Updates sent and not yet applied, the oldest first. -/
  pending : List GatewaySettings := []
  /-- Whether no more updates will be sent. -/
  isClosed : Bool := false
  isShutDown : Bool := false
  isRunning : Bool := true
  metrics : List Metric := []
  events : List Log.Event := []

namespace Reload

/-- Logged for an update that changes the listener. -/
def restartRequired : Log.Event :=
  { level := .warn, message := "Listener settings changed; restart required to apply them" }

/-- What is logged when an update is applied. -/
def updateEvents (listener : ListenerSettings) (update : GatewaySettings) : List Log.Event :=
  (if update.listener = listener then [] else [restartRequired]) ++
    [Service.updated update.service]

/-- Sends an update; fails once nobody would take it. -/
def send? (reload : Reload) (update : GatewaySettings) : Option Reload :=
  if reload.isRunning && !reload.isClosed then
    some { reload with pending := reload.pending ++ [update] }
  else
    none

/-- Closes the channel; updates already sent stay in it. -/
def close (reload : Reload) : Reload :=
  { reload with isClosed := true }

/-- Asks the loop to end. -/
def shutDown (reload : Reload) : Reload :=
  { reload with isShutDown := true }

/-- Applies the oldest update. -/
def takeUpdate? (reload : Reload) : Option Reload :=
  match reload.pending with
  | [] => none
  | update :: rest =>
      if reload.isRunning then
        some
          { reload with
            service := update.service
            pending := rest
            metrics := reload.metrics ++ [.reloads]
            events := reload.events ++ updateEvents reload.listener update }
      else
        none

/-- Ends the loop, if it was asked to or no update can come any more. -/
def finish? (reload : Reload) : Option Reload :=
  if reload.isRunning && (reload.isShutDown || (reload.isClosed && reload.pending.isEmpty)) then
    some { reload with isRunning := false }
  else
    none

theorem takeUpdate?_pending {reload next : Reload} (applied : reload.takeUpdate? = some next) :
    next.pending.length < reload.pending.length := by
  unfold takeUpdate? at applied
  split at applied
  · cases applied
  · next update rest pending =>
      split at applied
      · cases applied
        simp [pending]
      · cases applied

/-- Applies every update, then ends the loop if it may. -/
def settle (reload : Reload) : Reload :=
  match _applied : reload.takeUpdate? with
  | some next => next.settle
  | none => reload.finish?.getD reload
termination_by reload.pending.length
decreasing_by exact takeUpdate?_pending _applied

end Reload

end SessionGateway.Server
