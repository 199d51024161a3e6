import SessionGateway.Shutdown

/-!
# A shutdown flag in use

The owner of a flag and the holders of its signals take turns in any order:
`Shutdown.step?` is one action and what is seen of it, `Shutdown.run?` a run of
actions.

Whoever waits on a signal holds it alone until the wait ends or is given up; all
that time the signal is alive.  Signals go by names, and a live one keeps its name
to itself.
-/

namespace SessionGateway.Shutdown

/-- What the owner of a flag and the holders of its signals can do. -/
inductive Action where
  | subscribe (id : String)
  | clone (source id : String)
  | drop (id : String)
  | trigger
  | dropOwner
  | wait (id : String)
  /-- A wait that has not ended is given up; the signal can be used again. -/
  | giveUp (id : String)
  | askOwner
  | ask (id : String)
  deriving DecidableEq, Repr

/-- What is seen of an action. -/
structure Seen where
  /-- Whether the flag is raised, for those who ask. -/
  answer? : Option Bool := none
  /-- The signals on which a wait has ended. -/
  ended : List String := []
  events : List Log.Event := []
  deriving DecidableEq, Repr

/-- Whether no live signal has the name. -/
def isFree (shutdown : Shutdown) (id : String) : Bool :=
  !shutdown.signals.contains id && !shutdown.waiting.contains id

/-- Ends the waits that are over, so that their signals can be used again. -/
def settle (events : List Log.Event) (shutdown : Shutdown) : Seen × Shutdown :=
  let (ended, rest) := shutdown.release
  ({ ended, events }, ended.foldl addSignal rest)

/-- Hands a signal to someone who waits on it. -/
def beginWait (shutdown : Shutdown) (id : String) : Shutdown :=
  (shutdown.dropSignal id).spawnWait id

/-- Gives a signal back on which nobody waits any more. -/
def endWait (shutdown : Shutdown) (id : String) : Shutdown :=
  { shutdown with waiting := shutdown.waiting.erase id }.addSignal id

/-- One action; it needs the owner, or a signal on which nobody waits. -/
def step? (shutdown : Shutdown) : Action → Option (Seen × Shutdown)
  | .subscribe id =>
      if shutdown.hasOwner && shutdown.isFree id then
        some ({}, shutdown.addSignal id)
      else
        none
  | .clone source id =>
      if shutdown.signals.contains source && shutdown.isFree id then
        some ({}, shutdown.addSignal id)
      else
        none
  | .drop id =>
      if shutdown.signals.contains id then some ({}, shutdown.dropSignal id) else none
  | .trigger =>
      if shutdown.hasOwner then
        let triggered := shutdown.trigger
        some (settle triggered.events triggered.value)
      else
        none
  | .dropOwner => if shutdown.hasOwner then some (settle [] shutdown.dropOwner) else none
  | .wait id =>
      if shutdown.signals.contains id then some (settle [] (shutdown.beginWait id)) else none
  | .giveUp id =>
      if shutdown.waiting.contains id then some ({}, shutdown.endWait id) else none
  | .askOwner =>
      if shutdown.hasOwner then some ({ answer? := some shutdown.triggered }, shutdown) else none
  | .ask id =>
      if shutdown.signals.contains id then
        some ({ answer? := some shutdown.triggered }, shutdown)
      else
        none

/-- Actions one after the other. -/
def run? (shutdown : Shutdown) (actions : List Action) : Option Shutdown :=
  actions.foldlM (fun current action => (current.step? action).map Prod.snd) shutdown

end SessionGateway.Shutdown
