import SessionGateway.Service

/-!
# Requests in flight

A service at work: the cell that holds its settings, and the requests that
have come in.  A request is served in stages, and anything may happen between
two of them: another request moves on, or the settings are replaced.  Every
stage could read the cell; only the first one does.

`Traffic.step?` is one action, `Traffic.run?` a run of them in any order.
What a request meets besides the settings is given with its number: the time
and entropy it finds, and how the collaborators treat it.
-/

namespace SessionGateway.Service

open Http

/-- A request as it comes in. -/
structure Arrival where
  path? : Option String
  request : Request := {}
  response : Response := {}

/-- What a request meets besides the settings. -/
structure Circumstances where
  surroundings : Info.Surroundings
  collaborators : Collaborators

/-- How far a request in flight has come. -/
inductive Stage where
  /-- Nothing has been read yet. -/
  | arrived (arrival : Arrival)
  /-- The settings of that time are taken. -/
  | entered (arrival : Arrival) (path : String) (settings : ServiceSettings)
  /-- A collaborator is at work. -/
  | delegated (arrival : Arrival) (path : String) (call : Call) (events : List Log.Event)
  /-- Served, but not yet counted and logged. -/
  | served (path : String) (outcome : Outcome)
  | finished (outcome : Outcome)

/-- The next stage of a request, while the cell holds the current settings. -/
def Stage.advance? (threshold : Log.Level) (circumstances : Circumstances)
    (current : ServiceSettings) : Stage → Option Stage
  | arrived arrival =>
      match arrival.path? with
      | none => some (.finished (refuseAbsent threshold arrival.request arrival.response))
      | some path => some (.entered arrival path current)
  | entered arrival path settings =>
      let progress := dispatch circumstances.collaborators.validate circumstances.surroundings
        settings (description? threshold arrival.request) path arrival.request arrival.response
      match progress with
      | .served outcome => some (.served path outcome)
      | .delegated call events => some (.delegated arrival path call events)
  | delegated arrival path call events =>
      let reply := circumstances.collaborators.reply arrival.request arrival.response call
      some (.served path (.ofReply call events reply))
  | served path outcome => some (.finished (account threshold path outcome))
  | finished _ => none

/-- A service and the requests that have come in, numbered in order. -/
structure Traffic where
  settings : ServiceSettings
  requests : List Stage := []

/-- What can happen to a service. -/
inductive Action where
  /-- The settings are replaced as a whole. -/
  | update (settings : ServiceSettings)
  | arrive (arrival : Arrival)
  /-- The request of a number reaches its next stage. -/
  | advance (number : Nat)

/-- The settings that an action puts in place. -/
def Action.update? : Action → Option ServiceSettings
  | update settings => some settings
  | arrive _ => none
  | advance _ => none

/-- The settings given by the last update, and the first ones before any. -/
def latest (initial : ServiceSettings) (actions : List Action) : ServiceSettings :=
  (actions.filterMap Action.update?).getLast?.getD initial

namespace Traffic

/-- One action; a request that is finished, or is not there, does not move on. -/
def step? (threshold : Log.Level) (circumstances : Nat → Circumstances) (traffic : Traffic) :
    Action → Option Traffic
  | .update settings => some { traffic with settings }
  | .arrive arrival => some { traffic with requests := traffic.requests ++ [.arrived arrival] }
  | .advance number =>
      match traffic.requests[number]? with
      | none => none
      | some stage =>
          (stage.advance? threshold (circumstances number) traffic.settings).map fun next =>
            { traffic with requests := traffic.requests.set number next }

/-- Actions one after the other. -/
def run? (threshold : Log.Level) (circumstances : Nat → Circumstances) (traffic : Traffic)
    (actions : List Action) : Option Traffic :=
  actions.foldlM (step? threshold circumstances) traffic

end Traffic

end SessionGateway.Service
