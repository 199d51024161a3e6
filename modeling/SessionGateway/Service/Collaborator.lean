import SessionGateway.Fault
import SessionGateway.Log
import SessionGateway.Settings

/-!
# Collaborators of the service

What the service hands on to others: the raw WebSocket endpoint and the
session transports.  A collaborator gets the request and the response as
written so far, and may do anything with the latter.
-/

namespace SessionGateway.Service

open Http

/-- What a transport is told about a session request. -/
structure SessionContext where
  serverId : String
  sessionId : String
  transport : String
  /-- The settings at the time the request was taken in. -/
  settings : ServiceSettings
  deriving DecidableEq

/-- How an attempt to take a connection over ended. -/
inductive Takeover where
  | accepted
  | rejected
  deriving DecidableEq, Repr

/-- What a collaborator leaves behind. -/
structure Reply (ε : Type) where
  response : Response
  failure : Option ε := none
  /-- How the attempt to take the connection over ended, if there was one. -/
  takeover : Option Takeover := none
  events : List Log.Event := []

/-- The same reply with another account of its failure. -/
def Reply.mapFailure {ε ε' : Type} (account : ε → ε') (reply : Reply ε) : Reply ε' :=
  { response := reply.response
    failure := reply.failure.map account
    takeover := reply.takeover
    events := reply.events }

/-- The collaborators of a service. -/
structure Collaborators where
  /-- Serves the raw endpoint; a failure is the reason why the response cannot be written. -/
  raw : Request → Response → Reply String
  /-- Checks server, session and transport of a session request. -/
  validate : String → String → String → Log.Logged Bool
  /-- Serves a session request. -/
  session : SessionContext → Request → Response → Reply Fault

end SessionGateway.Service
