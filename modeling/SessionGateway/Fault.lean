import SessionGateway.Http.Message

/-!
# Service faults

Why serving a request can fail.  Only a collaborator fails; a client learns
nothing of the cause.
-/

namespace SessionGateway

/-- Why serving a request failed. -/
inductive Fault where
  /-- The response could not be written; `source` is the reason given below. -/
  | io (source : String)
  /-- A transport failed while serving a session. -/
  | transport (sessionId message : String)
  deriving DecidableEq, Repr

namespace Fault

/-- The wording of a fault. -/
def message : Fault → String
  | io _ => "Failed to write to the response"
  | transport sessionId message => s!"Transport failure for session {sessionId}: {message}"

/-- The session a fault belongs to. -/
def sessionId? : Fault → Option String
  | io _ => none
  | transport sessionId _ => some sessionId

/-- The reason given below, if there is one. -/
def source? : Fault → Option String
  | io source => some source
  | transport .. => none

/-- The answer to a client: the same for every fault. -/
def response (_ : Fault) : Http.Response :=
  { status := .internalServerError }

end Fault

end SessionGateway
