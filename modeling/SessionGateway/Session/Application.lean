import SessionGateway.Log

/-!
# Applications

What runs behind the connections of a gateway: it is told of every opened and
closed connection and answers every message with a list of replies.  An
application may keep a memory of its own.
-/

namespace SessionGateway.Session

/-- A call of an application. -/
inductive Callback where
  | opened (sessionId : String)
  | message (sessionId text : String)
  | closed (sessionId : String)
  deriving DecidableEq, Repr

/-- An application with a memory. -/
structure Application (σ : Type) where
  onOpen : (sessionId : String) → σ → σ := fun _ memory => memory
  onMessage : (sessionId text : String) → σ → σ × List String
  onClose : (sessionId : String) → σ → σ := fun _ memory => memory
  /-- What is logged when the application is called. -/
  logged : Callback → List Log.Event := fun _ => []

namespace Application

/-- An application that answers without a memory. -/
def answering (replies : String → List String) : Application Unit where
  onMessage _ text memory := (memory, replies text)

/-- An application that sends every message straight back. -/
def echo : Application Unit :=
  { answering fun text => [text] with
    logged := fun
      | .opened sessionId =>
          [{ level := .debug, message := "Session opened", fields := [("session_id", sessionId)] }]
      | .closed sessionId =>
          [{ level := .debug, message := "Session closed", fields := [("session_id", sessionId)] }]
      | .message .. => [] }

end Application

end SessionGateway.Session
