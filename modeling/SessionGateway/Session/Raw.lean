import SessionGateway.Session.Application

/-!
# Raw connections

A raw connection has no frames of its own: the text of a client is a message,
and each reply is a text.
-/

namespace SessionGateway.Session.Raw

/-- A raw connection in progress. -/
structure State (σ : Type) where
  memory : σ
  isOpen : Bool := true
  /-- The texts the socket has taken. -/
  written : List String := []
  callbacks : List Callback := []
  events : List Log.Event := []

variable {σ : Type}

/-- Notes a call of the application. -/
def State.note (application : Application σ) (callback : Callback) (state : State σ) : State σ :=
  { state with
    callbacks := state.callbacks ++ [callback]
    events := state.events ++ application.logged callback }

/-- A connection that has just been opened. -/
def start (application : Application σ) (sessionId : String) (memory : σ) : State σ :=
  State.note application (.opened sessionId) { memory := application.onOpen sessionId memory }

/-- Hands a text of the client to the application; every reply goes out. -/
def receiveText (application : Application σ) (sessionId text : String) (state : State σ) :
    State σ :=
  if state.isOpen then
    let (memory, replies) := application.onMessage sessionId text state.memory
    State.note application (.message sessionId text)
      { state with memory, written := state.written ++ replies }
  else
    state

/-- Ends the connection. -/
def finish (application : Application σ) (sessionId : String) (state : State σ) : State σ :=
  if state.isOpen then
    State.note application (.closed sessionId)
      { state with isOpen := false, memory := application.onClose sessionId state.memory }
  else
    state

end SessionGateway.Session.Raw
