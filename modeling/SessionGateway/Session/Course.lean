import SessionGateway.Session

/-!
# Sessions under way

A session between a client and a socket.  The three tasks, the client and the
socket take turns in any order: `Course.step?` is one action, `Course.run?` a
run of them.

A course also keeps account of what the reader has put into the queue, and of
what it could not put there because the writer was gone.
-/

namespace SessionGateway.Session

/-- The frame that the reader is putting into the queue. -/
def Phase.frame? : Phase → Option Frame
  | opening => some .opened
  | sending frame _ => some frame
  | closing (frame :: _) => some frame
  | reading | delivering _ | closing [] | ended => none

variable {σ : Type}

/-- The frames that a step of the reader puts into the queue. -/
def State.puts (state : State σ) : List Frame :=
  if state.isWriting then state.phase.frame?.toList else []

/-- The frames that a step of the reader gives up, as the writer is gone. -/
def State.fails (state : State σ) : List Frame :=
  if state.isWriting then [] else state.phase.frame?.toList

/-- A session, what its client still sends, and the account of its reader. -/
structure Course (σ : Type) where
  state : State σ
  client : List Inbound := []
  /-- The frames that the reader has put into the queue. -/
  queued : List Frame := []
  /-- The frames that the reader could not put into the queue. -/
  failed : List Frame := []

inductive Action where
  /-- The reader takes the next thing from the client. -/
  | receive
  /-- The reader goes on by itself. -/
  | read
  /-- A run of the heartbeat starts. -/
  | wake
  /-- A run of the heartbeat is completed. -/
  | beat
  | write
  /-- The socket fails, for good. -/
  | cut
  deriving DecidableEq, Repr

/-- A session that has just been started, its queue made. -/
def Course.start (memory : σ) (client : List Inbound) : Course σ :=
  { state := { memory }, client }

/-- Keeps account of a step that has taken the reader to some state. -/
def Course.advance (course : Course σ) (state : State σ) : Course σ :=
  { course with
    state
    queued := course.queued ++ course.state.puts
    failed := course.failed ++ course.state.fails }

/-- One action; a task that waits does not move. -/
def Course.step? (setup : Setup σ) (course : Course σ) : Action → Option (Course σ)
  | .receive =>
      match course.state.phase, course.client with
      | .reading, inbound :: rest =>
          some { course with state := Session.receive setup inbound course.state, client := rest }
      | _, _ => none
  | .read => (readerStep? setup course.state).map course.advance
  | .wake => some { course with state := Session.wake course.state }
  | .beat => some { course with state := Session.beat setup course.state }
  | .write => (writerStep? course.state).map fun state => { course with state }
  | .cut => some { course with state := { course.state with isConnected := false } }

def Course.run? (setup : Setup σ) (course : Course σ) (actions : List Action) :
    Option (Course σ) :=
  actions.foldlM (step? setup) course

end SessionGateway.Session
