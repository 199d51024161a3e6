import SessionGateway.Frame
import SessionGateway.Scheduler
import SessionGateway.Session.Application
import SessionGateway.Settings

/-!
# Sessions

A session is served by three tasks around a queue of frames: a reader, which
calls the application and fills the queue, a heartbeat, which adds a frame
whenever there is room, and a writer, which empties the queue into the socket.
Each task is given by its steps, so the tasks may take turns in any way:

* `Session.receive` and `Session.readerStep?` for the reader,
* `Session.wake` and `Session.beat` for the heartbeat,
* `Session.writerStep?` for the writer.

`Session.settle` lets reader and writer run until neither can go on.
-/

namespace SessionGateway.Session

/-! ## State -/

/-- What a session is started with. -/
structure Setup (σ : Type) where
  application : Application σ
  sessionId : String
  /-- Frames the queue has room for. -/
  capacity : Nat
  /-- Milliseconds between heartbeats, as configured. -/
  interval : UInt64

/-- The room of the queue of a session: at least one frame. -/
def queueCapacity (settings : ServiceSettings) : Nat :=
  max settings.messageCacheSize.toNat 1

/-- The longest queue that can be made; every frame needs a permit of its own. -/
def maxCapacity : Nat := 1 <<< 61 - 1

/-- The setup of a session under some settings. -/
def Setup.ofSettings {σ : Type} (application : Application σ) (sessionId : String)
    (settings : ServiceSettings) : Setup σ :=
  { application
    sessionId
    capacity := queueCapacity settings
    interval := settings.heartbeatInterval }

/-- The period of the heartbeat, in nanoseconds, as it is asked for. -/
def Setup.period {σ : Type} (setup : Setup σ) : Nat :=
  1000000 * setup.interval.toNat

/-- What the reader does next. -/
inductive Phase where
  /-- It puts the open frame into the queue. -/
  | opening
  /-- It waits for the client. -/
  | reading
  /-- It hands the messages of a client frame to the application. -/
  | delivering (messages : List String)
  /-- It puts a frame of replies into the queue; messages are left. -/
  | sending (frame : Frame) (messages : List String)
  /-- It puts the last frames into the queue. -/
  | closing (frames : List Frame)
  | ended
  deriving DecidableEq, Repr

/-- How the heartbeat stands. -/
inductive Heart where
  | unscheduled
  | waiting
  /-- A run is under way. -/
  | beating
  /-- It was stopped while a run is under way. -/
  | stopping
  | stopped
  deriving DecidableEq, Repr

/-- A session in progress. -/
structure State (σ : Type) where
  memory : σ
  phase : Phase := .opening
  heart : Heart := .unscheduled
  queue : List Frame := []
  /-- The frame that the writer has taken out of the queue and not yet passed on. -/
  hand : Option Frame := none
  /-- Whether the writer still runs. -/
  isWriting : Bool := true
  /-- Whether the socket still takes frames. -/
  isConnected : Bool := true
  /-- The frames the socket has taken. -/
  written : List Frame := []
  callbacks : List Callback := []
  events : List Log.Event := []

/-! ## The reader -/

/-- Logged for a client frame that cannot be decoded. -/
def brokenFrame (sessionId : String) : Log.Event :=
  { level := .warn
    message := "Broken data received, closing session"
    fields := [("session_id", sessionId)] }

variable {σ : Type}

/-- What becomes of a frame that is to be queued. -/
inductive Sending (σ : Type) where
  | queued (state : State σ)
  /-- The writer is gone. -/
  | failed
  /-- There is no room. -/
  | blocked

/-- Puts a frame into the queue. -/
def State.send (setup : Setup σ) (frame : Frame) (state : State σ) : Sending σ :=
  if !state.isWriting then
    .failed
  else if state.queue.length < setup.capacity then
    .queued { state with queue := state.queue ++ [frame] }
  else
    .blocked

/-- Notes a call of the application. -/
def State.note (setup : Setup σ) (callback : Callback) (state : State σ) : State σ :=
  { state with
    callbacks := state.callbacks ++ [callback]
    events := state.events ++ setup.application.logged callback }

/-- Schedules the heartbeat and tells the application of the session. -/
def begin (setup : Setup σ) (state : State σ) : State σ :=
  let state : State σ :=
    { state with
      phase := .reading
      heart := .waiting
      memory := setup.application.onOpen setup.sessionId state.memory
      events := state.events ++ Scheduler.periodEvents setup.period }
  state.note setup (.opened setup.sessionId)

/-- Stops the heartbeat; a run under way is not cut off. -/
def Heart.cancel : Heart → Heart
  | beating => stopping
  | stopping => stopping
  | _ => stopped

/-- Stops reading: the heartbeat ends, the application is told, the last frames are due. -/
def stop (setup : Setup σ) (state : State σ) : State σ :=
  let state : State σ :=
    { state with
      phase := .closing [.goAway, .close]
      heart := state.heart.cancel
      memory := setup.application.onClose setup.sessionId state.memory }
  state.note setup (.closed setup.sessionId)

/-- Something that comes from the client. -/
inductive Inbound where
  | text (content : String)
  /-- A binary, ping or pong frame. -/
  | other
  /-- A close frame, the end of the stream, or an error. -/
  | gone
  deriving DecidableEq, Repr

/-- Takes something from the client; a session that is not reading leaves it. -/
def receive (setup : Setup σ) (inbound : Inbound) (state : State σ) : State σ :=
  match state.phase, inbound with
  | .reading, .text content =>
      match Frame.decode? content with
      | some messages => { state with phase := .delivering messages }
      | none =>
          stop setup { state with events := state.events ++ [brokenFrame setup.sessionId] }
  | .reading, .gone => stop setup state
  | _, _ => state

/-- Hands a message to the application. -/
def deliver (setup : Setup σ) (message : String) (rest : List String) (state : State σ) :
    State σ :=
  let (memory, replies) := setup.application.onMessage setup.sessionId message state.memory
  let phase : Phase :=
    if replies.isEmpty then .delivering rest else .sending (.messages replies) rest
  State.note setup (.message setup.sessionId message) { state with memory, phase }

/-- One step of the reader that needs nothing from the client. -/
def readerStep? (setup : Setup σ) (state : State σ) : Option (State σ) :=
  match state.phase with
  | .opening =>
      match state.send setup .opened with
      | .queued next => some (begin setup next)
      | .failed => some (begin setup state)
      | .blocked => none
  | .reading => none
  | .delivering [] => some { state with phase := .reading }
  | .delivering (message :: rest) => some (deliver setup message rest state)
  | .sending frame rest =>
      match state.send setup frame with
      | .queued next => some { next with phase := .delivering rest }
      | .failed => some (stop setup state)
      | .blocked => none
  | .closing [] => some { state with phase := .ended }
  | .closing (frame :: rest) =>
      match state.send setup frame with
      | .queued next => some { next with phase := .closing rest }
      | .failed => some { state with phase := .closing rest }
      | .blocked => none
  | .ended => none

/-! ## The heartbeat -/

/-- Starts a run of the heartbeat. -/
def wake (state : State σ) : State σ :=
  match state.heart with
  | .waiting => { state with heart := .beating }
  | _ => state

/-- Adds a heartbeat if there is room. -/
def State.trySend (setup : Setup σ) (frame : Frame) (state : State σ) : State σ :=
  match state.send setup frame with
  | .queued next => next
  | .failed | .blocked => state

/-- Completes a run of the heartbeat. -/
def beat (setup : Setup σ) (state : State σ) : State σ :=
  match state.heart with
  | .beating => { state.trySend setup .heartbeat with heart := .waiting }
  | .stopping => { state.trySend setup .heartbeat with heart := .stopped }
  | _ => state

/-! ## The writer -/

/--
One step of the writer: it takes a frame out of the queue, or passes the one it
holds on to the socket.  It ends with a close frame, or when the socket takes
no more; what is left in the queue is then lost.
-/
def writerStep? (state : State σ) : Option (State σ) :=
  if !state.isWriting then
    none
  else
    match state.hand, state.queue with
    | none, [] => none
    | none, frame :: rest => some { state with hand := some frame, queue := rest }
    | some frame, _ =>
        let state := { state with hand := none }
        if !state.isConnected then
          some { state with queue := [], isWriting := false }
        else if frame = .close then
          some { state with queue := [], isWriting := false, written := state.written ++ [frame] }
        else
          some { state with written := state.written ++ [frame] }

/-! ## Running -/

/-- How many steps the reader can still take without the client, at most. -/
def Phase.weight : Phase → Nat
  | opening => 12
  | reading => 8
  | delivering messages => 9 + 4 * messages.length
  | sending _ messages => 12 + 4 * messages.length
  | closing frames => 1 + 3 * frames.length
  | ended => 0

/-- How many steps reader and writer can still take without the client, at most. -/
def State.weight (state : State σ) : Nat :=
  state.phase.weight + 2 * state.queue.length + state.hand.toList.length

theorem send_queued {setup : Setup σ} {frame : Frame} {state next : State σ}
    (sent : state.send setup frame = .queued next) :
    next = { state with queue := state.queue ++ [frame] } := by
  unfold State.send at sent
  split at sent
  · cases sent
  · split at sent
    · cases sent
      rfl
    · cases sent

theorem readerStep?_weight {setup : Setup σ} {state next : State σ}
    (stepped : readerStep? setup state = some next) : next.weight < state.weight := by
  unfold readerStep? at stepped
  split at stepped
  case h_1 phase =>
    split at stepped
    · next sent =>
        cases stepped
        simp [begin, State.note, State.weight, Phase.weight, phase, send_queued sent]
        omega
    · cases stepped
      simp [begin, State.note, State.weight, Phase.weight, phase]
    · cases stepped
  case h_2 => cases stepped
  case h_3 phase =>
    cases stepped
    simp [State.weight, Phase.weight, phase]
  case h_4 message rest phase =>
    cases stepped
    by_cases silent :
        (setup.application.onMessage setup.sessionId message state.memory).2.isEmpty = true
    all_goals
      simp only [deliver, State.note, State.weight, phase, silent, if_true, if_false,
        Bool.false_eq_true, Phase.weight, List.length_cons]
      omega
  case h_5 frame rest phase =>
    split at stepped
    · next sent =>
        cases stepped
        simp only [State.weight, Phase.weight, phase, send_queued sent, List.length_append,
          List.length_singleton]
        omega
    · cases stepped
      simp only [stop, State.note, State.weight, Phase.weight, phase, List.length_cons,
        List.length_nil]
      omega
    · cases stepped
  case h_6 phase =>
    cases stepped
    simp [State.weight, Phase.weight, phase]
  case h_7 frame rest phase =>
    split at stepped
    · next sent =>
        cases stepped
        simp only [State.weight, Phase.weight, phase, send_queued sent, List.length_append,
          List.length_cons, List.length_nil]
        omega
    · cases stepped
      simp only [State.weight, Phase.weight, phase, List.length_cons]
      omega
    · cases stepped
  case h_8 => cases stepped

theorem writerStep?_weight {state next : State σ} (stepped : writerStep? state = some next) :
    next.weight < state.weight := by
  unfold writerStep? at stepped
  split at stepped
  · cases stepped
  · split at stepped
    · cases stepped
    · next frame rest hand queue =>
        cases stepped
        simp only [State.weight, hand, queue, Option.toList_some, Option.toList_none,
          List.length_cons, List.length_nil]
        omega
    · next frame hand =>
        dsimp only at stepped
        split at stepped
        · cases stepped
          simp only [State.weight, hand, Option.toList_some, Option.toList_none,
            List.length_cons, List.length_nil]
          omega
        · split at stepped
          · cases stepped
            simp only [State.weight, hand, Option.toList_some, Option.toList_none,
              List.length_cons, List.length_nil]
            omega
          · cases stepped
            simp only [State.weight, hand, Option.toList_some, Option.toList_none,
              List.length_cons, List.length_nil]
            omega

/-- Lets reader and writer run until neither can go on without the client. -/
def settle (setup : Setup σ) (state : State σ) : State σ :=
  match _reader : readerStep? setup state with
  | some next => settle setup next
  | none =>
      match _writer : writerStep? state with
      | some next => settle setup next
      | none => state
termination_by state.weight
decreasing_by
  · exact readerStep?_weight _reader
  · exact writerStep?_weight _writer

/-- Whether the queue of a session can be made. -/
def Setup.isPossible (setup : Setup σ) : Bool :=
  0 < setup.capacity && setup.capacity ≤ maxCapacity

/--
A session that has just been started.  Without a queue it is over at once: the
application is not told of it, and the client gets nothing.
-/
def start (setup : Setup σ) (memory : σ) : State σ :=
  if setup.isPossible then
    settle setup { memory }
  else
    { memory, phase := .ended, isWriting := false, isConnected := false }

/-- Whether a session is over. -/
def State.isEnded (state : State σ) : Bool :=
  state.phase == .ended

end SessionGateway.Session
