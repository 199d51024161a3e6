import Mathlib.Data.List.Induction
import SessionGateway.Proofs.Session.Transcript

/-!
# The steps of a session

Everything that one action can do to a session.  `Reads` lists the steps of the
reader, `Beats` those of the heartbeat, `Writes` those of the writer, and `Moves`
those of a course; each list
is shown to be complete once, and what holds of every step is read off it.
-/

namespace SessionGateway.Session

variable
    {σ : Type}
    {setup : Setup σ}
    {state next : State σ}
    {frame : Frame}

/-! ## The reader -/

/-- A frame that need not wait for room: it is queued, unless the writer is gone. -/
def State.offer (frame : Frame) (state : State σ) : State σ :=
  { state with queue := state.queue ++ if state.isWriting then [frame] else [] }

theorem offer_of_gone (gone : state.isWriting = false) : state.offer frame = state := by
  rw [State.offer, if_neg (Bool.eq_false_iff.mp gone), List.append_nil]

/-- There is room for another frame, or nobody to put it in for. -/
def State.HasRoom (setup : Setup σ) (state : State σ) : Prop :=
  state.isWriting = true → state.queue.length < setup.capacity

theorem hasRoom_of_gone (gone : state.isWriting = false) : state.HasRoom setup := by
  intro writing
  rw [gone] at writing
  cases writing

theorem puts_of_writing (writing : state.isWriting = true) :
    state.puts = state.phase.frame?.toList := by
  rw [State.puts, if_pos writing]

theorem puts_of_gone (gone : state.isWriting = false) : state.puts = [] := by
  rw [State.puts, if_neg (Bool.eq_false_iff.mp gone)]

/-- The steps of the reader. -/
inductive Reads (setup : Setup σ) (state : State σ) : State σ → Prop
  | opened (phase : state.phase = .opening) (room : state.HasRoom setup) :
      Reads setup state (begin setup (state.offer .opened))
  | exhausted (phase : state.phase = .delivering []) :
      Reads setup state { state with phase := .reading }
  | delivered {message : String} {rest : List String}
      (phase : state.phase = .delivering (message :: rest)) :
      Reads setup state (deliver setup message rest state)
  | replied {frame : Frame} {rest : List String}
      (phase : state.phase = .sending frame rest) (room : state.HasRoom setup)
      (writing : state.isWriting = true) :
      Reads setup state { state.offer frame with phase := .delivering rest }
  /-- The writer is gone, and with it the reason to read on. -/
  | abandoned {frame : Frame} {rest : List String}
      (phase : state.phase = .sending frame rest) (gone : state.isWriting = false) :
      Reads setup state (stop setup state)
  | closed {frame : Frame} {rest : List Frame}
      (phase : state.phase = .closing (frame :: rest)) (room : state.HasRoom setup) :
      Reads setup state { state.offer frame with phase := .closing rest }
  | ended (phase : state.phase = .closing []) :
      Reads setup state { state with phase := .ended }

/-- What becomes of a frame that is sent. -/
theorem send_cases (setup : Setup σ) (frame : Frame) (state : State σ) :
    (state.isWriting = true ∧ state.queue.length < setup.capacity ∧
        state.send setup frame = .queued (state.offer frame)) ∨
      (state.isWriting = false ∧ state.send setup frame = .failed) ∨
        (state.isWriting = true ∧ setup.capacity ≤ state.queue.length ∧
          state.send setup frame = .blocked) := by
  cases writing : state.isWriting with
  | false => exact Or.inr (Or.inl ⟨rfl, by simp [State.send, writing]⟩)
  | true =>
      by_cases room : state.queue.length < setup.capacity
      · refine Or.inl ⟨rfl, room, ?_⟩
        simp [State.send, State.offer, writing, room]
      · refine Or.inr (Or.inr ⟨rfl, Nat.le_of_not_lt room, ?_⟩)
        simp [State.send, writing, room]

theorem send_of_full
    (writing : state.isWriting = true) (full : setup.capacity ≤ state.queue.length) :
    state.send setup frame = .blocked := by
  rcases send_cases setup frame state with ⟨-, room, -⟩ | ⟨gone, -⟩ | ⟨-, -, sent⟩
  · exact absurd room (Nat.not_lt_of_le full)
  · rw [writing] at gone
    cases gone
  · exact sent

/-- With the queue full, a reader that has a frame for it waits. -/
theorem readerStep?_of_full
    (writing : state.isWriting = true) (full : setup.capacity ≤ state.queue.length)
    (due : state.phase.frame? ≠ none) :
    readerStep? setup state = none := by
  unfold readerStep?
  split
  case h_1 => rw [send_of_full writing full]
  case h_2 => rfl
  case h_3 phase => simp [phase, Phase.frame?] at due
  case h_4 phase => simp [phase, Phase.frame?] at due
  case h_5 => rw [send_of_full writing full]
  case h_6 phase => simp [phase, Phase.frame?] at due
  case h_7 => rw [send_of_full writing full]
  case h_8 => rfl

theorem reads_of_readerStep? (stepped : readerStep? setup state = some next) :
    Reads setup state next := by
  unfold readerStep? at stepped
  split at stepped
  case h_1 phase =>
    rcases send_cases setup .opened state with
      ⟨-, room, sent⟩ | ⟨gone, sent⟩ | ⟨-, -, sent⟩
    · rw [sent] at stepped
      cases stepped
      exact .opened phase fun _ => room
    · rw [sent] at stepped
      cases stepped
      have opened : Reads setup state (begin setup (state.offer .opened)) :=
        .opened phase (hasRoom_of_gone gone)
      rw [offer_of_gone gone] at opened
      exact opened
    · rw [sent] at stepped
      cases stepped
  case h_2 => cases stepped
  case h_3 phase =>
    cases stepped
    exact .exhausted phase
  case h_4 phase =>
    cases stepped
    exact .delivered phase
  case h_5 frame rest phase =>
    rcases send_cases setup frame state with
      ⟨writing, room, sent⟩ | ⟨gone, sent⟩ | ⟨-, -, sent⟩
    · rw [sent] at stepped
      cases stepped
      exact .replied phase (fun _ => room) writing
    · rw [sent] at stepped
      cases stepped
      exact .abandoned phase gone
    · rw [sent] at stepped
      cases stepped
  case h_6 phase =>
    cases stepped
    exact .ended phase
  case h_7 frame rest phase =>
    rcases send_cases setup frame state with
      ⟨-, room, sent⟩ | ⟨gone, sent⟩ | ⟨-, -, sent⟩
    · rw [sent] at stepped
      cases stepped
      exact .closed phase fun _ => room
    · rw [sent] at stepped
      cases stepped
      have closed : Reads setup state { state.offer frame with phase := .closing rest } :=
        .closed phase (hasRoom_of_gone gone)
      rw [offer_of_gone gone] at closed
      exact closed
    · rw [sent] at stepped
      cases stepped
  case h_8 => cases stepped

/-! ## The heartbeat -/

/-- The steps of the heartbeat.  Once it is scheduled it stays so. -/
inductive Beats (setup : Setup σ) (state : State σ) : State σ → Prop
  /-- There is no run to start or to complete. -/
  | resting : Beats setup state state
  | turned (heart : Heart)
      (scheduled : state.heart ≠ .unscheduled) (still : heart ≠ .unscheduled) :
      Beats setup state { state with heart }
  | added (heart : Heart)
      (scheduled : state.heart ≠ .unscheduled) (still : heart ≠ .unscheduled)
      (room : state.HasRoom setup) (writing : state.isWriting = true) :
      Beats setup state { state.offer .heartbeat with heart }

theorem beats_wake (setup : Setup σ) (state : State σ) : Beats setup state (wake state) := by
  unfold wake
  split
  · next waiting =>
      refine .turned .beating ?_ ?_
      · simp [waiting]
      · simp
  · exact .resting

/-- A completed run has added a heartbeat, or dropped it. -/
theorem beats_trySend
    (setup : Setup σ) (heart : Heart)
    (scheduled : state.heart ≠ .unscheduled) (still : heart ≠ .unscheduled) :
    Beats setup state { state.trySend setup .heartbeat with heart } := by
  rcases send_cases setup .heartbeat state with
    ⟨writing, room, sent⟩ | ⟨-, sent⟩ | ⟨-, -, sent⟩
  · rw [State.trySend, sent]
    exact .added heart scheduled still (fun _ => room) writing
  · rw [State.trySend, sent]
    exact .turned heart scheduled still
  · rw [State.trySend, sent]
    exact .turned heart scheduled still

/-- With the queue full, the heartbeat leaves it as it is. -/
theorem queue_beat_of_full
    (writing : state.isWriting = true) (full : setup.capacity ≤ state.queue.length) :
    (beat setup state).queue = state.queue := by
  unfold beat
  split
  · rw [State.trySend, send_of_full writing full]
  · rw [State.trySend, send_of_full writing full]
  · rfl

theorem beats_beat (setup : Setup σ) (state : State σ) :
    Beats setup state (beat setup state) := by
  unfold beat
  split
  · next beating =>
      refine beats_trySend setup .waiting ?_ ?_
      · simp [beating]
      · simp
  · next stopping =>
      refine beats_trySend setup .stopped ?_ ?_
      · simp [stopping]
      · simp
  · exact .resting

/-! ## The writer -/

/-- The steps of the writer. -/
inductive Writes (state : State σ) : State σ → Prop
  | taken {frame : Frame} {rest : List Frame}
      (writing : state.isWriting = true) (hand : state.hand = none)
      (queue : state.queue = frame :: rest) :
      Writes state { state with hand := some frame, queue := rest }
  | passed {frame : Frame}
      (writing : state.isWriting = true) (hand : state.hand = some frame)
      (connected : state.isConnected = true) (other : frame ≠ .close) :
      Writes state { state with hand := none, written := state.written ++ [frame] }
  | closed
      (writing : state.isWriting = true) (hand : state.hand = some .close)
      (connected : state.isConnected = true) :
      Writes state
        { state with
          hand := none
          queue := []
          isWriting := false
          written := state.written ++ [.close] }
  | lost {frame : Frame}
      (writing : state.isWriting = true) (hand : state.hand = some frame)
      (cut : state.isConnected = false) :
      Writes state { state with hand := none, queue := [], isWriting := false }

theorem writes_of_writerStep? (stepped : writerStep? state = some next) :
    Writes state next := by
  unfold writerStep? at stepped
  split at stepped
  · cases stepped
  · next alive =>
      have writing : state.isWriting = true := by simpa using alive
      split at stepped
      · cases stepped
      · next frame rest hand queue =>
          cases stepped
          exact .taken writing hand queue
      · next frame hand =>
          dsimp only at stepped
          split at stepped
          · next cut =>
              cases stepped
              exact .lost writing hand (by simpa using cut)
          · next intact =>
              have connected : state.isConnected = true := by simpa using intact
              split at stepped
              · next last =>
                  subst last
                  cases stepped
                  exact .closed writing hand connected
              · next other =>
                  cases stepped
                  exact .passed writing hand connected other

/-! ## The course -/

section

variable {course : Course σ}

theorem advance_of_silent (silent : course.state.phase.frame? = none) :
    course.advance state = { course with state } := by
  simp [Course.advance, State.puts, State.fails, silent]

theorem advance_of_writing (writing : course.state.isWriting = true) :
    course.advance state =
      { course with state, queued := course.queued ++ course.state.phase.frame?.toList } := by
  simp [Course.advance, State.puts, State.fails, writing]

theorem advance_of_gone (gone : course.state.isWriting = false) :
    course.advance state =
      { course with state, failed := course.failed ++ course.state.phase.frame?.toList } := by
  simp [Course.advance, State.puts, State.fails, gone]

end

/-- The moves of a course. -/
inductive Moves (setup : Setup σ) (course : Course σ) : Action → Course σ → Prop
  | receive {inbound : Inbound} {rest : List Inbound}
      (reading : course.state.phase = .reading) (client : course.client = inbound :: rest) :
      Moves setup course .receive
        { course with state := receive setup inbound course.state, client := rest }
  | read {state : State σ} (reads : Reads setup course.state state) :
      Moves setup course .read (course.advance state)
  | wake {state : State σ} (beats : Beats setup course.state state) :
      Moves setup course .wake { course with state }
  | beat {state : State σ} (beats : Beats setup course.state state) :
      Moves setup course .beat { course with state }
  | write {state : State σ} (writes : Writes course.state state) :
      Moves setup course .write { course with state }
  | cut :
      Moves setup course .cut
        { course with state := { course.state with isConnected := false } }

theorem moves_of_step?
    {course after : Course σ} {action : Action}
    (stepped : course.step? setup action = some after) :
    Moves setup course action after := by
  cases action with
  | receive =>
      simp only [Course.step?] at stepped
      split at stepped
      · next reading client =>
          cases stepped
          exact .receive reading client
      · cases stepped
  | read =>
      obtain ⟨state, moved, rfl⟩ := Option.map_eq_some_iff.mp stepped
      exact .read (reads_of_readerStep? moved)
  | wake =>
      cases stepped
      exact .wake (beats_wake setup course.state)
  | beat =>
      cases stepped
      exact .beat (beats_beat setup course.state)
  | write =>
      obtain ⟨state, moved, rfl⟩ := Option.map_eq_some_iff.mp stepped
      exact .write (writes_of_writerStep? moved)
  | cut =>
      cases stepped
      exact .cut

/-! ## Runs -/

theorem run?_cons (setup : Setup σ) (course : Course σ) (action : Action)
    (actions : List Action) :
    course.run? setup (action :: actions) =
      (course.step? setup action).bind fun next => next.run? setup actions := by
  simp [Course.run?, List.foldlM_cons]

theorem run?_append (setup : Setup σ) (course : Course σ) (actions more : List Action) :
    course.run? setup (actions ++ more) =
      (course.run? setup actions).bind fun next => next.run? setup more := by
  simp [Course.run?, List.foldlM_append]

/-- One run after another is a run. -/
theorem run?_trans
    {course middle after : Course σ} {actions more : List Action}
    (run : course.run? setup actions = some middle)
    (further : middle.run? setup more = some after) :
    course.run? setup (actions ++ more) = some after := by
  rw [run?_append, run, Option.bind_some]
  exact further

theorem run?_concat_iff
    {course after : Course σ} {actions : List Action} {action : Action} :
    course.run? setup (actions ++ [action]) = some after ↔
      ∃ former, course.run? setup actions = some former ∧
        former.step? setup action = some after := by
  simp [Course.run?, List.foldlM_append, Option.bind_eq_some_iff]

/-- What holds at the start and is kept by every move of a run holds after it. -/
theorem run_induction
    (property : Course σ → Prop) {course after : Course σ} {actions : List Action}
    (start : property course)
    (kept : ∀ {former later : Course σ} {action : Action}, action ∈ actions →
      property former → Moves setup former action later → property later)
    (run : course.run? setup actions = some after) :
    property after := by
  induction actions using List.reverseRecOn generalizing after with
  | nil =>
      cases run
      exact start
  | append_singleton actions action induction =>
      obtain ⟨former, formerRun, stepped⟩ := run?_concat_iff.mp run
      have earlier : property former := by
        apply induction _ formerRun
        intro former later other member
        exact kept (List.mem_append_left _ member)
      exact kept (List.mem_append_right _ (List.mem_singleton_self action)) earlier
        (moves_of_step? stepped)

end SessionGateway.Session
