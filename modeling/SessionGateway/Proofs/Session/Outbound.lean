import SessionGateway.Proofs.Session.Reader

/-!
# The way out of a session

Reader and heartbeat put frames into a queue with little room, the writer takes
them out, and the socket may fail in between.  What gets through is, but for
heartbeats, what the reader has queued, in its order and from its first frame on.

`Flows` ties the frames that the socket has taken, the one in the hand of the
writer and those in the queue to the account of the reader.
-/

namespace SessionGateway.Session

variable
    {σ : Type}
    {setup : Setup σ}
    {memory : σ}
    {client : List Inbound}
    {course after : Course σ}
    {state next : State σ}
    {action : Action}
    {actions : List Action}

/-- What is left of some frames without the heartbeats among them. -/
def essential (frames : List Frame) : List Frame :=
  frames.filter (· ≠ .heartbeat)

theorem essential_append (front back : List Frame) :
    essential (front ++ back) = essential front ++ essential back :=
  List.filter_append front back

theorem essential_of_not_mem
    {frames : List Frame} (absent : .heartbeat ∉ frames) : essential frames = frames := by
  rw [essential, List.filter_eq_self]
  intro frame member
  have other : frame ≠ .heartbeat := by
    rintro rfl
    exact absent member
  simpa using other

/-! ## What the tasks do to the way out -/

/-- The frames that have left the reader and the heartbeat and were not lost. -/
def State.line (state : State σ) : List Frame :=
  state.written ++ state.hand.toList ++ state.queue

/-- Neither the queue nor the writer nor the socket differs. -/
structure State.SameWay (state next : State σ) : Prop where
  queue : next.queue = state.queue
  hand : next.hand = state.hand
  written : next.written = state.written
  writing : next.isWriting = state.isWriting
  connected : next.isConnected = state.isConnected

theorem sameWay_receive (setup : Setup σ) (inbound : Inbound) (state : State σ) :
    state.SameWay (receive setup inbound state) := by
  unfold receive
  split
  · split <;> exact ⟨rfl, rfl, rfl, rfl, rfl⟩
  · exact ⟨rfl, rfl, rfl, rfl, rfl⟩
  · exact ⟨rfl, rfl, rfl, rfl, rfl⟩

/-- All that a step of the reader does to the way out is to queue a frame, or none. -/
theorem sameWay_of_reads (reads : Reads setup state next) :
    { state with queue := state.queue ++ state.puts }.SameWay next := by
  cases reads with
  | opened phase | closed phase =>
      refine ⟨?_, rfl, rfl, rfl, rfl⟩
      simp [State.puts, State.offer, begin, State.note, phase, Phase.frame?]
  | exhausted phase | ended phase =>
      refine ⟨?_, rfl, rfl, rfl, rfl⟩
      simp [State.puts, phase, Phase.frame?]
  | delivered phase =>
      refine ⟨?_, rfl, rfl, rfl, rfl⟩
      simp [State.puts, deliver, State.note, phase, Phase.frame?]
  | replied phase room writing =>
      refine ⟨?_, rfl, rfl, rfl, rfl⟩
      simp [State.puts, State.offer, phase, Phase.frame?]
  | abandoned phase gone =>
      refine ⟨?_, rfl, rfl, rfl, rfl⟩
      simp [stop, State.note, puts_of_gone gone]

/-- What a step of the reader queues fits in. -/
theorem puts_fit
    (reads : Reads setup state next) (bounded : state.queue.length ≤ setup.capacity) :
    (state.queue ++ state.puts).length ≤ setup.capacity := by
  cases writing : state.isWriting with
  | false =>
      rw [puts_of_gone writing, List.append_nil]
      exact bounded
  | true =>
      cases reads with
      | opened phase room | replied phase room | closed phase room =>
          have fits : state.queue.length + 1 ≤ setup.capacity :=
            Nat.succ_le_of_lt (room writing)
          simpa [puts_of_writing writing, phase, Phase.frame?] using fits
      | exhausted phase | delivered phase | ended phase =>
          simpa [puts_of_writing writing, phase, Phase.frame?] using bounded
      | abandoned phase gone =>
          rw [writing] at gone
          cases gone

/-! ## The frames accepted -/

/-- The open frame has been accepted first, or nothing has happened yet. -/
def State.Begun (accepted : List Frame) (state : State σ) : Prop :=
  accepted.head? = some .opened ∨
    (accepted = [] ∧ state.phase = .opening ∧ state.Idle)

/--
A course has accepted some frames, those of the reader and heartbeats, and as
long as the writer lives each of them is written, in its hand or in the queue.
-/
structure Flows (setup : Setup σ) (course : Course σ) (accepted : List Frame) : Prop where
  line : course.state.isWriting = true → course.state.line = accepted
  emitted : course.state.written <+: accepted
  account : essential accepted = course.queued
  begun : course.state.Begun accepted
  bounded : course.state.queue.length ≤ setup.capacity
  unclosed : course.state.isWriting = true → .close ∉ course.state.written
  closedLast : .close ∉ course.state.written.dropLast

theorem Flows.start (setup : Setup σ) (memory : σ) (client : List Inbound) :
    Flows setup (.start memory client) [] where
  line := fun _ => rfl
  emitted := List.prefix_refl _
  account := rfl
  begun := Or.inr ⟨rfl, rfl, ⟨rfl, rfl, rfl, rfl⟩⟩
  bounded := Nat.zero_le _
  unclosed := fun _ => List.not_mem_nil
  closedLast := List.not_mem_nil

variable {accepted : List Frame}

/-- Whatever a task has done, the open frame had been accepted before. -/
theorem Flows.opened
    (flows : Flows setup course accepted) (busy : ¬course.state.Idle) :
    accepted.head? = some .opened := by
  rcases flows.begun with opened | ⟨-, -, idle⟩
  · exact opened
  · exact absurd idle busy

/-- Nothing is accepted where the way out stays the same. -/
theorem Flows.transfer
    (flows : Flows setup course accepted)
    (way : course.state.SameWay after.state)
    (queued : after.queued = course.queued)
    (begun : after.state.Begun accepted) :
    Flows setup after accepted where
  line := by
    rw [way.writing, State.line, way.written, way.hand, way.queue]
    exact flows.line
  emitted := by
    rw [way.written]
    exact flows.emitted
  account := by
    rw [queued]
    exact flows.account
  begun := begun
  bounded := by
    rw [way.queue]
    exact flows.bounded
  unclosed := by
    rw [way.writing, way.written]
    exact flows.unclosed
  closedLast := by
    rw [way.written]
    exact flows.closedLast

/-- A live writer finds in the queue what is put there. -/
theorem Flows.accept
    {frames : List Frame}
    (flows : Flows setup course accepted)
    (writing : course.state.isWriting = true)
    (fits : (course.state.queue ++ frames).length ≤ setup.capacity)
    (opened : (accepted ++ frames).head? = some .opened) :
    Flows setup
      { course with
        state := { course.state with queue := course.state.queue ++ frames }
        queued := course.queued ++ essential frames }
      (accepted ++ frames) where
  line := by
    intro _
    have line : course.state.line = accepted := flows.line writing
    rw [← line, State.line, State.line, List.append_assoc _ course.state.queue]
  emitted := flows.emitted.trans (List.prefix_append _ _)
  account := by rw [essential_append, flows.account]
  begun := Or.inl opened
  bounded := fits
  unclosed := flows.unclosed
  closedLast := flows.closedLast

theorem head?_append_of_head?
    {frames : List Frame} {frame : Frame} (first : accepted.head? = some frame) :
    (accepted ++ frames).head? = some frame := by
  rw [List.head?_append, first]
  rfl

theorem Flows.read
    (flows : Flows setup course accepted)
    (reads : Reads setup course.state state)
    (beatless : .heartbeat ∉ course.state.puts) :
    Flows setup (course.advance state) (accepted ++ course.state.puts) := by
  have way : { course.state with queue := course.state.queue ++ course.state.puts }.SameWay state :=
    sameWay_of_reads reads
  -- Without a writer the reader puts nothing into the queue.
  cases writing : course.state.isWriting with
  | false =>
      rw [puts_of_gone writing, List.append_nil] at way
      rw [advance_of_gone writing, puts_of_gone writing, List.append_nil]
      have busy : ¬course.state.Idle := by
        intro idle
        rw [idle.writing] at writing
        cases writing
      exact flows.transfer way rfl (Or.inl (flows.opened busy))
  | true =>
      have opened : (accepted ++ course.state.puts).head? = some .opened := by
        rcases flows.begun with opened | ⟨rfl, opening, -⟩
        · exact head?_append_of_head? opened
        · rw [puts_of_writing writing, opening]
          rfl
      have accepts := flows.accept writing (puts_fit reads flows.bounded) opened
      rw [essential_of_not_mem beatless] at accepts
      exact accepts.transfer way rfl (Or.inl opened)

theorem Flows.beats
    (flows : Flows setup course accepted)
    (beats : Beats setup course.state state) :
    ∃ frames, Flows setup { course with state } (accepted ++ frames) := by
  cases beats with
  | resting => exact ⟨[], by rwa [List.append_nil]⟩
  | turned heart scheduled =>
      have opened : accepted.head? = some .opened :=
        flows.opened fun idle => scheduled idle.heart
      refine ⟨[], ?_⟩
      rw [List.append_nil]
      exact flows.transfer ⟨rfl, rfl, rfl, rfl, rfl⟩ rfl (Or.inl opened)
  | added heart scheduled _ room writing =>
      refine ⟨[.heartbeat], ?_⟩
      have opened : (accepted ++ [Frame.heartbeat]).head? = some .opened :=
        head?_append_of_head? (flows.opened fun idle => scheduled idle.heart)
      have fits : (course.state.queue ++ [Frame.heartbeat]).length ≤ setup.capacity := by
        rw [List.length_append]
        exact room writing
      refine (flows.accept writing fits opened).transfer ⟨?_, rfl, rfl, rfl, rfl⟩ ?_
        (Or.inl opened)
      · rw [State.offer, if_pos writing]
      · simp [essential]

theorem Flows.write
    (flows : Flows setup course accepted)
    (writes : Writes course.state state) :
    Flows setup { course with state } accepted := by
  have opened : accepted.head? = some .opened := flows.opened (not_idle_of_writes writes)
  cases writes with
  | @taken frame rest writing hand queue =>
      have line : course.state.line = accepted := flows.line writing
      rw [State.line, hand, queue] at line
      have bounded : course.state.queue.length ≤ setup.capacity := flows.bounded
      rw [queue] at bounded
      exact
        { flows with
          line := fun _ => by simpa [State.line] using line
          begun := Or.inl opened
          bounded := Nat.le_of_succ_le bounded }
  | @passed frame writing hand connected other =>
      have line : course.state.line = accepted := flows.line writing
      rw [State.line, hand] at line
      have unclosed : .close ∉ course.state.written := flows.unclosed writing
      refine ⟨?_, ?_, flows.account, Or.inl opened, flows.bounded, ?_, ?_⟩
      · intro _
        simpa [State.line] using line
      · rw [← line]
        exact List.prefix_append _ _
      · intro _
        simpa [unclosed] using other.symm
      · rwa [List.dropLast_concat]
  | closed writing hand =>
      have line : course.state.line = accepted := flows.line writing
      rw [State.line, hand] at line
      have unclosed : .close ∉ course.state.written := flows.unclosed writing
      refine ⟨nofun, ?_, flows.account, Or.inl opened, Nat.zero_le _, nofun, ?_⟩
      · rw [← line]
        exact List.prefix_append _ _
      · rwa [List.dropLast_concat]
  | lost =>
      exact
        { flows with
          line := nofun
          begun := Or.inl opened
          bounded := Nat.zero_le _
          unclosed := nofun }

/-- The frames accepted only ever become more. -/
theorem Flows.move
    (flows : Flows setup course accepted)
    (stands : Stands setup memory client course)
    (moves : Moves setup course action after) :
    ∃ frames, Flows setup after (accepted ++ frames) := by
  have kept (same : Flows setup after accepted) :
      ∃ frames, Flows setup after (accepted ++ frames) :=
    ⟨[], by rwa [List.append_nil]⟩
  cases moves with
  | @receive inbound rest reading next =>
      apply kept
      refine flows.transfer (sameWay_receive setup inbound course.state) rfl ?_
      rcases flows.begun with opened | ⟨-, opening, -⟩
      · exact Or.inl opened
      · rw [reading] at opening
        cases opening
  | read reads => exact ⟨_, flows.read reads stands.heartbeat_not_mem_puts⟩
  | wake beats | beat beats => exact flows.beats beats
  | write writes => exact kept (flows.write writes)
  | cut =>
      apply kept
      have begun : State.Begun accepted { course.state with isConnected := false } := by
        rcases flows.begun with opened | ⟨empty, opening, idle⟩
        · exact Or.inl opened
        · exact Or.inr ⟨empty, opening, { idle with }⟩
      exact { flows with begun }

theorem flows_of_run
    (run : (Course.start memory client).run? setup actions = some course) :
    ∃ accepted, Flows setup course accepted := by
  have both : Stands setup memory client course ∧ ∃ accepted, Flows setup course accepted := by
    apply run_induction
      (fun course =>
        Stands setup memory client course ∧ ∃ accepted, Flows setup course accepted) _ _ run
    · exact ⟨.start setup memory client, [], .start setup memory client⟩
    · rintro former later action - ⟨stands, accepted, flows⟩ moves
      obtain ⟨frames, more⟩ := flows.move stands moves
      exact ⟨stands.move moves, accepted ++ frames, more⟩
  exact both.2

/-! ## What is written -/

/-- The frames written are the first of those that the reader has queued. -/
theorem Flows.inOrder (flows : Flows setup course accepted) :
    essential course.state.written <+: course.queued := by
  rw [← flows.account]
  exact flows.emitted.filter _

theorem Flows.head? (flows : Flows setup course accepted) {frame : Frame}
    (first : course.state.written.head? = some frame) : frame = .opened := by
  obtain ⟨later, rest⟩ := flows.emitted
  have acceptedFirst : accepted.head? = some frame := by
    rw [← rest]
    exact head?_append_of_head? first
  rcases flows.begun with opened | ⟨rfl, -, -⟩
  · rw [opened] at acceptedFirst
    cases acceptedFirst
    rfl
  · cases acceptedFirst

theorem Flows.nothingAfterClose
    (flows : Flows setup course accepted) {before behind : List Frame}
    (written : course.state.written = before ++ .close :: behind) : behind = [] := by
  by_contra more
  apply flows.closedLast
  rw [written, List.dropLast_append_cons, List.dropLast_cons_of_ne_nil more]
  exact List.mem_append_right _ List.mem_cons_self

/-! ## A socket that does not fail -/

/-- The socket has not failed, and the writer has not given up before it closed it. -/
structure State.Intact (state : State σ) : Prop where
  connected : state.isConnected = true
  closed : state.isWriting = false → .close ∈ state.written

theorem State.SameWay.intact (way : state.SameWay next) (intact : state.Intact) :
    next.Intact where
  connected := way.connected.trans intact.connected
  closed := by
    rw [way.writing, way.written]
    exact intact.closed

theorem State.Intact.write (intact : state.Intact) (writes : Writes state next) :
    next.Intact := by
  cases writes with
  | taken writing => exact { intact with }
  | passed writing =>
      refine ⟨intact.connected, ?_⟩
      intro gone
      rw [writing] at gone
      cases gone
  | closed =>
      refine ⟨intact.connected, ?_⟩
      exact fun _ => List.mem_append_right _ (List.mem_singleton_self _)
  | lost writing hand cut =>
      rw [intact.connected] at cut
      cases cut

theorem State.Intact.beats (intact : state.Intact) (beats : Beats setup state next) :
    next.Intact := by
  cases beats with
  | resting => exact intact
  | turned | added => exact { intact with }

/-- Where the socket does not fail, the writer goes on until it has closed it. -/
theorem intact_of_run
    (uncut : .cut ∉ actions)
    (run : (Course.start memory client).run? setup actions = some course) :
    course.state.Intact := by
  apply run_induction (fun course => course.state.Intact) _ _ run
  · exact ⟨rfl, nofun⟩
  · intro former later action member intact moves
    cases moves with
    | receive => exact (sameWay_receive _ _ _).intact intact
    | read reads => exact (sameWay_of_reads reads).intact { intact with }
    | wake beats | beat beats => exact intact.beats beats
    | write writes => exact intact.write writes
    | cut => exact absurd member uncut

/-- A writer that has closed the socket has passed on all that the reader had to say. -/
theorem closed_complete
    (stands : Stands setup memory client course)
    (flows : Flows setup course accepted)
    (closed : .close ∈ course.state.written) :
    course.failed = [] ∧
      essential course.state.written = setup.said memory (heard client) ++ farewell := by
  -- The close frame is the last that the reader queues, so all others went before it.
  have passed : .close ∈ essential course.state.written := by
    simpa [essential] using closed
  have inOrder : essential course.state.written <+: course.queued := flows.inOrder
  have queued : .close ∈ course.queued := inOrder.subset passed
  cases stands with
  | unopened unopened =>
      rw [unopened.noneQueued] at queued
      cases queued
  | @serving delivered _ _ serving =>
      have said : .close ∈ setup.said memory delivered := by
        rw [← serving.account]
        exact List.mem_append_left _ queued
      exact absurd said (close_not_mem_said setup memory delivered)
  | @stopped delivered due stopped =>
      have account :
          course.queued ++ (course.failed ++ due) = setup.said memory delivered ++ farewell := by
        rw [← List.append_assoc]
        exact stopped.account
      have front : course.queued <+: setup.said memory delivered ++ farewell := by
        rw [← account]
        exact List.prefix_append _ _
      have whole : course.queued = setup.said memory delivered ++ farewell :=
        eq_of_close_mem front queued
      have unfailed : course.failed = [] := by
        rw [← whole] at account
        exact (List.append_eq_nil_iff.mp (List.append_right_eq_self.mp account)).1
      rw [(stopped.allHeard unfailed).1] at whole
      rw [whole] at inOrder
      exact ⟨unfailed, eq_of_close_mem inOrder passed⟩

/-- Where the socket does not fail, no frame of the reader does. -/
theorem failed_of_uncut
    (uncut : .cut ∉ actions)
    (run : (Course.start memory client).run? setup actions = some course) :
    course.failed = [] := by
  have stands : Stands setup memory client course := stands_of_run run
  obtain ⟨accepted, flows⟩ := flows_of_run run
  cases writing : course.state.isWriting with
  | true => exact stands.clean writing
  | false => exact (closed_complete stands flows ((intact_of_run uncut run).closed writing)).1

/--
Nothing but heartbeats is lost on the way out.

At every moment of every session, whatever its room, its client and its
application are and however the tasks take turns, the frames that the socket has
taken are, but for heartbeats, the first of those that the reader has queued; and
these are the open frame, the replies in their order, and the last two frames.
The open frame comes first of all and the close frame last.  While the writer
lives, no other frame than a heartbeat is dropped: with the queue full the reader
waits, and a heartbeat leaves the queue as it is.  If the socket never fails, then
all there is to be said has been written when the reader and the writer are done.
-/
theorem outbound_in_order
    (setup : Setup σ) (memory : σ) (client : List Inbound) (actions : List Action)
    (course : Course σ)
    (run : (Course.start memory client).run? setup actions = some course) :
    essential course.state.written <+: course.queued ∧
      (∃ delivered, delivered <+: heard client ∧
        course.queued <+: setup.said memory delivered ++ farewell) ∧
      (∀ frame, course.state.written.head? = some frame → frame = .opened) ∧
      course.state.queue.length ≤ setup.capacity ∧
      (course.state.isWriting = true →
        essential (course.state.written ++ course.state.hand.toList ++ course.state.queue) =
            course.queued ∧
          course.failed = []) ∧
      (course.state.isWriting = true → course.state.queue.length = setup.capacity →
        (course.state.phase.frame? ≠ none → course.step? setup .read = none) ∧
          (Session.beat setup course.state).queue = course.state.queue) ∧
      (∀ before behind, course.state.written = before ++ .close :: behind → behind = []) ∧
      (.cut ∉ actions → course.state.phase = .ended → course.state.isWriting = false →
        essential course.state.written = setup.said memory (heard client) ++ farewell) := by
  have stands : Stands setup memory client course := stands_of_run run
  obtain ⟨accepted, flows⟩ := flows_of_run run
  refine ⟨flows.inOrder, ?_, fun _ => flows.head?, flows.bounded, ?_, ?_,
    fun _ _ => flows.nothingAfterClose, ?_⟩
  · obtain ⟨delivered, hears, -, account⟩ := stands.transcript
    exact ⟨delivered, hears, (List.prefix_append _ _).trans account⟩
  · intro writing
    refine ⟨?_, stands.clean writing⟩
    have line : course.state.line = accepted := flows.line writing
    rw [← flows.account, ← line]
    rfl
  · intro writing full
    have noRoom : setup.capacity ≤ course.state.queue.length := Nat.le_of_eq full.symm
    refine ⟨?_, queue_beat_of_full writing noRoom⟩
    intro due
    rw [Course.step?, readerStep?_of_full writing noRoom due]
    rfl
  · intro uncut _ gone
    exact (closed_complete stands flows ((intact_of_run uncut run).closed gone)).2

/-- A session with room for one frame. -/
def crowded : Setup Unit :=
  { application := .echo, sessionId := "crowded", capacity := 1, interval := 25000 }

/-- A course of it in which the first heartbeat finds the queue full. -/
def crowdedActions : List Action :=
  [.read, .wake, .beat, .write, .wake, .beat, .write, .receive, .read, .write, .read, .write,
    .read, .receive, .write, .write, .read, .write, .read, .read, .write, .write, .write]

theorem outbound_in_order_crowded :
    ∃ course,
      (Course.start () [.text "\"a\"", .gone]).run? crowded crowdedActions = some course ∧
        course.state.written = [.opened, .heartbeat, .messages ["a"], .goAway, .close] ∧
          essential course.state.written =
            crowded.said () (heard [.text "\"a\"", .gone]) ++ farewell := by
  obtain ⟨course, run, written, ended, gone⟩ :
      ∃ course,
        (Course.start () [.text "\"a\"", .gone]).run? crowded crowdedActions = some course ∧
          course.state.written = [.opened, .heartbeat, .messages ["a"], .goAway, .close] ∧
            course.state.phase = .ended ∧ course.state.isWriting = false :=
    ⟨_, rfl, by decide, by decide, by decide⟩
  obtain ⟨-, -, -, -, -, -, -, complete⟩ :=
    outbound_in_order crowded () [.text "\"a\"", .gone] crowdedActions course run
  exact ⟨course, run, written, complete (by decide) ended gone⟩

end SessionGateway.Session
