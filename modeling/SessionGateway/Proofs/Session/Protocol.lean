import SessionGateway.Proofs.Session.Outbound

/-!
# The reader follows the protocol

What an application is told of a session, and what its reader queues, over every
course of the session: with a writer that lives to the end, and with one that
dies on the way.
-/

namespace SessionGateway.Session

variable
    {σ : Type}
    {setup : Setup σ}
    {memory : σ}
    {client : List Inbound}
    {course after : Course σ}
    {state next : State σ}
    {action : Action}
    {actions : List Action}

/-! ## A reader that has come to rest -/

/-- The reader is done, or waits for a client that has no more to say. -/
def Course.Served (course : Course σ) : Prop :=
  course.state.phase = .ended ∨ (course.state.phase = .reading ∧ course.client = [])

/-- A reader without a failed frame has served its client in full. -/
theorem Stands.served
    (stands : Stands setup memory client course)
    (alive : course.failed = []) (served : course.Served) :
    course.state.callbacks =
        setup.called (heard client) ++
          (if stops client then [.closed setup.sessionId] else []) ∧
      course.queued =
        setup.said memory (heard client) ++ (if stops client then farewell else []) := by
  cases stands with
  | unopened unopened =>
      rcases served with ended | ⟨reading, -⟩
      · rw [unopened.phase] at ended
        cases ended
      · rw [unopened.phase] at reading
        cases reading
  | @serving delivered left due serving =>
      obtain ⟨phase, -, called, account, -, hears, stopsLater⟩ := serving
      rcases served with ended | ⟨reading, exhausted⟩
      · rw [ended] at phase
        cases phase
      · rw [reading] at phase
        cases phase
        rw [exhausted] at hears stopsLater
        have allHeard : heard client = delivered := by
          simpa [heard] using hears
        have unstopped : stops client = false := stopsLater
        rw [allHeard, unstopped]
        rw [List.append_nil] at account
        refine ⟨?_, ?_⟩
        · simpa using called
        · simpa using account
  | @stopped delivered due stopped =>
      obtain ⟨allHeard, stopsNow⟩ := stopped.allHeard alive
      obtain ⟨phase, called, account⟩ := stopped
      rcases served with ended | ⟨reading, -⟩
      · rw [ended] at phase
        cases phase
        rw [alive, List.append_nil, List.append_nil] at account
        rw [← allHeard, stopsNow]
        exact ⟨called, account⟩
      · rw [reading] at phase
        cases phase

/-- As long as no frame fails, nothing that the client has to say is passed over. -/
theorem Stands.alive
    (stands : Stands setup memory client course) (alive : course.failed = []) :
    course.state.callbacks <+: setup.called (heard client) ++ [.closed setup.sessionId] ∧
      course.queued <+: setup.said memory (heard client) ++ farewell := by
  cases stands with
  | unopened unopened =>
      rw [unopened.silent, unopened.noneQueued]
      exact ⟨List.nil_prefix, List.nil_prefix⟩
  | @serving delivered left due serving =>
      have front : delivered <+: heard client := serving.front
      have queued : course.queued <+: setup.said memory delivered := by
        rw [← serving.account]
        exact List.prefix_append _ _
      rw [serving.called]
      exact
        ⟨(called_mono setup front).trans (List.prefix_append _ _),
          (queued.trans (said_mono setup memory front)).trans (List.prefix_append _ _)⟩
  | @stopped delivered due stopped =>
      rw [stopped.called, ← (stopped.allHeard alive).1, ← stopped.account, List.append_assoc]
      exact ⟨List.prefix_rfl, List.prefix_append _ _⟩

/-! ## A reader that has stopped -/

/-- A reader that has stopped tells the application nothing more, and hears nothing more. -/
theorem over_of_moves
    {due : List Frame}
    (leaving : course.state.phase.Over due)
    (moves : Moves setup course action after) :
    (∃ due, after.state.phase.Over due) ∧
      after.state.callbacks = course.state.callbacks ∧ after.client = course.client := by
  cases moves with
  | receive reading =>
      rw [reading] at leaving
      cases leaving
  | read reads =>
      cases reads with
      | opened other | exhausted other | delivered other | replied other | abandoned other =>
          rw [other] at leaving
          cases leaving
      | closed => exact ⟨⟨_, .closing _⟩, rfl, rfl⟩
      | ended => exact ⟨⟨_, .ended⟩, rfl, rfl⟩
  | wake beats | beat beats => cases beats <;> exact ⟨⟨due, leaving⟩, rfl, rfl⟩
  | write writes => cases writes <;> exact ⟨⟨due, leaving⟩, rfl, rfl⟩
  | cut => exact ⟨⟨due, leaving⟩, rfl, rfl⟩

theorem over_of_run
    {due : List Frame}
    (leaving : course.state.phase.Over due)
    (run : course.run? setup actions = some after) :
    after.state.callbacks = course.state.callbacks ∧ after.client = course.client := by
  have all :
      (∃ due, after.state.phase.Over due) ∧
        after.state.callbacks = course.state.callbacks ∧ after.client = course.client := by
    apply run_induction
      (fun later => (∃ due, later.state.phase.Over due) ∧
        later.state.callbacks = course.state.callbacks ∧ later.client = course.client) _ _ run
    · exact ⟨⟨due, leaving⟩, rfl, rfl⟩
    · rintro former later action - ⟨⟨due, leaving⟩, sameCalls, sameClient⟩ moves
      obtain ⟨still, calls, left⟩ := over_of_moves leaving moves
      exact ⟨still, calls.trans sameCalls, left.trans sameClient⟩
  exact all.2

/-! ## Coming to rest -/

theorem settle_rests (setup : Setup σ) (state : State σ) :
    readerStep? setup (settle setup state) = none ∧ writerStep? (settle setup state) = none := by
  fun_induction settle setup state with
  | case1 state next reader ih => exact ih
  | case2 state reader next writer ih => exact ih
  | case3 state reader writer => exact ⟨reader, writer⟩

/-- Letting reader and writer run is one of their courses. -/
theorem settle_run (setup : Setup σ) (state : State σ) (client : List Inbound)
    (queued failed : List Frame) :
    ∃ actions queuedLater failedLater, .cut ∉ actions ∧
      Course.run? setup { state, client, queued, failed } actions =
        some
          { state := settle setup state
            client
            queued := queuedLater
            failed := failedLater } := by
  fun_induction settle setup state generalizing queued failed with
  | case1 state next reader ih =>
      obtain ⟨actions, queuedLater, failedLater, uncut, run⟩ :=
        ih (queued ++ state.puts) (failed ++ state.fails)
      refine ⟨.read :: actions, queuedLater, failedLater, by simpa using uncut, ?_⟩
      rw [run?_cons, Course.step?, reader]
      exact run
  | case2 state reader next writer ih =>
      obtain ⟨actions, queuedLater, failedLater, uncut, run⟩ := ih queued failed
      refine ⟨.write :: actions, queuedLater, failedLater, by simpa using uncut, ?_⟩
      rw [run?_cons, Course.step?, writer]
      exact run
  | case3 state reader writer => exact ⟨[], queued, failed, List.not_mem_nil, rfl⟩

/-- A writer that lives and rests has nothing left to pass on. -/
theorem empty_of_writerStep?
    (writer : writerStep? state = none) (writing : state.isWriting = true) :
    state.hand = none ∧ state.queue = [] := by
  unfold writerStep? at writer
  rw [writing] at writer
  cases hand : state.hand with
  | none =>
      cases queue : state.queue with
      | nil => exact ⟨rfl, rfl⟩
      | cons frame rest => simp [hand, queue] at writer
  | some frame =>
      rw [hand] at writer
      simp only [Bool.not_true, Bool.false_eq_true, if_false] at writer
      split at writer
      · cases writer
      · split at writer <;> cases writer

/-- If there is any room at all, nothing but the client can hold up reader and writer. -/
theorem phase_of_rest
    (room : 0 < setup.capacity)
    (reader : readerStep? setup state = none) (writer : writerStep? state = none) :
    state.phase = .reading ∨ state.phase = .ended := by
  have sends (frame : Frame) : state.send setup frame ≠ .blocked := by
    intro blocked
    rcases send_cases setup frame state with
      ⟨-, -, sent⟩ | ⟨-, sent⟩ | ⟨writing, full, -⟩
    · rw [sent] at blocked
      cases blocked
    · rw [sent] at blocked
      cases blocked
    · rw [(empty_of_writerStep? writer writing).2, List.length_nil] at full
      exact absurd room (Nat.not_lt_of_le full)
  unfold readerStep? at reader
  split at reader
  case h_1 =>
    split at reader
    · cases reader
    · cases reader
    · next blocked => exact absurd blocked (sends _)
  case h_2 phase => exact Or.inl phase
  case h_3 => cases reader
  case h_4 => cases reader
  case h_5 =>
    split at reader
    · cases reader
    · cases reader
    · next blocked => exact absurd blocked (sends _)
  case h_6 => cases reader
  case h_7 =>
    split at reader
    · cases reader
    · cases reader
    · next blocked => exact absurd blocked (sends _)
  case h_8 phase => exact Or.inr phase

/-- Whatever has happened, the client can be served without the socket failing. -/
theorem serves
    (room : 0 < setup.capacity) (course : Course σ) :
    ∃ actions later, .cut ∉ actions ∧ course.run? setup actions = some later ∧
      later.Served := by
  -- Reader and writer settle; then it is up to the client, which has a first thing to say.
  induction client : course.client generalizing course with
  | nil =>
      obtain ⟨actions, queued, failed, uncut, settled⟩ :=
        settle_run setup course.state course.client course.queued course.failed
      refine ⟨actions, _, uncut, settled, ?_⟩
      obtain ⟨reader, writer⟩ := settle_rests setup course.state
      rcases phase_of_rest room reader writer with reading | ended
      · exact Or.inr ⟨reading, client⟩
      · exact Or.inl ended
  | cons inbound rest ih =>
      obtain ⟨actions, queued, failed, uncut, settled⟩ :=
        settle_run setup course.state course.client course.queued course.failed
      obtain ⟨reader, writer⟩ := settle_rests setup course.state
      rcases phase_of_rest room reader writer with reading | ended
      · obtain ⟨more, later, uncutMore, run, served⟩ :=
          ih
            { state := Session.receive setup inbound (settle setup course.state)
              client := rest
              queued
              failed } rfl
        refine ⟨actions ++ .receive :: more, later, ?_, ?_, served⟩
        · simp [uncut, uncutMore]
        · rw [run?_append, settled, Option.bind_some, run?_cons, Course.step?]
          simp only [reading, client]
          exact run
      · exact ⟨actions, _, uncut, settled, Or.inl ended⟩

/--
A session follows its protocol with every client.

At every moment the application has been told of the open session, of the first
of the messages heard and perhaps of the closed session, in this order, and what
the reader has queued, or tried to, goes with it.  As long as no frame fails, and
that is so as long as the socket does not fail, no message is passed over; and
once the client is served, everything heard has been delivered and answered by
the frames of its replies, and the session is closed if there was a stop.  With
the first frame that fails, reading stops for good, and the session is closed in
the eyes of the application.  However far a session is, the client can be served.
What is neither text nor the end changes nothing.
-/
theorem follows_protocol
    (setup : Setup σ) (memory : σ) (client : List Inbound) (actions : List Action)
    (course : Course σ)
    (run : (Course.start memory client).run? setup actions = some course) :
    (∃ delivered, delivered <+: heard client ∧
      course.state.callbacks <+: setup.called delivered ++ [.closed setup.sessionId] ∧
        course.queued ++ course.failed <+: setup.said memory delivered ++ farewell) ∧
      (course.failed = [] →
        course.state.callbacks <+: setup.called (heard client) ++ [.closed setup.sessionId] ∧
          course.queued <+: setup.said memory (heard client) ++ farewell) ∧
      (course.failed = [] → course.Served →
        course.state.callbacks =
            setup.called (heard client) ++
              (if stops client then [.closed setup.sessionId] else []) ∧
          course.queued =
            setup.said memory (heard client) ++ (if stops client then farewell else []) ∧
          course.queued.map Frame.text? =
            some "o" ::
              ((setup.answers (setup.application.onOpen setup.sessionId memory)
                    (heard client)).filter fun replies => !replies.isEmpty).map
                (fun replies =>
                  some (String.ofList ('a' :: Json.writeTextList (replies.map String.toList)))) ++
              (if stops client then [some "c[3000,\"Go away!\"]", none] else [])) ∧
      (.cut ∉ actions → course.failed = []) ∧
      (course.failed ≠ [] ∨ course.state.phase = .ended →
        (∃ delivered, delivered <+: heard client ∧
          course.state.callbacks = setup.called delivered ++ [.closed setup.sessionId]) ∧
        ∀ more later, course.run? setup more = some later →
          later.state.callbacks = course.state.callbacks ∧ later.client = course.client) ∧
      (0 < setup.capacity → ∃ more later, .cut ∉ more ∧
        course.run? setup more = some later ∧ later.Served) ∧
      receive setup .other course.state = course.state := by
  have stands : Stands setup memory client course := stands_of_run run
  refine ⟨stands.transcript, stands.alive, ?_, fun uncut => failed_of_uncut uncut run, ?_,
    fun room => serves room course, ?_⟩
  · intro alive served
    obtain ⟨calls, queued⟩ := stands.served alive served
    refine ⟨calls, queued, ?_⟩
    rw [queued, List.map_append, text?_said]
    cases stops client <;> rfl
  · intro done
    cases stands with
    | unopened unopened => simp [unopened.phase, unopened.noneFailed] at done
    | serving serving =>
        have phase := serving.phase
        rcases done with failed | ended
        · exact absurd serving.clean failed
        · rw [ended] at phase
          cases phase
    | @stopped delivered due stopped =>
        refine ⟨⟨delivered, stopped.hears, stopped.called⟩, ?_⟩
        intro more later further
        exact over_of_run stopped.phase further
  · cases phase : course.state.phase <;> simp [receive, phase]

/-- An application that answers every other message, twice. -/
def alternating : Application Nat where
  onMessage _ text count := (count + 1, if count % 2 = 0 then [text, text] else [])

def patient : Setup Nat :=
  { application := alternating, sessionId := "patient", capacity := 4, interval := 25000 }

/-- Two messages, something else, and a frame that breaks off after its first message. -/
def breakingOff : List Inbound :=
  [.text "[\"a\",\"b\"]", .other, .text "[\"c\",1]"]

def patientActions : List Action :=
  [.read, .receive, .read, .read, .read, .read, .receive, .receive, .read, .read, .read]

/-- The second message goes without an answer, and nothing of the broken frame is delivered. -/
theorem follows_protocol_broken :
    ∃ course,
      (Course.start 0 breakingOff).run? patient patientActions = some course ∧
        course.state.callbacks =
            [.opened "patient", .message "patient" "a", .message "patient" "b",
              .closed "patient"] ∧
          course.queued.map Frame.text? =
            [some "o", some "a[\"a\",\"a\"]", some "c[3000,\"Go away!\"]", none] := by
  have finished :
      ((Course.start 0 breakingOff).run? patient patientActions).map
          (fun course => (course.failed, course.state.phase)) =
        some ([], .ended) := by
    decide +kernel
  obtain ⟨course, run, done⟩ := Option.map_eq_some_iff.mp finished
  obtain ⟨alive, ended⟩ := Prod.mk.inj done
  obtain ⟨-, -, complete, -⟩ := follows_protocol patient 0 breakingOff patientActions course run
  obtain ⟨calls, -, texts⟩ := complete alive (Or.inl ended)
  refine ⟨course, run, calls.trans ?_, texts.trans ?_⟩
  · decide +kernel
  · decide +kernel

end SessionGateway.Session
