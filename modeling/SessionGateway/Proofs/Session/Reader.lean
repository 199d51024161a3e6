import SessionGateway.Proofs.Session.Steps

/-!
# The reader of a session

The reader is in one of three stages: it has not opened the session, it serves
the client, or it has stopped.  `Stands` says for each of them what the
application has been told and what has become of the frames, given what the
client had to say at the start; it holds in every course of the session.
-/

namespace SessionGateway.Session

variable
    {σ : Type}
    {setup : Setup σ}
    {memory : σ}
    {client : List Inbound}
    {course after : Course σ}
    {state : State σ}
    {delivered left : List String}
    {due : List Frame}
    {action : Action}
    {actions : List Action}

/-! ## How far the reader is -/

/-- The reader is between open and stop; some messages are left, and some frames are due. -/
inductive Phase.Within : Phase → List String → List Frame → Prop
  | reading : Within .reading [] []
  | delivering (messages : List String) : Within (.delivering messages) messages []
  | sending (replies messages : List String) :
      Within (.sending (.messages replies) messages) messages [.messages replies]

/-- The reader has stopped, and some frames are due. -/
inductive Phase.Over : Phase → List Frame → Prop
  | closing (frames : List Frame) : Over (.closing frames) frames
  | ended : Over .ended []

theorem Phase.Within.frame?_eq {phase : Phase} (within : phase.Within left due) :
    phase.frame? = due.head? := by
  cases within <;> rfl

theorem Phase.Over.frame?_eq {phase : Phase} (leaving : phase.Over due) :
    phase.frame? = due.head? := by
  cases leaving with
  | closing => cases due <;> rfl
  | ended => rfl

/-- No task has done anything for a session. -/
structure State.Idle (state : State σ) : Prop where
  queue : state.queue = []
  hand : state.hand = none
  heart : state.heart = .unscheduled
  writing : state.isWriting = true

/-- The session has not been opened. -/
structure Unopened (memory : σ) (client : List Inbound) (course : Course σ) : Prop where
  phase : course.state.phase = .opening
  idle : course.state.Idle
  fresh : course.state.memory = memory
  silent : course.state.callbacks = []
  noneQueued : course.queued = []
  noneFailed : course.failed = []
  untouched : course.client = client

/-- The reader has handed on some messages; others are left, and some frames are due. -/
structure Serving
    (setup : Setup σ) (memory : σ) (client : List Inbound) (course : Course σ)
    (delivered left : List String) (due : List Frame) : Prop where
  phase : course.state.phase.Within left due
  remembered :
    course.state.memory =
      setup.memoryAfter (setup.application.onOpen setup.sessionId memory) delivered
  called : course.state.callbacks = setup.called delivered
  account : course.queued ++ due = setup.said memory delivered
  clean : course.failed = []
  hears : heard client = delivered ++ left ++ heard course.client
  stopsLater : stops client = stops course.client

/-- The reader has stopped after some messages, and some frames are due. -/
structure Stopped
    (setup : Setup σ) (memory : σ) (client : List Inbound) (course : Course σ)
    (delivered : List String) (due : List Frame) : Prop where
  phase : course.state.phase.Over due
  called : course.state.callbacks = setup.called delivered ++ [.closed setup.sessionId]
  account : course.queued ++ course.failed ++ due = setup.said memory delivered ++ farewell
  last : due <:+ farewell
  clean : course.state.isWriting = true → course.failed = []
  hears : delivered <+: heard client
  /-- Only replies that fail make the reader stop before the client does. -/
  complete :
    (∀ replies, .messages replies ∉ course.failed) →
      delivered = heard client ∧ stops client = true

/-- Where the reader of a course stands. -/
inductive Stands
    (setup : Setup σ) (memory : σ) (client : List Inbound) (course : Course σ) : Prop
  | unopened (unopened : Unopened memory client course)
  | serving {delivered left : List String} {due : List Frame}
      (serving : Serving setup memory client course delivered left due)
  | stopped {delivered : List String} {due : List Frame}
      (stopped : Stopped setup memory client course delivered due)

theorem Stands.start (setup : Setup σ) (memory : σ) (client : List Inbound) :
    Stands setup memory client (.start memory client) :=
  .unopened ⟨rfl, ⟨rfl, rfl, rfl, rfl⟩, rfl, rfl, rfl, rfl, rfl⟩

/-! ## The client is heard -/

/-- A reader that stops has called the application for the last time. -/
theorem stopped_stop
    {rest : List Inbound} {queued failed : List Frame}
    (called : state.callbacks = setup.called delivered)
    (account : queued ++ failed = setup.said memory delivered)
    (clean : state.isWriting = true → failed = [])
    (hears : delivered <+: heard client)
    (complete :
      (∀ replies, .messages replies ∉ failed) →
        delivered = heard client ∧ stops client = true) :
    Stopped setup memory client
      { state := stop setup state, client := rest, queued, failed } delivered farewell where
  phase := .closing farewell
  called := by simp [stop, State.note, called]
  account := by rw [account]
  last := List.suffix_rfl
  clean := clean
  hears := hears
  complete := complete

theorem Serving.receive
    {inbound : Inbound} {rest : List Inbound}
    (serving : Serving setup memory client course delivered left due)
    (reading : course.state.phase = .reading) (next : course.client = inbound :: rest) :
    Stands setup memory client
      { course with state := Session.receive setup inbound course.state, client := rest } := by
  obtain ⟨phase, remembered, called, account, clean, hears, stopsLater⟩ := serving
  rw [reading] at phase
  cases phase
  rw [next] at hears stopsLater
  rw [List.append_nil] at hears
  have stopped (state : State σ) (same : state.callbacks = course.state.callbacks)
      (allHeard : heard client = delivered) (stopsNow : stops client = true) :
      Stands setup memory client { course with state := stop setup state, client := rest } := by
    have accounted : course.queued ++ course.failed = setup.said memory delivered := by
      rw [clean]
      exact account
    refine .stopped (stopped_stop (same.trans called) accounted (fun _ => clean) ?_ ?_)
    · exact allHeard ▸ List.prefix_rfl
    · exact fun _ => ⟨allHeard.symm, stopsNow⟩
  -- A stop ends what is heard of the client; all else may add to it, and changes nothing else.
  cases stop : inbound.isStop with
  | true =>
      rw [heard_cons_of_stop stop, List.append_nil] at hears
      rw [stops_cons_of_stop stop] at stopsLater
      cases inbound with
      | other => cases stop
      | gone =>
          simp only [Session.receive, reading]
          exact stopped course.state rfl hears stopsLater
      | text content =>
          have broken : Frame.decode? content = none := Option.isNone_iff_eq_none.mp stop
          simp only [Session.receive, reading, broken]
          exact stopped
            { course.state with
              events := course.state.events ++ [brokenFrame setup.sessionId] }
            rfl hears stopsLater
  | false =>
      rw [heard_cons stop, ← List.append_assoc] at hears
      rw [stops_cons stop] at stopsLater
      cases inbound with
      | gone => cases stop
      | other =>
          simp only [Session.receive, reading]
          refine .serving ⟨?_, remembered, called, account, clean, hears, stopsLater⟩
          rw [reading]
          exact .reading
      | text content =>
          obtain ⟨messages, decoded⟩ : ∃ messages, Frame.decode? content = some messages :=
            Option.isSome_iff_exists.mp (Option.isNone_eq_false_iff.mp stop)
          rw [Inbound.messages, decoded, Option.getD_some] at hears
          simp only [Session.receive, reading, decoded]
          exact .serving
            ⟨.delivering messages, remembered, called, account, clean, hears, stopsLater⟩

/-! ## The reader goes on -/

theorem Unopened.read
    (unopened : Unopened memory client course) (reads : Reads setup course.state state) :
    Stands setup memory client (course.advance state) := by
  have writing : course.state.isWriting = true := unopened.idle.writing
  cases reads with
  | opened opening =>
      rw [advance_of_writing writing, opening, unopened.noneQueued, unopened.noneFailed,
        unopened.untouched]
      have called : course.state.callbacks ++ [.opened setup.sessionId] = setup.called [] := by
        rw [unopened.silent]
        rfl
      have remembered :
          setup.application.onOpen setup.sessionId course.state.memory =
            setup.memoryAfter (setup.application.onOpen setup.sessionId memory) [] := by
        rw [unopened.fresh]
        rfl
      exact .serving ⟨.reading, remembered, called, rfl, rfl, rfl, rfl⟩
  | exhausted other | delivered other | replied other | abandoned other | closed other
    | ended other =>
      rw [unopened.phase] at other
      cases other

/-- A message is handed on; its replies, if there are any, are due. -/
theorem Serving.deliver
    {message : String} {rest : List String}
    (serving : Serving setup memory client course delivered left due)
    (delivering : course.state.phase = .delivering (message :: rest)) :
    Stands setup memory client
      { course with state := Session.deliver setup message rest course.state } := by
  obtain ⟨phase, remembered, called, account, clean, hears, stopsLater⟩ := serving
  rw [delivering] at phase
  cases phase
  rw [List.append_nil] at account
  have hearsNext : heard client = (delivered ++ [message]) ++ rest ++ heard course.client := by
    simpa using hears
  have calledNext :
      course.state.callbacks ++ [.message setup.sessionId message] =
        setup.called (delivered ++ [message]) := by
    rw [called, called_concat]
  have rememberedNext :
      (setup.application.onMessage setup.sessionId message course.state.memory).1 =
        setup.memoryAfter (setup.application.onOpen setup.sessionId memory)
          (delivered ++ [message]) := by
    rw [remembered, memoryAfter_concat]
  have saidNext :
      setup.said memory (delivered ++ [message]) =
        course.queued ++
          replyFrames
            [(setup.application.onMessage setup.sessionId message course.state.memory).2] := by
    rw [said_concat, account, remembered]
  cases silent :
      (setup.application.onMessage setup.sessionId message course.state.memory).2.isEmpty with
  | true =>
      have phaseNext :
          (Session.deliver setup message rest course.state).phase.Within rest [] := by
        simp only [Session.deliver, State.note, silent, if_true]
        exact .delivering rest
      refine .serving
        ⟨phaseNext, rememberedNext, calledNext, ?_, clean, hearsNext, stopsLater⟩
      rw [saidNext]
      simp [replyFrames, silent]
  | false =>
      have phaseNext :
          (Session.deliver setup message rest course.state).phase.Within rest
            [.messages
              (setup.application.onMessage setup.sessionId message course.state.memory).2] := by
        simp only [Session.deliver, State.note, silent, Bool.false_eq_true, if_false]
        exact .sending _ rest
      refine .serving
        ⟨phaseNext, rememberedNext, calledNext, ?_, clean, hearsNext, stopsLater⟩
      rw [saidNext]
      simp [replyFrames, silent]

/-- The writer is gone: some replies have failed, and with them the reader stops. -/
theorem Serving.abandon
    {frame : Frame} {rest : List String}
    (serving : Serving setup memory client course delivered left due)
    (sending : course.state.phase = .sending frame rest)
    (gone : course.state.isWriting = false) :
    Stands setup memory client
      { course with state := stop setup course.state, failed := course.failed ++ [frame] } := by
  obtain ⟨phase, -, called, account, clean, hears, -⟩ := serving
  rw [sending] at phase
  cases phase with
  | sending replies =>
      refine .stopped (stopped_stop called ?_ ?_ ?_ ?_)
      · rw [clean]
        exact account
      · intro writing
        rw [gone] at writing
        cases writing
      · rw [hears, List.append_assoc]
        exact List.prefix_append _ _
      · intro none
        exact absurd (List.mem_append_right _ (List.mem_singleton_self _)) (none replies)

theorem Serving.read
    (serving : Serving setup memory client course delivered left due)
    (reads : Reads setup course.state state) :
    Stands setup memory client (course.advance state) := by
  have phase : course.state.phase.Within left due := serving.phase
  cases reads with
  | opened other | closed other | ended other =>
      rw [other] at phase
      cases phase
  | exhausted exhausted =>
      have silent : course.state.phase.frame? = none := by
        rw [exhausted]
        rfl
      rw [exhausted] at phase
      cases phase
      rw [advance_of_silent silent]
      exact .serving { serving with phase := .reading }
  | delivered delivering =>
      have silent : course.state.phase.frame? = none := by
        rw [delivering]
        rfl
      rw [advance_of_silent silent]
      exact serving.deliver delivering
  | replied sending _ writing =>
      rw [advance_of_writing writing, sending]
      rw [sending] at phase
      cases phase with
      | sending replies =>
          have account : course.queued ++ [.messages replies] = setup.said memory delivered :=
            serving.account
          refine .serving { serving with phase := .delivering left, account := ?_ }
          rw [List.append_nil]
          exact account
  | abandoned sending gone =>
      rw [advance_of_gone gone, sending]
      exact serving.abandon sending gone

theorem Stopped.read
    (stopped : Stopped setup memory client course delivered due)
    (reads : Reads setup course.state state) :
    Stands setup memory client (course.advance state) := by
  have phase : course.state.phase.Over due := stopped.phase
  cases reads with
  | opened other | exhausted other | delivered other | replied other | abandoned other =>
      rw [other] at phase
      cases phase
  | @closed frame rest closing =>
      rw [closing] at phase
      cases phase
      have account :
          course.queued ++ course.failed ++ frame :: rest =
            setup.said memory delivered ++ farewell := stopped.account
      have last : rest <:+ farewell := (List.suffix_cons frame rest).trans stopped.last
      -- The frame is accounted for either way: it is queued, or it has failed.
      cases writing : course.state.isWriting with
      | true =>
          have clean : course.failed = [] := stopped.clean writing
          rw [advance_of_writing writing, closing]
          refine .stopped { stopped with phase := .closing rest, account := ?_, last }
          rw [← account, clean]
          simp [Phase.frame?]
      | false =>
          rw [advance_of_gone writing, closing]
          refine .stopped
            ⟨.closing rest, stopped.called, ?_, last, ?_, stopped.hears, ?_⟩
          · rw [← account]
            simp [Phase.frame?]
          · intro writingStill
            simp [State.offer, writing] at writingStill
          · intro none
            exact stopped.complete fun replies member =>
              none replies (List.mem_append_left _ member)
  | ended closing =>
      have silent : course.state.phase.frame? = none := by
        rw [closing]
        rfl
      rw [closing] at phase
      cases phase
      rw [advance_of_silent silent]
      exact .stopped { stopped with phase := .ended }

/-! ## The other tasks -/

/-- Nobody but the reader changes what the reader goes by. -/
theorem Stands.aside
    (stands : Stands setup memory client course)
    (phase : state.phase = course.state.phase)
    (remembered : state.memory = course.state.memory)
    (called : state.callbacks = course.state.callbacks)
    (writing : state.isWriting = true → course.state.isWriting = true)
    (idle : course.state.Idle → state.Idle) :
    Stands setup memory client { course with state } := by
  cases stands with
  | unopened unopened =>
      exact .unopened
        { unopened with
          phase := phase.trans unopened.phase
          idle := idle unopened.idle
          fresh := remembered.trans unopened.fresh
          silent := called.trans unopened.silent }
  | serving serving =>
      exact .serving
        { serving with
          phase := phase ▸ serving.phase
          remembered := remembered.trans serving.remembered
          called := called.trans serving.called }
  | stopped stopped =>
      exact .stopped
        { stopped with
          phase := phase ▸ stopped.phase
          called := called.trans stopped.called
          clean := fun alive => stopped.clean (writing alive) }

theorem Stands.beats
    (stands : Stands setup memory client course)
    (beats : Beats setup course.state state) :
    Stands setup memory client { course with state } := by
  cases beats with
  | resting => exact stands
  | turned heart scheduled =>
      refine stands.aside rfl rfl rfl id ?_
      exact fun idle => absurd idle.heart scheduled
  | added heart scheduled =>
      refine stands.aside rfl rfl rfl id ?_
      exact fun idle => absurd idle.heart scheduled

theorem not_idle_of_writes {next : State σ} (writes : Writes state next) : ¬ state.Idle := by
  intro idle
  cases writes with
  | taken _ _ queue =>
      rw [idle.queue] at queue
      cases queue
  | passed _ hand | closed _ hand | lost _ hand =>
      rw [idle.hand] at hand
      cases hand

theorem Stands.write
    (stands : Stands setup memory client course)
    (writes : Writes course.state state) :
    Stands setup memory client { course with state } := by
  have busy : ¬ course.state.Idle := not_idle_of_writes writes
  cases writes with
  | taken | passed =>
      refine stands.aside rfl rfl rfl id ?_
      exact fun idle => absurd idle busy
  | closed writing | lost writing =>
      refine stands.aside rfl rfl rfl (fun _ => writing) ?_
      exact fun idle => absurd idle busy

/-- Every move leaves the reader in one of its stages. -/
theorem Stands.move
    (stands : Stands setup memory client course)
    (moves : Moves setup course action after) :
    Stands setup memory client after := by
  cases moves with
  | receive reading next =>
      cases stands with
      | unopened unopened =>
          rw [unopened.phase] at reading
          cases reading
      | serving serving => exact serving.receive reading next
      | stopped stopped =>
          have phase := stopped.phase
          rw [reading] at phase
          cases phase
  | read reads =>
      cases stands with
      | unopened unopened => exact unopened.read reads
      | serving serving => exact serving.read reads
      | stopped stopped => exact stopped.read reads
  | wake beats | beat beats => exact stands.beats beats
  | write writes => exact stands.write writes
  | cut => exact stands.aside rfl rfl rfl id fun idle => { idle with }

theorem stands_of_run
    (run : (Course.start memory client).run? setup actions = some course) :
    Stands setup memory client course :=
  run_induction (Stands setup memory client) (.start setup memory client)
    (fun _ stands moves => stands.move moves) run

/-! ## The account of the reader -/

theorem Serving.front (serving : Serving setup memory client course delivered left due) :
    delivered <+: heard client := by
  rw [serving.hears, List.append_assoc]
  exact List.prefix_append _ _

/-- A reader none of whose frames has failed stops when the client does. -/
theorem Stopped.allHeard
    (stopped : Stopped setup memory client course delivered due) (alive : course.failed = []) :
    delivered = heard client ∧ stops client = true := by
  apply stopped.complete
  rw [alive]
  exact fun _ => List.not_mem_nil

/--
Some of the messages heard have been delivered; the calls and the frames up to
now are the first of those that these messages make.
-/
theorem Stands.transcript (stands : Stands setup memory client course) :
    ∃ delivered, delivered <+: heard client ∧
      course.state.callbacks <+: setup.called delivered ++ [.closed setup.sessionId] ∧
        course.queued ++ course.failed <+: setup.said memory delivered ++ farewell := by
  cases stands with
  | unopened unopened =>
      refine ⟨[], List.nil_prefix, ?_, ?_⟩
      · rw [unopened.silent]
        exact List.nil_prefix
      · rw [unopened.noneQueued, unopened.noneFailed]
        exact List.nil_prefix
  | @serving delivered _ _ serving =>
      refine ⟨delivered, serving.front, ?_, ?_⟩
      · rw [serving.called]
        exact List.prefix_append _ _
      · rw [serving.clean, List.append_nil, ← serving.account, List.append_assoc]
        exact List.prefix_append _ _
  | @stopped delivered _ stopped =>
      refine ⟨delivered, stopped.hears, ?_, ?_⟩
      · exact stopped.called ▸ List.prefix_rfl
      · rw [← stopped.account]
        exact List.prefix_append _ _

theorem Stands.clean
    (stands : Stands setup memory client course) (writing : course.state.isWriting = true) :
    course.failed = [] := by
  cases stands with
  | unopened unopened => exact unopened.noneFailed
  | serving serving => exact serving.clean
  | stopped stopped => exact stopped.clean writing

/-- Heartbeats are not the business of the reader. -/
theorem Stands.heartbeat_not_mem_puts
    (stands : Stands setup memory client course) : .heartbeat ∉ course.state.puts := by
  have other : course.state.phase.frame? ≠ some .heartbeat := by
    intro beating
    cases stands with
    | unopened unopened =>
        rw [unopened.phase] at beating
        cases beating
    | @serving delivered _ due serving =>
        rw [serving.phase.frame?_eq] at beating
        have member : .heartbeat ∈ setup.said memory delivered := by
          rw [← serving.account]
          exact List.mem_append_right _ (List.mem_of_head? beating)
        exact heartbeat_not_mem_said setup memory delivered member
    | stopped stopped =>
        rw [stopped.phase.frame?_eq] at beating
        have member : .heartbeat ∈ farewell := stopped.last.subset (List.mem_of_head? beating)
        simp [farewell] at member
  unfold State.puts
  split
  · simpa using other
  · exact List.not_mem_nil

end SessionGateway.Session
