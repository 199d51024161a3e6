import SessionGateway.Proofs.Session.Outbound

/-!
# Behind the go-away frame

The reader stops the heartbeat before it queues its last two frames.  A run of
the heartbeat that is under way by then is not cut off, and it may well add its
frame after the reader has queued the go-away frame.

`State.Parting` says that this happens at most once, and only after such a run
was caught; every move keeps it (`State.Parting.move`), and therefore every run
does (`parting_of_run`).  `goAway_followed` reads off it what the socket can
take behind the go-away frame.
-/

namespace SessionGateway.Session

variable
    {σ : Type}
    {setup : Setup σ}
    {memory : σ}
    {client : List Inbound}
    {course after : Course σ}
    {state next : State σ}
    {action : Action}
    {actions : List Action}
    {frames more : List Frame}

/-! ## Late heartbeats -/

/-- How many heartbeats stand behind the first go-away frame. -/
def lateBeats : List Frame → Nat
  | [] => 0
  | .goAway :: rest => rest.count .heartbeat
  | _ :: rest => lateBeats rest

theorem lateBeats_append_of_mem (gone : .goAway ∈ frames) :
    lateBeats (frames ++ more) = lateBeats frames + more.count .heartbeat := by
  induction frames with
  | nil => cases gone
  | cons first rest induction =>
      cases first with
      | goAway => simp [lateBeats]
      | opened | heartbeat | messages | close =>
          simp only [List.mem_cons, reduceCtorEq, false_or] at gone
          exact induction gone

theorem lateBeats_append_of_not_mem (absent : .goAway ∉ frames) :
    lateBeats (frames ++ more) = lateBeats more := by
  induction frames with
  | nil => rfl
  | cons first rest induction =>
      cases first with
      | goAway => exact absurd List.mem_cons_self absent
      | opened | heartbeat | messages | close =>
          exact induction fun member => absent (List.mem_cons_of_mem _ member)

theorem lateBeats_of_not_mem (absent : .goAway ∉ frames) : lateBeats frames = 0 := by
  have same : lateBeats (frames ++ []) = lateBeats [] := lateBeats_append_of_not_mem absent
  rwa [List.append_nil] at same

theorem lateBeats_le_count (frames : List Frame) :
    lateBeats frames ≤ frames.count .heartbeat := by
  induction frames with
  | nil => exact Nat.le_refl 0
  | cons first rest induction =>
      cases first with
      | goAway => exact Nat.le_of_eq (by simp [lateBeats])
      | opened | heartbeat | messages | close =>
          exact Nat.le_trans induction List.count_le_count_cons

theorem lateBeats_append_of_beatless (beatless : .heartbeat ∉ more) :
    lateBeats (frames ++ more) = lateBeats frames := by
  have none : more.count .heartbeat = 0 := List.count_eq_zero.mpr beatless
  by_cases gone : .goAway ∈ frames
  · rw [lateBeats_append_of_mem gone, none, Nat.add_zero]
  · have few : lateBeats more ≤ 0 := none ▸ lateBeats_le_count more
    rw [lateBeats_append_of_not_mem gone, lateBeats_of_not_mem gone]
    exact Nat.le_zero.mp few

theorem lateBeats_mono (front : frames <+: more) : lateBeats frames ≤ lateBeats more := by
  obtain ⟨rest, rfl⟩ := front
  by_cases gone : .goAway ∈ frames
  · rw [lateBeats_append_of_mem gone]
    exact Nat.le_add_right _ _
  · rw [lateBeats_of_not_mem gone]
    exact Nat.zero_le _

/-! ## The end of the heartbeat -/

/-- The heartbeat has been told to stop; it never starts again. -/
inductive Heart.IsCancelled : Heart → Prop
  | stopping : IsCancelled .stopping
  | stopped : IsCancelled .stopped

theorem isCancelled_cancel (heart : Heart) : heart.cancel.IsCancelled := by
  cases heart with
  | beating | stopping => exact .stopping
  | unscheduled | waiting | stopped => exact .stopped

/-- A reader between open and stop has not stopped. -/
theorem Phase.Within.not_over
    {phase : Phase} {left : List String} {due others : List Frame}
    (within : phase.Within left due) : ¬phase.Over others := by
  intro leaving
  cases within <;> cases leaving

/--
Behind the go-away frame there is at most one heartbeat on the way out, and
only if a run was caught: the reader stopped the heartbeat while it was under
way.
-/
structure State.Parting (caught : Prop) (state : State σ) : Prop where
  cancelled : .goAway ∈ state.line → state.heart.IsCancelled
  silenced : ∀ due, state.phase.Over due → state.heart.IsCancelled
  fresh : state.heart = .stopping → lateBeats state.line = 0
  running : state.heart = .stopping → caught
  late : 0 < lateBeats state.line → caught
  single : lateBeats state.line ≤ 1

namespace State.Parting

variable {caught later : Prop}

theorem mono (parting : state.Parting caught) (grows : caught → later) :
    state.Parting later :=
  { parting with
    running := fun stopping => grows (parting.running stopping)
    late := fun some => grows (parting.late some) }

/-- Before the heartbeat is told to stop, the go-away frame is not under way. -/
theorem absent (parting : state.Parting caught) (going : ¬state.heart.IsCancelled) :
    .goAway ∉ state.line :=
  fun member => going (parting.cancelled member)

/-- A task that leaves the heartbeat alone and queues none of its frames. -/
theorem transfer
    (parting : state.Parting caught)
    (line : next.line <+: state.line ++ frames)
    (heart : next.heart = state.heart)
    (beatless : .heartbeat ∉ frames)
    (goes : .goAway ∈ frames → state.heart.IsCancelled)
    (silenced : ∀ due, next.phase.Over due → state.heart.IsCancelled) :
    next.Parting caught := by
  have few : lateBeats next.line ≤ lateBeats state.line :=
    Nat.le_trans (lateBeats_mono line) (Nat.le_of_eq (lateBeats_append_of_beatless beatless))
  refine ⟨?_, ?_, ?_, ?_, ?_, Nat.le_trans few parting.single⟩
  · intro member
    rw [heart]
    rcases List.mem_append.mp (line.subset member) with before | queued
    · exact parting.cancelled before
    · exact goes queued
  · rw [heart]
    exact silenced
  · rw [heart]
    intro stopping
    exact Nat.le_zero.mp (parting.fresh stopping ▸ few)
  · rw [heart]
    exact parting.running
  · exact fun some => parting.late (Nat.lt_of_lt_of_le some few)

/-- A task that leaves the heartbeat alone and queues nothing. -/
theorem keep
    (parting : state.Parting caught)
    (line : next.line <+: state.line)
    (heart : next.heart = state.heart)
    (silenced : ∀ due, next.phase.Over due → state.heart.IsCancelled) :
    next.Parting caught := by
  rw [← List.append_nil state.line] at line
  refine parting.transfer line heart List.not_mem_nil ?_ silenced
  intro member
  cases member

/-- The reader stops the heartbeat, perhaps while it is under way. -/
theorem stop
    (parting : state.Parting caught)
    (line : next.line = state.line)
    (heart : next.heart = state.heart.cancel) :
    next.Parting (caught ∨ next.heart = .stopping) where
  cancelled := fun _ => heart ▸ isCancelled_cancel state.heart
  silenced := fun _ _ => heart ▸ isCancelled_cancel state.heart
  fresh := by
    rw [heart, line]
    intro stopping
    cases former : state.heart with
    | beating =>
        apply lateBeats_of_not_mem
        apply parting.absent
        rw [former]
        exact nofun
    | stopping => exact parting.fresh former
    | unscheduled | waiting | stopped =>
        rw [former] at stopping
        cases stopping
  running := Or.inr
  late := by
    rw [line]
    exact fun some => Or.inl (parting.late some)
  single := line ▸ parting.single

/-! ### The reader -/

theorem receive
    (parting : state.Parting caught) (reading : state.phase = .reading) (inbound : Inbound) :
    (Session.receive setup inbound state).Parting
      (caught ∨ (Session.receive setup inbound state).heart = .stopping) := by
  cases inbound with
  | other =>
      simp only [Session.receive, reading]
      exact parting.mono Or.inl
  | gone =>
      simp only [Session.receive, reading]
      exact parting.stop rfl rfl
  | text content =>
      cases decoded : Frame.decode? content with
      | none =>
          simp only [Session.receive, reading, decoded]
          exact parting.stop rfl rfl
      | some messages =>
          simp only [Session.receive, reading, decoded]
          apply mono _ Or.inl
          refine parting.keep List.prefix_rfl rfl ?_
          exact fun _ leaving => absurd leaving (Phase.Within.delivering messages).not_over

/-- Only a reader that has stopped puts the go-away frame into the queue. -/
theorem isCancelled_of_puts
    (parting : course.state.Parting caught) (stands : Stands setup memory client course)
    (member : .goAway ∈ course.state.puts) : course.state.heart.IsCancelled := by
  have puts : course.state.phase.frame? = some .goAway := by
    rw [State.puts] at member
    split at member
    · simpa using member
    · cases member
  cases stands with
  | unopened unopened =>
      rw [unopened.phase] at puts
      cases puts
  | serving serving =>
      have within := serving.phase
      generalize course.state.phase = phase at puts within
      cases within <;> cases puts
  | stopped stopped => exact parting.silenced _ stopped.phase

theorem line_of_reads (reads : Reads setup state next) : next.line = state.line ++ state.puts := by
  have way := sameWay_of_reads reads
  rw [State.line, State.line, way.written, way.hand, way.queue, List.append_assoc _ state.queue]

theorem read
    (parting : course.state.Parting caught) (stands : Stands setup memory client course)
    (reads : Reads setup course.state state) :
    state.Parting (caught ∨ state.heart = .stopping) := by
  have line : state.line <+: course.state.line ++ course.state.puts :=
    line_of_reads reads ▸ List.prefix_refl _
  have beatless := stands.heartbeat_not_mem_puts
  have goes := parting.isCancelled_of_puts stands
  cases reads with
  | opened opening =>
      have idle : course.state.heart = .unscheduled := by
        cases stands with
        | unopened unopened => exact unopened.idle.heart
        | serving serving =>
            have within := serving.phase
            rw [opening] at within
            cases within
        | stopped stopped =>
            have leaving := stopped.phase
            rw [opening] at leaving
            cases leaving
      have going : ¬course.state.heart.IsCancelled := by
        rw [idle]
        exact nofun
      have absent : .goAway ∉ course.state.line ++ course.state.puts := by
        rw [List.mem_append]
        rintro (before | queued)
        · exact parting.absent going before
        · exact going (goes queued)
      have none : lateBeats (begin setup (course.state.offer .opened)).line = 0 :=
        lateBeats_of_not_mem fun member => absent (line.subset member)
      refine ⟨?_, ?_, ?_, ?_, ?_, none ▸ Nat.zero_le 1⟩
      · exact fun member => absurd (line.subset member) absent
      · exact fun _ leaving => absurd leaving Phase.Within.reading.not_over
      · intro stopping
        cases stopping
      · intro stopping
        cases stopping
      · rw [none]
        exact fun late => absurd late (Nat.lt_irrefl 0)
  | exhausted phase =>
      refine (parting.transfer line rfl beatless goes ?_).mono Or.inl
      exact fun _ leaving => absurd leaving Phase.Within.reading.not_over
  | @delivered message rest phase =>
      refine (parting.transfer line rfl beatless goes ?_).mono Or.inl
      simp only [deliver, State.note]
      split
      · exact fun _ leaving => absurd leaving (Phase.Within.delivering rest).not_over
      · exact fun _ leaving => absurd leaving (Phase.Within.sending _ rest).not_over
  | @replied frame rest phase =>
      refine (parting.transfer line rfl beatless goes ?_).mono Or.inl
      exact fun _ leaving => absurd leaving (Phase.Within.delivering rest).not_over
  | abandoned phase gone => exact parting.stop rfl rfl
  | closed phase =>
      refine (parting.transfer line rfl beatless goes ?_).mono Or.inl
      exact fun _ _ => parting.silenced _ (phase ▸ Phase.Over.closing _)
  | ended phase =>
      refine (parting.transfer line rfl beatless goes ?_).mono Or.inl
      exact fun _ _ => parting.silenced _ (phase ▸ Phase.Over.closing _)

/-! ### The other tasks -/

theorem wake (parting : state.Parting caught) : (Session.wake state).Parting caught := by
  rw [Session.wake]
  split
  · next waiting =>
      have going : ¬state.heart.IsCancelled := by
        rw [waiting]
        exact nofun
      refine ⟨?_, ?_, nofun, nofun, parting.late, parting.single⟩
      · exact fun member => absurd (parting.cancelled member) going
      · exact fun due leaving => absurd (parting.silenced due leaving) going
  · exact parting

/-- A run of the heartbeat adds one frame, or none. -/
theorem line_trySend (setup : Setup σ) (state : State σ) :
    (state.trySend setup .heartbeat).phase = state.phase ∧
      ((state.trySend setup .heartbeat).line = state.line ∨
        (state.trySend setup .heartbeat).line = state.line ++ [.heartbeat]) := by
  rcases send_cases setup .heartbeat state with
    ⟨writing, -, sent⟩ | ⟨-, sent⟩ | ⟨-, -, sent⟩
  · rw [State.trySend, sent]
    refine ⟨rfl, Or.inr ?_⟩
    simp only [State.line, State.offer, if_pos writing, List.append_assoc]
  · rw [State.trySend, sent]
    exact ⟨rfl, Or.inl rfl⟩
  · rw [State.trySend, sent]
    exact ⟨rfl, Or.inl rfl⟩

theorem beat (parting : state.Parting caught) : (Session.beat setup state).Parting caught := by
  obtain ⟨phase, line⟩ := line_trySend setup state
  rw [Session.beat]
  split
  · next beating =>
      -- The go-away frame is not under way, so the heartbeat is not behind it.
      have going : ¬state.heart.IsCancelled := by
        rw [beating]
        exact nofun
      have absent : .goAway ∉ (state.trySend setup .heartbeat).line := by
        rcases line with same | added
        · rw [same]
          exact parting.absent going
        · rw [added]
          simpa using parting.absent going
      have none : lateBeats (state.trySend setup .heartbeat).line = 0 :=
        lateBeats_of_not_mem absent
      refine ⟨fun member => absurd member absent, ?_, nofun, nofun, ?_, ?_⟩
      · rw [phase]
        exact fun due leaving => absurd (parting.silenced due leaving) going
      · exact fun some => absurd none (Nat.ne_of_gt some)
      · exact none ▸ Nat.zero_le 1
  · next stopping =>
      have few : lateBeats (state.trySend setup .heartbeat).line ≤ 1 := by
        rcases line with same | added
        · rw [same]
          exact parting.single
        · rw [added]
          by_cases gone : .goAway ∈ state.line
          · rw [lateBeats_append_of_mem gone, parting.fresh stopping]
            exact Nat.le_refl 1
          · rw [lateBeats_append_of_not_mem gone]
            exact Nat.zero_le 1
      exact
        ⟨fun _ => .stopped, fun _ _ => .stopped, nofun, nofun,
          fun _ => parting.running stopping, few⟩
  · exact parting

theorem write (parting : state.Parting caught) (writes : Writes state next) :
    next.Parting caught := by
  have line : next.line <+: state.line := by
    cases writes with
    | taken writing hand queue => simp [State.line, hand, queue]
    | passed writing hand => simp [State.line, hand]
    | closed writing hand => simp [State.line, hand]
    | lost => simp [State.line]
  cases writes with
  | taken | passed | closed | lost => exact parting.keep line rfl parting.silenced

/-- Every move keeps it, and may catch a run of the heartbeat. -/
theorem move
    (parting : course.state.Parting caught) (stands : Stands setup memory client course)
    (stepped : course.step? setup action = some after) :
    after.state.Parting (caught ∨ after.state.heart = .stopping) := by
  have moves := moves_of_step? stepped
  cases action with
  | receive =>
      cases moves with
      | receive reading => exact parting.receive reading _
  | read =>
      cases moves with
      | read reads => exact parting.read stands reads
  | wake =>
      cases stepped
      exact parting.wake.mono Or.inl
  | beat =>
      cases stepped
      exact parting.beat.mono Or.inl
  | write =>
      cases moves with
      | write writes => exact (parting.write writes).mono Or.inl
  | cut =>
      cases stepped
      have same : State.Parting caught { course.state with isConnected := false } :=
        { parting with }
      exact same.mono Or.inl

end State.Parting

/-! ## Runs -/

/-- At some point of a run, the heartbeat was stopped while it was under way. -/
def Catches (setup : Setup σ) (start : Course σ) (actions : List Action) : Prop :=
  ∃ earlier later course,
    actions = earlier ++ later ∧ start.run? setup earlier = some course ∧
      course.state.heart = .stopping

theorem Catches.concat
    {start : Course σ} (catches : Catches setup start actions) (action : Action) :
    Catches setup start (actions ++ [action]) := by
  obtain ⟨earlier, later, course, rfl, run, stopping⟩ := catches
  exact ⟨earlier, later ++ [action], course, List.append_assoc .., run, stopping⟩

theorem parting_of_run
    (run : (Course.start memory client).run? setup actions = some course) :
    course.state.Parting (Catches setup (.start memory client) actions) := by
  induction actions using List.reverseRecOn generalizing course with
  | nil =>
      cases run
      exact ⟨nofun, nofun, nofun, nofun, nofun, Nat.zero_le 1⟩
  | append_singleton actions action induction =>
      obtain ⟨former, formerRun, stepped⟩ := run?_concat_iff.mp run
      apply ((induction formerRun).move (stands_of_run formerRun) stepped).mono
      rintro (before | stopping)
      · exact before.concat action
      · exact ⟨actions ++ [action], [], course, (List.append_nil _).symm, run, stopping⟩

/-! ## What is written -/

theorem eq_replicate_of_essential (trivial : essential frames = []) :
    frames = List.replicate (frames.count .heartbeat) .heartbeat := by
  have beats : ∀ frame ∈ frames, frame = .heartbeat := by
    intro frame member
    by_contra other
    have kept : frame ∈ essential frames := List.mem_filter.mpr ⟨member, by simpa using other⟩
    rw [trivial] at kept
    cases kept
  rw [← List.eq_replicate_length] at beats
  rw [beats, List.count_replicate_self]

/-- The go-away frame is written once, and all behind it but heartbeats is the close frame. -/
theorem essential_behind
    {delivered : List String} {before behind : List Frame}
    (front : essential (before ++ .goAway :: behind) <+: setup.said memory delivered ++ farewell) :
    .goAway ∉ before ∧ essential behind <+: [.close] := by
  obtain ⟨rest, whole⟩ := front
  have absent : .goAway ∉ setup.said memory delivered := by
    simp [Setup.said, replyFrames]
  have split :
      setup.said memory delivered ++ .goAway :: [.close] =
        essential before ++ .goAway :: (essential behind ++ rest) := by
    rw [essential_append] at whole
    rw [List.append_assoc] at whole
    exact whole.symm
  obtain ⟨same, -, back⟩ :=
    (List.append_cons_inj_of_notMem absent (by simp : Frame.goAway ∉ [Frame.close])).mp split
  refine ⟨?_, ⟨rest, back.symm⟩⟩
  intro member
  rw [same] at absent
  exact absent (List.mem_filter.mpr ⟨member, by simp⟩)

/--
At most one heartbeat follows the go-away frame.

In every session, however its tasks take turns, the socket takes the go-away
frame at most once, and behind it nothing but a heartbeat, if at all, and the
close frame.  The heartbeat comes from a run that was under way when the reader
stopped it; where no run was, the close frame alone can follow.
-/
theorem goAway_followed
    (setup : Setup σ) (memory : σ) (client : List Inbound) (actions : List Action)
    (course : Course σ)
    (run : (Course.start memory client).run? setup actions = some course)
    (before behind : List Frame)
    (written : course.state.written = before ++ .goAway :: behind) :
    .goAway ∉ before ∧
      (∃ beats ≤ 1,
        behind = List.replicate beats .heartbeat ∨
          behind = List.replicate beats .heartbeat ++ [.close]) ∧
      (.heartbeat ∈ behind → Catches setup (.start memory client) actions) := by
  have parting := parting_of_run run
  obtain ⟨accepted, flows⟩ := flows_of_run run
  obtain ⟨delivered, -, -, account⟩ := (stands_of_run run).transcript
  have inOrder : essential course.state.written <+: setup.said memory delivered ++ farewell :=
    flows.inOrder.trans ((List.prefix_append _ _).trans account)
  rw [written] at inOrder
  obtain ⟨once, closing⟩ := essential_behind inOrder
  -- The heartbeats counted on the way out are those that are written.
  have front : course.state.written <+: course.state.line := by
    rw [State.line, List.append_assoc]
    exact List.prefix_append _ _
  have counted : behind.count .heartbeat ≤ lateBeats course.state.line := by
    rw [written] at front
    have few := lateBeats_mono front
    rwa [lateBeats_append_of_not_mem once] at few
  refine ⟨once, ⟨behind.count .heartbeat, Nat.le_trans counted parting.single, ?_⟩, ?_⟩
  · rcases List.prefix_cons_iff.mp closing with nothing | ⟨rest, some, short⟩
    · exact Or.inl (eq_replicate_of_essential nothing)
    · right
      have member : .close ∈ behind := by
        have kept : .close ∈ essential behind := some ▸ List.mem_cons_self
        exact (List.mem_filter.mp kept).1
      obtain ⟨inner, outer, rfl⟩ := List.append_of_mem member
      have last : outer = [] := by
        have closed :
            course.state.written = (before ++ .goAway :: inner) ++ .close :: outer := by
          rw [written, List.append_assoc, List.cons_append]
        exact flows.nothingAfterClose closed
      subst last
      have others : essential inner = [] := by
        rw [essential_append, List.prefix_nil.mp short] at some
        exact List.append_left_eq_self.mp some
      rw [List.count_append, eq_replicate_of_essential others]
      simp
  · intro member
    exact parting.late (Nat.lt_of_lt_of_le (List.count_pos_iff.mpr member) counted)

/-- A session with the room that settings give by default. -/
def roomy : Setup Unit :=
  { application := .echo, sessionId := "roomy", capacity := 100, interval := 25000 }

/-- A run of the heartbeat starts before the reader gives up, and is completed behind that. -/
def overlapping : List Action :=
  [.read, .wake, .receive, .read, .beat, .read, .read, .write, .write, .write, .write, .write,
    .write, .write, .write]

theorem overlapping_written :
    ∃ course,
      (Course.start () [.text "["]).run? roomy overlapping = some course ∧
        course.state.written = [.opened] ++ .goAway :: [.heartbeat, .close] := by
  have finished :
      ((Course.start () [.text "["]).run? roomy overlapping).map
          (fun course => course.state.written) =
        some [.opened, .goAway, .heartbeat, .close] := by
    decide +kernel
  exact Option.map_eq_some_iff.mp finished

/-- With a run under way, more than the close frame follows the go-away frame. -/
theorem heartbeat_behind_goAway :
    ¬∀ course before behind,
      (Course.start () [.text "["]).run? roomy overlapping = some course →
        course.state.written = before ++ .goAway :: behind →
          ∀ frame ∈ behind, frame = .close := by
  intro alone
  obtain ⟨course, run, written⟩ := overlapping_written
  have beat : Frame.heartbeat = .close :=
    alone course [.opened] [.heartbeat, .close] run written .heartbeat List.mem_cons_self
  cases beat

theorem goAway_followed_overlapping :
    ∃ course,
      (Course.start () [.text "["]).run? roomy overlapping = some course ∧
        course.state.written = [.opened] ++ .goAway :: [.heartbeat, .close] ∧
          .goAway ∉ [Frame.opened] ∧
            Catches roomy (.start () [.text "["]) overlapping := by
  obtain ⟨course, run, written⟩ := overlapping_written
  obtain ⟨once, -, caught⟩ :=
    goAway_followed roomy () [.text "["] overlapping course run [.opened] [.heartbeat, .close]
      written
  exact ⟨course, run, written, once, caught List.mem_cons_self⟩

end SessionGateway.Session
