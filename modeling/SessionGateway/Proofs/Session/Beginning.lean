import SessionGateway.Proofs.Session.Reader
import SessionGateway.Proofs.Settings.Rules
import SessionGateway.Settings.Load

/-!
# The beginning of a session

Whether a session under valid settings gets as far as to be opened.

The queue of a session has at least room for the open frame, so nothing that the
tasks do can keep a session with a queue from being opened (`opens_of_run`).  But
a queue has to be made first, and validation knows no upper bound for its room.
-/

namespace SessionGateway.Session

variable
    {σ : Type}
    {setup : Setup σ}
    {memory : σ}
    {state next : State σ}

/-! ## Sessions with a queue -/

theorem settle_of_reader (stepped : readerStep? setup state = some next) :
    settle setup state = settle setup next := by
  rw [settle]
  split
  · next other same => rw [Option.some.inj (same.symm.trans stepped)]
  · next rests => cases rests.symm.trans stepped

theorem settle_of_writer
    (rests : readerStep? setup state = none) (stepped : writerStep? state = some next) :
    settle setup state = settle setup next := by
  rw [settle]
  split
  · next other moves => cases moves.symm.trans rests
  · split
    · next other same => rw [Option.some.inj (same.symm.trans stepped)]
    · next idle => cases idle.symm.trans stepped

theorem settle_of_rest
    (reader : readerStep? setup state = none) (writer : writerStep? state = none) :
    settle setup state = state := by
  rw [settle]
  split
  · next other moves => cases moves.symm.trans reader
  · split
    · next other moves => cases moves.symm.trans writer
    · rfl

/-- The open frame is written, the application has been told, and the client is waited for. -/
structure Opened (setup : Setup σ) (memory : σ) (state : State σ) : Prop where
  written : state.written = [.opened]
  callbacks : state.callbacks = [.opened setup.sessionId]
  memory : state.memory = setup.application.onOpen setup.sessionId memory
  phase : state.phase = .reading
  heart : state.heart = .waiting
  queue : state.queue = []
  hand : state.hand = none
  writing : state.isWriting = true
  connected : state.isConnected = true

/-- Nothing has happened and nothing will. -/
structure Stillborn (memory : σ) (state : State σ) : Prop where
  written : state.written = []
  callbacks : state.callbacks = []
  memory : state.memory = memory
  phase : state.phase = .ended
  queue : state.queue = []
  hand : state.hand = none
  gone : state.isWriting = false ∧ state.isConnected = false

theorem Stillborn.not_opened (stillborn : Stillborn memory state) :
    ¬Opened setup memory state := by
  intro opened
  cases stillborn.written.symm.trans opened.written

theorem opened_settle (room : 0 < setup.capacity) (memory : σ) :
    Opened setup memory (settle setup { memory }) := by
  have sent : State.send setup .opened ({ memory } : State σ) =
      .queued { memory, queue := [.opened] } := by
    simp [State.send, room]
  have reader : readerStep? setup ({ memory } : State σ) =
      some (begin setup { memory, queue := [.opened] }) := by
    simp only [readerStep?, sent]
  -- The writer takes the open frame out of the queue and passes it on; then all wait.
  rw [settle_of_reader reader, settle_of_writer rfl rfl, settle_of_writer rfl rfl,
    settle_of_rest rfl rfl]
  exact ⟨rfl, rfl, rfl, rfl, rfl, rfl, rfl, rfl, rfl⟩

theorem opened_start (possible : setup.isPossible = true) (memory : σ) :
    Opened setup memory (start setup memory) := by
  rw [start, if_pos possible]
  rw [Setup.isPossible, Bool.and_eq_true, decide_eq_true_eq] at possible
  exact opened_settle possible.1 memory

theorem stillborn_start (impossible : setup.isPossible = false) (memory : σ) :
    Stillborn memory (start setup memory) := by
  rw [start, if_neg (Bool.eq_false_iff.mp impossible)]
  exact ⟨rfl, rfl, rfl, rfl, rfl, rfl, rfl, rfl⟩

/-- As long as a session is not open, the reader can open it, whatever was done before. -/
theorem opens_of_run
    {client : List Inbound} {actions : List Action} {course : Course σ}
    (room : 0 < setup.capacity)
    (run : (Course.start memory client).run? setup actions = some course)
    (opening : course.state.phase = .opening) :
    ∃ next, course.step? setup .read = some next ∧
      next.state.callbacks = [.opened setup.sessionId] ∧ next.state.queue = [.opened] := by
  cases stands_of_run run with
  | unopened unopened =>
      obtain ⟨-, ⟨queue, -, -, writing⟩, -, silent, -⟩ := unopened
      have sent : course.state.send setup .opened =
          .queued { course.state with queue := [.opened] } := by
        simp [State.send, writing, queue, room]
      refine ⟨_, by rw [Course.step?, readerStep?, opening, sent, Option.map_some], ?_, rfl⟩
      exact congrArg (· ++ [Callback.opened setup.sessionId]) silent
  | serving serving =>
      have within := serving.phase
      rw [opening] at within
      cases within
  | stopped stopped =>
      have leaving := stopped.phase
      rw [opening] at leaving
      cases leaving

/-! ## Valid settings -/

variable {settings : GatewaySettings}

theorem queueCapacity_of_valid (valid : Settings.problems settings = []) :
    queueCapacity settings.service = settings.service.messageCacheSize.toNat := by
  have positive : settings.service.messageCacheSize ≠ 0 :=
    (Settings.problems_eq_nil_iff.mp valid).1 (.positive .messageCacheSize)
  have one : 1 ≤ settings.service.messageCacheSize.toNat := by
    rw [Nat.one_le_iff_ne_zero]
    intro zero
    exact positive (UInt64.toNat_inj.mp zero)
  exact Nat.max_eq_left one

/-- Validation asks for room for a frame, and sets no limit to it. -/
theorem problems_of_messageCacheSize
    (valid : Settings.problems settings = []) {size : UInt64} (positive : size ≠ 0) :
    Settings.problems
        { settings with service := { settings.service with messageCacheSize := size } } =
      [] := by
  refine Settings.problems_of_change valid (.positive .messageCacheSize) ?_ ?_ rfl
  · exact positive
  · intro other different
    cases other with
    | bindAddress | pathPrefix | clientLibraryUrl => exact rfl
    | positive field =>
        cases field with
        | messageCacheSize => exact absurd rfl different
        | maxBodySize | streamBytesLimit | heartbeatInterval | disconnectDelay => exact rfl

theorem isPossible_iff (valid : Settings.problems settings = [])
    (application : Application σ) (sessionId : String) :
    (Setup.ofSettings application sessionId settings.service).isPossible = true ↔
      settings.service.messageCacheSize.toNat ≤ maxCapacity := by
  have positive : 0 < queueCapacity settings.service :=
    Nat.lt_of_lt_of_le Nat.one_pos (Nat.le_max_right _ _)
  rw [Setup.isPossible, Setup.ofSettings, Bool.and_eq_true, decide_eq_true_eq,
    decide_eq_true_eq, queueCapacity_of_valid valid]
  rw [queueCapacity_of_valid valid] at positive
  exact and_iff_right positive

/--
Under valid settings a session is opened if and only if its queue can be made.

The queue has room for at least one frame, and for as many as the settings say.
If that is not more than a queue can have, a session that is started is opened:
the application is told and the open frame is written; and nothing that its
tasks do can keep it from being opened.  Otherwise nothing happens, neither to
the application nor to the client.  Validation does not tell the two apart:
settings that are valid stay so with any other room than none.
-/
theorem opens_iff
    (valid : Settings.problems settings = [])
    (application : Application σ) (sessionId : String) (memory : σ) :
    let setup := Setup.ofSettings application sessionId settings.service
    let size := settings.service.messageCacheSize
    (1 ≤ setup.capacity ∧ setup.capacity = size.toNat) ∧
      (Opened setup memory (start setup memory) ↔ size.toNat ≤ maxCapacity) ∧
        (maxCapacity < size.toNat → Stillborn memory (start setup memory)) ∧
          (∀ client actions course,
              (Course.start memory client).run? setup actions = some course →
                course.state.phase = .opening →
                  ∃ next, course.step? setup .read = some next ∧
                    next.state.callbacks = [.opened sessionId] ∧
                      next.state.queue = [.opened]) ∧
            ∀ other : UInt64, other ≠ 0 →
              Settings.problems
                  { settings with
                    service := { settings.service with messageCacheSize := other } } =
                [] := by
  intro setup size
  have one : 1 ≤ setup.capacity := Nat.le_max_right _ _
  have possible := isPossible_iff valid application sessionId
  have impossible (exceeds : maxCapacity < size.toNat) :
      Stillborn memory (start setup memory) := by
    apply stillborn_start
    rw [Bool.eq_false_iff, Ne, possible]
    exact Nat.not_le_of_lt exceeds
  refine ⟨⟨one, queueCapacity_of_valid valid⟩, ⟨fun opened => ?_, fun fits => ?_⟩, impossible,
    fun client actions course => opens_of_run one,
    fun other => problems_of_messageCacheSize valid⟩
  · by_contra exceeds
    exact (impossible (Nat.lt_of_not_le exceeds)).not_opened opened
  · exact opened_start (possible.mpr fits) memory

theorem opens_iff_default :
    let settings : GatewaySettings := { service := { name := "gateway" } }
    Settings.problems settings = [] ∧
      Opened (Setup.ofSettings Application.echo "s1" settings.service) ()
        (start (Setup.ofSettings Application.echo "s1" settings.service) ()) := by
  intro settings
  have valid : Settings.problems settings = [] := by decide
  exact ⟨valid, (opens_iff valid Application.echo "s1" ()).2.1.mpr (by decide)⟩

/-- A file that asks for one frame more than a queue can hold is accepted, and opens nothing. -/
theorem accepts_impossible_queue :
    ∃ settings,
      Settings.parse "gateway" "[sockjs]\nhttp_message_cache_size = 2305843009213693952\n" =
          .ok settings ∧
        Stillborn () (start (Setup.ofSettings Application.echo "s1" settings.service) ()) := by
  let settings : GatewaySettings :=
    { service := { name := "gateway", messageCacheSize := 2305843009213693952 } }
  have parsed :
      Settings.parse "gateway" "[sockjs]\nhttp_message_cache_size = 2305843009213693952\n" =
        .ok settings := by
    decide +kernel
  exact ⟨settings, parsed, stillborn_start (by decide +kernel) ()⟩

end SessionGateway.Session
