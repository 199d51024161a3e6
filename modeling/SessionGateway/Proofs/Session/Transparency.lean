import SessionGateway.Proofs.ServerFrame
import SessionGateway.Proofs.Session.Protocol
import SessionGateway.Session.Raw

/-!
# Frames are transparent to an application

A session and a raw connection are served by loops of their own.  A session puts
any number of messages into one frame and its replies into another; a raw
connection has a message in every text and sends each reply by itself.

An application cannot tell the two apart: however a client groups its messages,
the calls are the same but for the name of the session, and so are the replies.
`framing_transparent` compares a whole raw connection with the courses of a
session in which the socket does not fail; both are compared with the transcript,
`Setup.answers` above all.
-/

namespace SessionGateway

open Session

/--
A client says some messages in some frames.  A frame that is not blank stands for
any number of them, for none as well.
-/
inductive Frame.Groups : List String → List String → Prop where
  | nil : Groups [] []
  | blank {frame : String} {frames messages : List String}
      (blank : Text.isBlank frame.toList = true)
      (groups : Groups frames messages) :
      Groups (frame :: frames) messages
  | denotes {frame : String} {frames front messages : List String}
      (denotes : Frame.Denotes frame front)
      (groups : Groups frames messages) :
      Groups (frame :: frames) (front ++ messages)

namespace Session

variable
    {σ : Type}
    {setup : Setup σ}
    {memory : σ}
    {client : List Inbound}
    {course : Course σ}
    {state : State σ}
    {frames messages : List String}
    {actions : List Action}

/-! ## What is heard of a client that groups its messages -/

/-- What a client does in all: it sends some frames, and is gone. -/
def visit (frames : List String) : List Inbound :=
  frames.map .text ++ [.gone]

theorem stops_visit (frames : List String) : stops (visit frames) = true := by
  simp [visit, stops, Inbound.isStop]

theorem heard_text {frame : String} (decoded : Frame.decode? frame = some messages)
    (rest : List Inbound) : heard (.text frame :: rest) = messages ++ heard rest := by
  rw [heard_cons]
  · rw [Inbound.messages, decoded, Option.getD_some]
  · rw [Inbound.isStop, decoded]
    rfl

theorem heard_visit (groups : Frame.Groups frames messages) :
    heard (visit frames) = messages := by
  induction groups with
  | nil => rfl
  | blank blank _ induction =>
      exact (heard_text (Frame.decode?_of_blank blank) _).trans induction
  | denotes denotes _ induction =>
      apply (heard_text (Frame.decode?_of_denotes denotes) _).trans
      exact congrArg _ induction

/-! ## A raw connection -/

/-- A call with the name of another session. -/
def Callback.withId (sessionId : String) : Callback → Callback
  | .opened _ => .opened sessionId
  | .message _ text => .message sessionId text
  | .closed _ => .closed sessionId

/--
An application does the same for a raw connection as for a session, although
their names differ: memories that are related once stay related, and the replies
are equal.
-/
structure Application.Alike
    (application : Application σ) (rawId sessionId : String) (related : σ → σ → Prop) :
    Prop where
  opens : ∀ {raw memory : σ}, related raw memory →
    related (application.onOpen rawId raw) (application.onOpen sessionId memory)
  remembers : ∀ (text : String) {raw memory : σ}, related raw memory →
    related (application.onMessage rawId text raw).1
      (application.onMessage sessionId text memory).1
  replies : ∀ (text : String) {raw memory : σ}, related raw memory →
    (application.onMessage rawId text raw).2 = (application.onMessage sessionId text memory).2

theorem Application.Alike.same (application : Application σ) (sessionId : String) :
    application.Alike sessionId sessionId (· = ·) where
  opens := by
    rintro memory _ rfl
    rfl
  remembers := by
    rintro text memory _ rfl
    rfl
  replies := by
    rintro text memory _ rfl
    rfl

namespace Raw

variable
    {application : Application σ}
    {rawId : String}
    {raw : Raw.State σ}

/-- A raw connection takes some texts, one after the other. -/
def hear (application : Application σ) (rawId : String) (texts : List String)
    (raw : Raw.State σ) : Raw.State σ :=
  texts.foldl (fun raw text => receiveText application rawId text raw) raw

/-- A raw connection from its start to its end. -/
def conversation (application : Application σ) (rawId : String) (memory : σ)
    (texts : List String) : Raw.State σ :=
  finish application rawId (hear application rawId texts (start application rawId memory))

/-- What one more text does to a connection that is open. -/
theorem receiveText_of_open
    (application : Application σ) (rawId text : String) (isOpen : raw.isOpen = true) :
    (receiveText application rawId text raw).isOpen = true ∧
      (receiveText application rawId text raw).memory =
        (application.onMessage rawId text raw.memory).1 ∧
      (receiveText application rawId text raw).written =
        raw.written ++ (application.onMessage rawId text raw.memory).2 ∧
      (receiveText application rawId text raw).callbacks =
        raw.callbacks ++ [.message rawId text] := by
  rw [receiveText, if_pos isOpen]
  exact ⟨isOpen, rfl, rfl, rfl⟩

theorem hear_callbacks
    (application : Application σ) (rawId : String) (texts : List String)
    (isOpen : raw.isOpen = true) :
    (hear application rawId texts raw).isOpen = true ∧
      (hear application rawId texts raw).callbacks =
        raw.callbacks ++ texts.map (Callback.message rawId) := by
  induction texts generalizing raw with
  | nil => exact ⟨isOpen, (List.append_nil _).symm⟩
  | cons text rest induction =>
      obtain ⟨stillOpen, -, -, called⟩ := receiveText_of_open application rawId text isOpen
      obtain ⟨openAfter, calledAfter⟩ := induction stillOpen
      refine ⟨openAfter, calledAfter.trans ?_⟩
      rw [called, List.append_assoc, List.map_cons]
      rfl

/-- A raw connection sends the replies that a session has for the same messages. -/
theorem hear_written {related : σ → σ → Prop}
    (alike : setup.application.Alike rawId setup.sessionId related)
    (isOpen : raw.isOpen = true) (remembered : related raw.memory memory)
    (texts : List String) :
    (hear setup.application rawId texts raw).written =
      raw.written ++ (setup.answers memory texts).flatten := by
  induction texts generalizing raw memory with
  | nil => exact (List.append_nil _).symm
  | cons text rest induction =>
      obtain ⟨stillOpen, memorized, written, -⟩ :=
        receiveText_of_open setup.application rawId text isOpen
      have rememberedNext := alike.remembers text remembered
      rw [← memorized] at rememberedNext
      apply (induction stillOpen rememberedNext).trans
      rw [written, alike.replies text remembered, List.append_assoc]
      rfl

theorem conversation_callbacks (application : Application σ) (rawId : String) (memory : σ)
    (texts : List String) :
    (conversation application rawId memory texts).callbacks =
      .opened rawId :: texts.map (Callback.message rawId) ++ [.closed rawId] := by
  have opened : (start application rawId memory).isOpen = true := rfl
  obtain ⟨isOpen, called⟩ := hear_callbacks application rawId texts opened
  rw [conversation, finish, if_pos isOpen]
  show (hear application rawId texts (start application rawId memory)).callbacks ++ _ = _
  rw [called]
  rfl

theorem conversation_written {related : σ → σ → Prop} {rawMemory : σ}
    (alike : setup.application.Alike rawId setup.sessionId related)
    (remembered : related rawMemory memory) (texts : List String) :
    (conversation setup.application rawId rawMemory texts).written =
      (setup.answers (setup.application.onOpen setup.sessionId memory) texts).flatten := by
  have opened : (start setup.application rawId rawMemory).isOpen = true := rfl
  obtain ⟨isOpen, -⟩ := hear_callbacks setup.application rawId texts opened
  rw [conversation, finish, if_pos isOpen]
  exact hear_written alike opened (alike.opens remembered) texts

end Raw

/-! ## The replies in frames -/

theorem replies_replyFrames (answers : List (List String)) :
    (replyFrames answers).flatMap Frame.replies = answers.flatten := by
  induction answers with
  | nil => rfl
  | cons replies rest induction =>
      rw [List.flatten_cons, ← induction]
      cases replies with
      | nil => rfl
      | cons first others => rfl

theorem replies_said (setup : Setup σ) (memory : σ) (messages : List String) :
    (setup.said memory messages ++ farewell).flatMap Frame.replies =
      (setup.answers (setup.application.onOpen setup.sessionId memory) messages).flatten := by
  rw [List.flatMap_append, Setup.said, List.flatMap_cons, replies_replyFrames]
  simp [farewell, Frame.replies]

theorem replies_essential (frames : List Frame) :
    (essential frames).flatMap Frame.replies = frames.flatMap Frame.replies := by
  induction frames with
  | nil => rfl
  | cons first rest induction =>
      rw [List.flatMap_cons, ← induction]
      cases first <;> rfl

/-! ## A session comes to its end -/

/-- The reader is done, and the writer after it. -/
def Course.Finished (course : Course σ) : Prop :=
  course.state.phase = .ended ∧ course.state.isWriting = false

theorem settle_of_ended (ended : state.phase = .ended) :
    (settle setup state).phase = .ended := by
  fun_induction settle setup state with
  | case1 state next reader ih =>
      rw [readerStep?, ended] at reader
      cases reader
  | case2 state reader next writer ih =>
      apply ih
      cases writes_of_writerStep? writer <;> exact ended
  | case3 state reader writer => exact ended

/-- A reader that has served a client up to its stop is done. -/
theorem Stands.ended
    (stands : Stands setup memory client course)
    (stopping : stops client = true) (served : course.Served) :
    course.state.phase = .ended := by
  rcases served with ended | ⟨reading, exhausted⟩
  · exact ended
  · cases stands with
    | unopened unopened =>
        rw [unopened.phase] at reading
        cases reading
    | serving serving =>
        have stopsLater : stops client = stops course.client := serving.stopsLater
        rw [stopping, exhausted] at stopsLater
        cases stopsLater
    | stopped stopped =>
        have phase := stopped.phase
        rw [reading] at phase
        cases phase

/-- A writer that rests when the reader is done has closed the socket. -/
theorem not_writing_of_rest
    {accepted : List Frame}
    (stands : Stands setup memory client course) (flows : Flows setup course accepted)
    (alive : course.failed = []) (stopping : stops client = true)
    (ended : course.state.phase = .ended) (rest : writerStep? course.state = none) :
    course.state.isWriting = false := by
  rw [← Bool.not_eq_true]
  intro writing
  have written : course.state.written = accepted := by
    have line : course.state.line = accepted := flows.line writing
    obtain ⟨hand, queue⟩ := empty_of_writerStep? rest writing
    rw [State.line, hand, queue] at line
    simpa using line
  have queued : .close ∈ course.queued := by
    rw [(stands.served alive (Or.inl ended)).2, stopping]
    simp [farewell]
  rw [← flows.account, ← written] at queued
  exact flows.unclosed writing (List.mem_of_mem_filter queued)

/-- However far a session is, it comes to its end if its client does and the socket holds. -/
theorem finishes
    (room : 0 < setup.capacity) (stopping : stops client = true)
    (uncut : .cut ∉ actions)
    (run : (Course.start memory client).run? setup actions = some course) :
    ∃ more later, .cut ∉ more ∧ course.run? setup more = some later ∧ later.Finished := by
  obtain ⟨serving, served, uncutServing, runServing, isServed⟩ := serves room course
  obtain ⟨settling, queued, failed, uncutSettling, runSettling⟩ :=
    settle_run setup served.state served.client served.queued served.failed
  have runServed := run?_trans run runServing
  have runMore := run?_trans runServing runSettling
  have runAll := run?_trans run runMore
  have uncutMore : .cut ∉ serving ++ settling := by
    simp [uncutServing, uncutSettling]
  have uncutAll : .cut ∉ actions ++ (serving ++ settling) := by
    simp [uncut, uncutServing, uncutSettling]
  have ended : (settle setup served.state).phase = .ended :=
    settle_of_ended ((stands_of_run runServed).ended stopping isServed)
  obtain ⟨accepted, flows⟩ := flows_of_run runAll
  refine ⟨serving ++ settling, _, uncutMore, runMore, ended, ?_⟩
  exact
    not_writing_of_rest (stands_of_run runAll) flows (failed_of_uncut uncutAll runAll) stopping
      ended (settle_rests setup served.state).2

/-! ## Session and raw connection -/

/--
Session framing is transparent to an application.

Let a client say some messages to a session, in frames of its own making, and
say the same messages to a raw connection, one in a text.  However the tasks of
the session take turns, as long as the socket does not fail the session comes to
its end, and then the application has been called as by the raw connection, but
for the name of the session.  If the application behaves alike under both names,
as every application does if the names are the same, the replies that the raw
connection has sent are those that the frames of the session carry.
-/
theorem framing_transparent
    (setup : Setup σ) (memory : σ) (frames messages : List String)
    (groups : Frame.Groups frames messages) (actions : List Action) (course : Course σ)
    (uncut : .cut ∉ actions)
    (run : (Course.start memory (visit frames)).run? setup actions = some course) :
    (0 < setup.capacity →
      ∃ more later, .cut ∉ more ∧ course.run? setup more = some later ∧ later.Finished) ∧
      (course.Finished →
        (∀ rawId rawMemory,
          course.state.callbacks =
            (Raw.conversation setup.application rawId rawMemory messages).callbacks.map
              (Callback.withId setup.sessionId)) ∧
        (∀ rawId rawMemory related,
          setup.application.Alike rawId setup.sessionId related → related rawMemory memory →
            (course.state.written.filterMap Frame.text?).flatMap Frame.carried =
              (Raw.conversation setup.application rawId rawMemory messages).written) ∧
        (course.state.written.filterMap Frame.text?).flatMap Frame.carried =
          (Raw.conversation setup.application setup.sessionId memory messages).written) := by
  have stands : Stands setup memory (visit frames) course := stands_of_run run
  obtain ⟨accepted, flows⟩ := flows_of_run run
  refine ⟨fun room => finishes room (stops_visit frames) uncut run, ?_⟩
  rintro ⟨ended, gone⟩
  have alive : course.failed = [] := failed_of_uncut uncut run
  have written :
      essential course.state.written = setup.said memory messages ++ farewell := by
    rw [← heard_visit groups]
    exact (closed_complete stands flows ((intact_of_run uncut run).closed gone)).2
  have carried :
      (course.state.written.filterMap Frame.text?).flatMap Frame.carried =
        (setup.answers (setup.application.onOpen setup.sessionId memory) messages).flatten := by
    rw [Frame.carried_texts, ← replies_essential, written, replies_said]
  refine ⟨?_, ?_, ?_⟩
  · intro rawId rawMemory
    rw [(stands.served alive (Or.inl ended)).1, heard_visit groups, stops_visit,
      Raw.conversation_callbacks]
    simp [Setup.called, Callback.withId, Function.comp_def]
  · intro rawId rawMemory related alike remembered
    rw [carried, Raw.conversation_written alike remembered]
  · rw [carried, Raw.conversation_written (Application.Alike.same _ _) rfl]

/-- A list of two, nothing at all, a single string, and a list of none. -/
def mixedFrames : List String :=
  ["[\"a\", \"b\"]", " \u3000", "\"c\"", "[]"]

theorem groups_mixedFrames : Frame.Groups mixedFrames ["a", "b", "c"] := by
  have two : Frame.Denotes "[\"a\", \"b\"]" ["a", "b"] :=
    Frame.denotes_of_decode? (by decide) (by decide +kernel)
  have one : Frame.Denotes "\"c\"" ["c"] :=
    Frame.denotes_of_decode? (by decide) (by decide +kernel)
  have none : Frame.Denotes "[]" [] :=
    Frame.denotes_of_decode? (by decide) (by decide +kernel)
  exact .denotes two (.blank (by decide) (.denotes one (.denotes none .nil)))

/-- The first and the third message are answered twice, by a session and by a raw connection. -/
theorem framing_transparent_mixed :
    ∃ actions course,
      (Course.start 0 (visit mixedFrames)).run? patient actions = some course ∧
        course.Finished ∧
        (course.state.written.filterMap Frame.text?).flatMap Frame.carried =
          ["a", "a", "c", "c"] ∧
        (Raw.conversation alternating "raw" 0 ["a", "b", "c"]).written =
          ["a", "a", "c", "c"] := by
  have alike : alternating.Alike "raw" "patient" (· = ·) := by
    constructor
    · rintro memory _ rfl
      rfl
    · rintro text memory _ rfl
      rfl
    · rintro text memory _ rfl
      rfl
  have raw :
      (Raw.conversation alternating "raw" 0 ["a", "b", "c"]).written = ["a", "a", "c", "c"] := by
    decide
  have start : (Course.start 0 (visit mixedFrames)).run? patient [] = some (.start 0 _) := rfl
  obtain ⟨actions, course, uncut, run, finished⟩ :=
    (framing_transparent patient 0 mixedFrames ["a", "b", "c"] groups_mixedFrames [] _
      List.not_mem_nil start).1 (by decide)
  obtain ⟨-, transparent⟩ :=
    framing_transparent patient 0 mixedFrames ["a", "b", "c"] groups_mixedFrames actions course
      uncut run
  obtain ⟨-, replies, -⟩ := transparent finished
  exact ⟨actions, course, run, finished, (replies "raw" 0 _ alike rfl).trans raw, raw⟩

end Session

end SessionGateway
