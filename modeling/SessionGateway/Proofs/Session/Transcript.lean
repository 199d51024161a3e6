import Mathlib.Data.List.Basic
import SessionGateway.Session.Course

/-!
# Transcripts

What a session ought to say and to whom, without its tasks and its queue: the
messages that a client gets through to the application, the replies to them,
and the frames these make.
-/

namespace SessionGateway.Session

/-! ## What is heard of a client -/

/-- Whether the client is to be heard no more: it is gone, or cannot be understood. -/
def Inbound.isStop : Inbound → Bool
  | .text content => (Frame.decode? content).isNone
  | .other => false
  | .gone => true

def Inbound.messages : Inbound → List String
  | .text content => (Frame.decode? content).getD []
  | .other | .gone => []

/-- The messages in front of the first stop. -/
def heard (client : List Inbound) : List String :=
  (client.takeWhile fun inbound => !inbound.isStop).flatMap Inbound.messages

def stops (client : List Inbound) : Bool :=
  client.any Inbound.isStop

theorem heard_cons_of_stop
    {inbound : Inbound} (stop : inbound.isStop = true) (rest : List Inbound) :
    heard (inbound :: rest) = [] := by
  simp [heard, stop]

theorem heard_cons
    {inbound : Inbound} (going : inbound.isStop = false) (rest : List Inbound) :
    heard (inbound :: rest) = inbound.messages ++ heard rest := by
  simp [heard, going]

theorem stops_cons_of_stop
    {inbound : Inbound} (stop : inbound.isStop = true) (rest : List Inbound) :
    stops (inbound :: rest) = true := by
  simp [stops, stop]

theorem stops_cons
    {inbound : Inbound} (going : inbound.isStop = false) (rest : List Inbound) :
    stops (inbound :: rest) = stops rest := by
  simp [stops, going]

/-! ## What is said to it -/

variable {σ : Type}

/-- The replies to one message after the other. -/
def Setup.answers (setup : Setup σ) : σ → List String → List (List String)
  | _, [] => []
  | memory, message :: rest =>
      let (memory, replies) := setup.application.onMessage setup.sessionId message memory
      replies :: setup.answers memory rest

/-- What the application remembers of one message after the other. -/
def Setup.memoryAfter (setup : Setup σ) (memory : σ) (messages : List String) : σ :=
  messages.foldl
    (fun memory message =>
      (setup.application.onMessage setup.sessionId message memory).1) memory

/-- A frame for every message that is replied to. -/
def replyFrames (answers : List (List String)) : List Frame :=
  (answers.filter fun replies => !replies.isEmpty).map Frame.messages

/-- The frames of a session that has handed on some messages, up to the last replies. -/
def Setup.said (setup : Setup σ) (memory : σ) (messages : List String) : List Frame :=
  .opened ::
    replyFrames
      (setup.answers (setup.application.onOpen setup.sessionId memory) messages)

def farewell : List Frame := [.goAway, .close]

/-- The calls of an application that has been handed some messages. -/
def Setup.called (setup : Setup σ) (messages : List String) : List Callback :=
  .opened setup.sessionId :: messages.map (Callback.message setup.sessionId)

theorem answers_append
    (setup : Setup σ) (memory : σ) (messages more : List String) :
    setup.answers memory (messages ++ more) =
      setup.answers memory messages ++
        setup.answers (setup.memoryAfter memory messages) more := by
  induction messages generalizing memory with
  | nil => rfl
  | cons first rest induction =>
      simp only [List.cons_append, Setup.answers, induction, Setup.memoryAfter,
        List.foldl_cons]

theorem memoryAfter_concat
    (setup : Setup σ) (memory : σ) (messages : List String) (message : String) :
    setup.memoryAfter memory (messages ++ [message]) =
      (setup.application.onMessage setup.sessionId message
        (setup.memoryAfter memory messages)).1 := by
  simp [Setup.memoryAfter]

theorem called_concat (setup : Setup σ) (messages : List String) (message : String) :
    setup.called (messages ++ [message]) =
      setup.called messages ++ [.message setup.sessionId message] := by
  simp [Setup.called]

/-- One more message adds the frame of its replies, or nothing if there are none. -/
theorem said_concat
    (setup : Setup σ) (memory : σ) (messages : List String) (message : String) :
    setup.said memory (messages ++ [message]) =
      setup.said memory messages ++
        replyFrames
          [(setup.application.onMessage setup.sessionId message
            (setup.memoryAfter (setup.application.onOpen setup.sessionId memory)
              messages)).2] := by
  simp [Setup.said, answers_append, Setup.answers, replyFrames]

theorem called_mono (setup : Setup σ) {messages more : List String}
    (front : messages <+: more) : setup.called messages <+: setup.called more := by
  obtain ⟨rest, rfl⟩ := front
  simp [Setup.called]

theorem said_mono (setup : Setup σ) (memory : σ) {messages more : List String}
    (front : messages <+: more) :
    setup.said memory messages <+: setup.said memory more := by
  obtain ⟨rest, rfl⟩ := front
  simp [Setup.said, answers_append, replyFrames]

/-! ## The texts of the frames -/

/-- A frame of replies is the letter `a` and a list of them. -/
theorem text?_said (setup : Setup σ) (memory : σ) (messages : List String) :
    (setup.said memory messages).map Frame.text? =
      some "o" ::
        ((setup.answers (setup.application.onOpen setup.sessionId memory) messages).filter
            fun replies => !replies.isEmpty).map
          fun replies =>
            some (String.ofList ('a' :: Json.writeTextList (replies.map String.toList))) := by
  rw [Setup.said, replyFrames, List.map_cons, List.map_map]
  congr 1
  apply List.map_congr_left
  intro replies member
  have some : replies.isEmpty = false := by
    simpa using (List.mem_filter.mp member).2
  simp [Frame.text?, Frame.encode?, some]

/-! ## Frames of other kinds -/

theorem heartbeat_not_mem_said (setup : Setup σ) (memory : σ) (messages : List String) :
    .heartbeat ∉ setup.said memory messages := by
  simp [Setup.said, replyFrames]

theorem close_not_mem_said (setup : Setup σ) (memory : σ) (messages : List String) :
    .close ∉ setup.said memory messages := by
  simp [Setup.said, replyFrames]

/-- Frames that reach the close frame are all there are. -/
theorem eq_of_close_mem
    {frames : List Frame} {messages : List String} {setup : Setup σ} {memory : σ}
    (front : frames <+: setup.said memory messages ++ farewell)
    (member : .close ∈ frames) :
    frames = setup.said memory messages ++ farewell := by
  have split :
      setup.said memory messages ++ farewell =
        (setup.said memory messages ++ [.goAway]) ++ [.close] := by
    simp [farewell]
  have absent : .close ∉ setup.said memory messages ++ [.goAway] := by
    simp [close_not_mem_said]
  rw [split] at front ⊢
  rcases List.prefix_concat_iff.mp front with whole | short
  · exact whole
  · exact absurd (short.subset member) absent

end SessionGateway.Session
