import SessionGateway.Proofs.Http.PlainValue
import SessionGateway.Proofs.PathGrammar
import SessionGateway.Service

/-!
# Delegation to collaborators

When the service hands a request on, and what becomes of it.

`Service.Delegates` says which call a path leads to under given settings.
`dispatch_follows` shows that dispatching a request follows it, and
`handle_cases` carries this over to a served request: either no collaborator
is asked and serving the request does not fail, or exactly one call is made
and its reply decides the outcome.  Both halves of `handle_delegates` are read
off these cases.

Nothing is said here about what a collaborator does with a request.
-/

namespace SessionGateway.Service

open Http

/-! ## The call that a path leads to -/

/-- The call that a path leads to, given the check of session segments. -/
inductive Delegates
    (validate : String → String → String → Log.Logged Bool)
    (settings : ServiceSettings) (path : String) (request : Request) :
    Call → Prop where
  | raw
      (classified : Path.classify path = .rawWebSocket)
      (enabled : settings.websocketEnabled = true) :
      Delegates validate settings path request (.raw request)
  | session {serverId sessionId transport : String}
      (classified : Path.classify path = .session serverId sessionId transport)
      (served : settings.websocketEnabled = true ∨ transport ≠ "websocket")
      (valid : (validate serverId sessionId transport).value = true) :
      Delegates validate settings path request
        (.session { serverId, sessionId, transport, settings })

variable
    {validate : String → String → String → Log.Logged Bool}
    {surroundings : Info.Surroundings}
    {threshold : Log.Level}
    {settings : ServiceSettings}
    {description : Option String}
    {path : String}
    {request : Request}
    {response : Response}

theorem Delegates.unique
    {left right : Call}
    (delegatesLeft : Delegates validate settings path request left)
    (delegatesRight : Delegates validate settings path request right) :
    left = right := by
  cases delegatesLeft with
  | raw classified enabled =>
      cases delegatesRight with
      | raw => rfl
      | session classifiedRight =>
          rw [classified] at classifiedRight
          cases classifiedRight
  | session classified served valid =>
      cases delegatesRight with
      | raw classifiedRight =>
          rw [classified] at classifiedRight
          cases classifiedRight
      | session classifiedRight =>
          rw [classified] at classifiedRight
          cases classifiedRight
          rfl

theorem Delegates.enabled_of_raw
    {call : Call}
    (delegates : Delegates validate settings path request call)
    (classified : Path.classify path = .rawWebSocket) :
    settings.websocketEnabled = true := by
  cases delegates with
  | raw _ enabled => exact enabled
  | session classifiedSession =>
      rw [classified] at classifiedSession
      cases classifiedSession

theorem Delegates.admitted_of_session
    {call : Call} {serverId sessionId transport : String}
    (delegates : Delegates validate settings path request call)
    (classified : Path.classify path = .session serverId sessionId transport) :
    (settings.websocketEnabled = true ∨ transport ≠ "websocket") ∧
      (validate serverId sessionId transport).value = true := by
  cases delegates with
  | raw classifiedRaw =>
      rw [classified] at classifiedRaw
      cases classifiedRaw
  | session classifiedSession served valid =>
      rw [classified] at classifiedSession
      cases classifiedSession
      exact ⟨served, valid⟩

theorem delegates_raw_iff {asked : Request} :
    Delegates validate settings path request (.raw asked) ↔
      asked = request ∧
        Path.classify path = .rawWebSocket ∧ settings.websocketEnabled = true := by
  constructor
  · intro delegates
    cases delegates with
    | raw classified enabled => exact ⟨rfl, classified, enabled⟩
  · rintro ⟨rfl, classified, enabled⟩
    exact .raw classified enabled

theorem delegates_session_iff {context : SessionContext} :
    Delegates validate settings path request (.session context) ↔
      Path.classify path =
          .session context.serverId context.sessionId context.transport ∧
        (settings.websocketEnabled = true ∨ context.transport ≠ "websocket") ∧
          (validate context.serverId context.sessionId context.transport).value = true ∧
            context.settings = settings := by
  constructor
  · intro delegates
    cases delegates with
    | session classified served valid => exact ⟨classified, served, valid, rfl⟩
  · obtain ⟨serverId, sessionId, transport, contextSettings⟩ := context
    rintro ⟨classified, served, valid, rfl⟩
    exact .session classified served valid

/-! ## Dispatch -/

/-- No collaborator was asked, and serving the request did not fail. -/
structure Outcome.Unasked (outcome : Outcome) : Prop where
  calls : outcome.calls = []
  failure : outcome.failure = none
  takeover : outcome.takeover = none

/-- A request is handed on with the call it leads to, and else served without one. -/
def Progress.Follows (delegates : Call → Prop) : Progress → Prop
  | served outcome => outcome.Unasked ∧ ∀ call, ¬delegates call
  | delegated call _ => delegates call

theorem refuse_unasked (events : List Log.Event) (response : Response) :
    (refuse events response).Unasked :=
  ⟨rfl, rfl, rfl⟩

theorem serveIframe_unasked :
    (serveIframe settings description request response).Unasked := by
  unfold serveIframe
  split
  · exact refuse_unasked _ _
  · exact ⟨rfl, rfl, rfl⟩

theorem serveRaw_follows (classified : Path.classify path = .rawWebSocket) :
    (serveRaw settings description request response).Follows
      (Delegates validate settings path request) := by
  unfold serveRaw
  split
  · next enabled => exact .raw classified enabled
  · next disabled =>
      refine ⟨⟨rfl, rfl, rfl⟩, ?_⟩
      intro call delegates
      exact disabled (delegates.enabled_of_raw classified)

/-- A transport is disabled if it is the WebSocket one and WebSocket is. -/
theorem transport_disabled_iff {enabled : Bool} {transport : String} :
    (!enabled && transport == "websocket") = true ↔
      ¬(enabled = true ∨ transport ≠ "websocket") := by
  cases enabled <;> simp

theorem serveSession_follows
    {serverId sessionId transport : String}
    (classified : Path.classify path = .session serverId sessionId transport) :
    (serveSession validate { serverId, sessionId, transport, settings } description
      response).Follows (Delegates validate settings path request) := by
  unfold serveSession
  split
  · next disabled =>
      refine ⟨refuse_unasked _ _, ?_⟩
      intro call delegates
      exact
        transport_disabled_iff.mp disabled (delegates.admitted_of_session classified).1
  · next notDisabled =>
      rw [transport_disabled_iff, not_not] at notDisabled
      dsimp only
      split
      · next valid => exact .session classified notDisabled valid
      · next invalid =>
          refine ⟨refuse_unasked _ _, ?_⟩
          intro call delegates
          exact invalid (delegates.admitted_of_session classified).2

theorem not_delegates_of_classify
    {result : Path}
    (classified : Path.classify path = result)
    (notRaw : result ≠ .rawWebSocket)
    (notSession : ∀ serverId sessionId transport,
      result ≠ .session serverId sessionId transport) (call : Call) :
    ¬Delegates validate settings path request call := by
  intro delegates
  cases delegates with
  | raw classifiedRaw => exact notRaw (classified.symm.trans classifiedRaw)
  | session classifiedSession =>
      exact notSession _ _ _ (classified.symm.trans classifiedSession)

/-- Dispatching a request asks for exactly the call its path leads to. -/
theorem dispatch_follows :
    (dispatch validate surroundings settings description path request response).Follows
      (Delegates validate settings path request) := by
  unfold dispatch
  split
  · next classified =>
      exact ⟨⟨rfl, rfl, rfl⟩, not_delegates_of_classify classified (by simp) (by simp)⟩
  · next classified =>
      exact ⟨⟨rfl, rfl, rfl⟩, not_delegates_of_classify classified (by simp) (by simp)⟩
  · next classified =>
      exact ⟨serveIframe_unasked, not_delegates_of_classify classified (by simp) (by simp)⟩
  · next classified => exact serveRaw_follows classified
  · next classified => exact serveSession_follows classified
  · next classified =>
      exact ⟨refuse_unasked _ _, not_delegates_of_classify classified (by simp) (by simp)⟩

/-! ## A served request -/

/-- Exactly one call was made, and its reply is the outcome. -/
structure Outcome.Replied (outcome : Outcome) (call : Call) (reply : Reply Fault) :
    Prop where
  calls : outcome.calls = [call]
  response : outcome.response = reply.response
  failure : outcome.failure = reply.failure
  takeover : outcome.takeover = reply.takeover

/--
Either a request leads to no call, and none is made; or it leads to one, and
the reply to that one is the outcome.
-/
theorem handle_cases
    (collaborators : Collaborators) (surroundings : Info.Surroundings)
    (threshold : Log.Level) (settings : ServiceSettings) (path? : Option String)
    (request : Request) (response : Response) :
    ((handle collaborators surroundings threshold settings path? request response).Unasked ∧
        ∀ path ∈ path?, ∀ call,
          ¬Delegates collaborators.validate settings path request call) ∨
      ∃ path ∈ path?, ∃ call,
        Delegates collaborators.validate settings path request call ∧
          (handle collaborators surroundings threshold settings path? request response).Replied
            call (collaborators.reply request response call) := by
  cases path? with
  | none => exact Or.inl ⟨⟨rfl, rfl, rfl⟩, by simp⟩
  | some path =>
      have follows :=
        @dispatch_follows collaborators.validate surroundings settings
          (description? threshold request) path request response
      simp only [Option.mem_some_iff, forall_eq', exists_eq_left', handle]
      generalize dispatch collaborators.validate surroundings settings
          (description? threshold request) path request response = progress at follows ⊢
      cases progress with
      | served outcome =>
          obtain ⟨unasked, nothing⟩ := follows
          exact Or.inl ⟨⟨unasked.calls, unasked.failure, unasked.takeover⟩, nothing⟩
      | delegated call events =>
          exact Or.inr ⟨call, follows, ⟨rfl, rfl, rfl, rfl⟩⟩

variable {collaborators : Collaborators} {path? : Option String}

theorem mem_handle_calls_iff {call : Call} :
    call ∈ (handle collaborators surroundings threshold settings path? request
        response).calls ↔
      ∃ path ∈ path?, Delegates collaborators.validate settings path request call := by
  rcases handle_cases collaborators surroundings threshold settings path? request response with
    ⟨unasked, nothing⟩ | ⟨path, given, asked, delegates, replied⟩
  · rw [unasked.calls]
    constructor
    · intro member
      cases member
    · rintro ⟨path, given, delegates⟩
      exact absurd delegates (nothing path given call)
  · rw [replied.calls, List.mem_singleton]
    constructor
    · rintro rfl
      exact ⟨path, given, delegates⟩
    · rintro ⟨other, givenOther, delegatesOther⟩
      have same : other = path := Option.mem_unique givenOther given
      subst same
      exact delegatesOther.unique delegates

/-- The reply to a call that was made is the outcome. -/
theorem replied_of_mem
    {call : Call}
    (member : call ∈ (handle collaborators surroundings threshold settings path? request
        response).calls) :
    (handle collaborators surroundings threshold settings path? request response).Replied
      call (collaborators.reply request response call) := by
  rcases handle_cases collaborators surroundings threshold settings path? request response with
    ⟨unasked, -⟩ | ⟨path, given, asked, delegates, replied⟩
  · rw [unasked.calls] at member
    cases member
  · rw [replied.calls, List.mem_singleton] at member
    subst member
    exact replied

theorem handle_failure_eq_some_iff {fault : Fault} :
    (handle collaborators surroundings threshold settings path? request
        response).failure = some fault ↔
      ∃ call ∈ (handle collaborators surroundings threshold settings path? request
          response).calls,
        (collaborators.reply request response call).failure = some fault := by
  rcases handle_cases collaborators surroundings threshold settings path? request response with
    ⟨unasked, -⟩ | ⟨path, given, asked, delegates, replied⟩
  · simp [unasked.calls, unasked.failure]
  · simp [replied.calls, replied.failure]

/-- A collaborator that is not asked has no influence. -/
theorem handle_congr
    {others : Collaborators}
    (sameCheck : others.validate = collaborators.validate)
    (sameReply :
      ∀ call ∈ (handle collaborators surroundings threshold settings path? request
          response).calls,
        others.reply request response call = collaborators.reply request response call) :
    handle others surroundings threshold settings path? request response =
      handle collaborators surroundings threshold settings path? request response := by
  cases path? with
  | none => rfl
  | some path =>
      simp only [handle, sameCheck] at sameReply ⊢
      generalize dispatch collaborators.validate surroundings settings
          (description? threshold request) path request response = progress at sameReply ⊢
      cases progress with
      | served outcome => rfl
      | delegated call events =>
          have asked : call ∈ [call] := List.mem_singleton_self call
          simp only [Progress.complete, sameReply call asked]

theorem handle_raw_disabled
    (classified : path?.map Path.classify = some .rawWebSocket)
    (disabled : settings.websocketEnabled = false) :
    (handle collaborators surroundings threshold settings path? request
        response).response = response ∧
      (handle collaborators surroundings threshold settings path? request
        response).failure = none := by
  obtain ⟨path, rfl, raw⟩ := Option.map_eq_some_iff.mp classified
  simp [handle, dispatch, raw, serveRaw, disabled, Progress.complete, account]

/--
The service delegates exactly when it should.

At most one call is made.  The raw endpoint is called for its path while
WebSocket is enabled, a transport for a session path that is neither disabled
nor refused by the check, with the segments of the path and the settings the
request was taken in with; a collaborator that is not called has no influence
on the outcome.  Serving a request fails with the reason of the collaborator
called, and in no other way; the entity tag of the bootstrap page is always a
header value.  The disabled raw endpoint leaves the response as it was, and
the check that comes with the service accepts every session path.
-/
theorem handle_delegates
    (collaborators : Collaborators) (surroundings : Info.Surroundings)
    (threshold : Log.Level) (settings : ServiceSettings) (path? : Option String)
    (request : Request) (response : Response) :
    let outcome :=
      handle collaborators surroundings threshold settings path? request response
    outcome.calls.length ≤ 1 ∧
      (∀ asked, .raw asked ∈ outcome.calls ↔
        asked = request ∧
          path?.map Path.classify = some .rawWebSocket ∧
            settings.websocketEnabled = true) ∧
      (∀ context, .session context ∈ outcome.calls ↔
        path?.map Path.classify =
            some (.session context.serverId context.sessionId context.transport) ∧
          (settings.websocketEnabled = true ∨ context.transport ≠ "websocket") ∧
            (collaborators.validate context.serverId context.sessionId
                context.transport).value = true ∧
              context.settings = settings) ∧
      (∀ others : Collaborators,
        others.validate = collaborators.validate →
          (∀ call ∈ outcome.calls,
            others.reply request response call =
              collaborators.reply request response call) →
            handle others surroundings threshold settings path? request response =
              outcome) ∧
      (∀ fault, outcome.failure = some fault ↔
        (∃ asked source,
          .raw asked ∈ outcome.calls ∧
            (collaborators.raw request response).failure = some source ∧
              fault = .io source) ∨
          ∃ context,
            .session context ∈ outcome.calls ∧
              (collaborators.session context request response).failure = some fault) ∧
      (∀ content,
        HeaderValue.ofString? (String.ofList (Iframe.etag content)) =
          some (Iframe.etagValue content)) ∧
      (path?.map Path.classify = some .rawWebSocket →
        settings.websocketEnabled = false →
          outcome.response = response ∧ outcome.failure = none) ∧
      ∀ path serverId sessionId transport,
        Path.classify path = .session serverId sessionId transport →
          Path.validateSegments serverId sessionId transport = (true, []) := by
  intro outcome
  refine ⟨?_, ?_, ?_, fun others => handle_congr, ?_, Iframe.ofString?_etag,
    handle_raw_disabled, fun _ _ _ _ => Path.validateSegments_of_classify⟩
  · rcases handle_cases collaborators surroundings threshold settings path? request
        response with
      ⟨unasked, -⟩ | ⟨path, given, call, delegates, replied⟩
    · simp [outcome, unasked.calls]
    · simp [outcome, replied.calls]
  · intro asked
    simp only [outcome, mem_handle_calls_iff, delegates_raw_iff, Option.map_eq_some_iff,
      Option.mem_def]
    constructor
    · rintro ⟨path, given, same, classified, enabled⟩
      exact ⟨same, ⟨path, given, classified⟩, enabled⟩
    · rintro ⟨same, ⟨path, given, classified⟩, enabled⟩
      exact ⟨path, given, same, classified, enabled⟩
  · intro context
    simp only [outcome, mem_handle_calls_iff, delegates_session_iff, Option.map_eq_some_iff,
      Option.mem_def]
    constructor
    · rintro ⟨path, given, classified, rest⟩
      exact ⟨⟨path, given, classified⟩, rest⟩
    · rintro ⟨⟨path, given, classified⟩, rest⟩
      exact ⟨path, given, classified, rest⟩
  · intro fault
    rw [handle_failure_eq_some_iff]
    constructor
    · rintro ⟨call, member, failed⟩
      cases call with
      | raw asked =>
          obtain ⟨source, reason, same⟩ := Option.map_eq_some_iff.mp failed
          exact Or.inl ⟨asked, source, member, reason, same.symm⟩
      | session context => exact Or.inr ⟨context, member, failed⟩
    · rintro (⟨asked, source, member, reason, rfl⟩ | ⟨context, member, failed⟩)
      · exact ⟨.raw asked, member, Option.map_eq_some_iff.mpr ⟨source, reason, rfl⟩⟩
      · exact ⟨.session context, member, failed⟩

end SessionGateway.Service
