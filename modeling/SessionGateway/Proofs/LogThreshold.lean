import SessionGateway.Service
import SessionGateway.WebSocket.Endpoint

/-!
# The threshold of the log

The log shows what was done and does not take part in it.  The service looks at
the threshold only to describe a request for events that a higher threshold does
not show; a collaborator may do the same, if it is *heedless* of the threshold in
everything else.

Serving a request at two thresholds is compared step by step: `Reply.Alike`,
`Progress.Alike` and `Outcome.Alike` say that all is the same but for events that
the threshold does not show.
-/

namespace SessionGateway

open Http

namespace Log

theorem visible_append (threshold : Level) (left right : List Event) :
    visible threshold (left ++ right) = visible threshold left ++ visible threshold right :=
  List.filter_append left right

/-- The lowest threshold shows everything. -/
theorem visible_trace (events : List Event) : visible .trace events = events := by
  rw [visible, List.filter_eq_self]
  intro event _
  cases event.level <;> rfl

/-- Two accounts of which a threshold shows the same. -/
def SameVisible (threshold : Level) (left right : List Event) : Prop :=
  visible threshold left = visible threshold right

namespace SameVisible

variable {threshold : Level} {left right leftRest rightRest : List Event}

theorem refl (threshold : Level) (events : List Event) : SameVisible threshold events events :=
  rfl

theorem append (front : SameVisible threshold left right)
    (rest : SameVisible threshold leftRest rightRest) :
    SameVisible threshold (left ++ leftRest) (right ++ rightRest) := by
  rw [SameVisible, visible_append, visible_append, front, rest]

theorem cons (event : Event) (rest : SameVisible threshold leftRest rightRest) :
    SameVisible threshold (event :: leftRest) (event :: rightRest) :=
  (refl threshold [event]).append rest

end SameVisible

end Log

namespace Service

/-! ## Alike but for what is not shown -/

structure Reply.Alike {ε : Type} (threshold : Log.Level) (left right : Reply ε) : Prop where
  response : left.response = right.response
  failure : left.failure = right.failure
  takeover : left.takeover = right.takeover
  events : Log.SameVisible threshold left.events right.events

structure Outcome.Alike (threshold : Log.Level) (left right : Outcome) : Prop where
  response : left.response = right.response
  failure : left.failure = right.failure
  calls : left.calls = right.calls
  takeover : left.takeover = right.takeover
  metrics : left.metrics = right.metrics
  events : Log.SameVisible threshold left.events right.events

inductive Progress.Alike (threshold : Log.Level) : Progress → Progress → Prop where
  | served {left right : Outcome} (alike : left.Alike threshold right) :
      Alike threshold (.served left) (.served right)
  | delegated {left right : List Log.Event} (call : Call)
      (events : Log.SameVisible threshold left right) :
      Alike threshold (.delegated call left) (.delegated call right)

/-- Two descriptions of a request, or none, with which a threshold shows the same. -/
def SameDescribed (threshold : Log.Level) (left right : Option String) : Prop :=
  ∀ message, Log.SameVisible threshold (about left message) (about right message)

/--
Collaborators of which the threshold of the log changes nothing but what they
record for lower thresholds.
-/
structure Heedless (collaborators : Log.Level → Collaborators) : Prop where
  raw : ∀ threshold request response,
    ((collaborators threshold).raw request response).Alike threshold
      ((collaborators .trace).raw request response)
  valid : ∀ threshold serverId sessionId transport,
    ((collaborators threshold).validate serverId sessionId transport).value =
      ((collaborators .trace).validate serverId sessionId transport).value
  validated : ∀ threshold serverId sessionId transport,
    Log.SameVisible threshold
      ((collaborators threshold).validate serverId sessionId transport).events
      ((collaborators .trace).validate serverId sessionId transport).events
  session : ∀ threshold context request response,
    ((collaborators threshold).session context request response).Alike threshold
      ((collaborators .trace).session context request response)

variable
    {threshold : Log.Level}
    {surroundings : Info.Surroundings}
    {settings : ServiceSettings}
    {low high : Option String}
    {path : String}
    {request : Request}
    {response : Response}
    {collaborators : Log.Level → Collaborators}

theorem Reply.Alike.refl {ε : Type} (threshold : Log.Level) (reply : Reply ε) :
    reply.Alike threshold reply :=
  ⟨rfl, rfl, rfl, rfl⟩

/-- Collaborators that do not know the threshold are heedless of it. -/
theorem heedless_const (collaborators : Collaborators) : Heedless fun _ => collaborators where
  raw _ _ _ := .refl _ _
  valid _ _ _ _ := rfl
  validated _ _ _ _ := rfl
  session _ _ _ _ := .refl _ _

/-- A request is described where its description is shown. -/
theorem sameDescribed_description? (threshold : Log.Level) (request : Request) :
    SameDescribed threshold (description? threshold request) (description? .trace request) := by
  intro message
  cases shown : threshold.admits .debug with
  | true =>
      rw [description?, if_pos shown]
      exact .refl _ _
  | false =>
      have described : description? .trace request = some request.description := rfl
      have undescribed : description? threshold request = none := by
        simp [description?, shown]
      simp [Log.SameVisible, described, undescribed, about, Log.visible, shown]

/-! ## Dispatch -/

theorem refuse_alike {left right : List Log.Event}
    (events : Log.SameVisible threshold left right) :
    (refuse left response).Alike threshold (refuse right response) :=
  ⟨rfl, rfl, rfl, rfl, rfl, events⟩

theorem serveIframe_alike (described : SameDescribed threshold low high) :
    (serveIframe settings low request response).Alike threshold
      (serveIframe settings high request response) := by
  unfold serveIframe
  split
  · exact refuse_alike (described _)
  · exact ⟨rfl, rfl, rfl, rfl, rfl, (described _).append (.refl _ _)⟩

theorem serveRaw_alike (described : SameDescribed threshold low high) :
    (serveRaw settings low request response).Alike threshold
      (serveRaw settings high request response) := by
  unfold serveRaw
  split
  · exact .delegated _ (described _)
  · exact .served ⟨rfl, rfl, rfl, rfl, rfl, described _⟩

theorem serveSession_alike (heedless : Heedless collaborators)
    (described : SameDescribed threshold low high) (context : SessionContext) :
    (serveSession (collaborators threshold).validate context low response).Alike threshold
      (serveSession (collaborators .trace).validate context high response) := by
  have valid := heedless.valid threshold context.serverId context.sessionId context.transport
  have validated :=
    heedless.validated threshold context.serverId context.sessionId context.transport
  unfold serveSession
  split
  · exact .served (refuse_alike (described _))
  · dsimp only
    rw [valid]
    split
    · exact .delegated _ (validated.append (described _))
    · exact .served (refuse_alike (validated.append (described _)))

theorem dispatch_alike (heedless : Heedless collaborators)
    (described : SameDescribed threshold low high) :
    (dispatch (collaborators threshold).validate surroundings settings low path request
        response).Alike threshold
      (dispatch (collaborators .trace).validate surroundings settings high path request
        response) := by
  unfold dispatch
  -- The branches of both sides are the same: none of them asks for the description.
  split
  · exact .served ⟨rfl, rfl, rfl, rfl, rfl, described _⟩
  · exact .served ⟨rfl, rfl, rfl, rfl, rfl, (described _).append (.refl _ _)⟩
  · exact .served (serveIframe_alike described)
  · exact serveRaw_alike described
  · exact serveSession_alike heedless described _
  · exact .served (refuse_alike ((described _).cons _))

/-! ## A served request -/

theorem Reply.Alike.mapFailure {ε ε' : Type} {left right : Reply ε}
    (alike : left.Alike threshold right) (account : ε → ε') :
    (left.mapFailure account).Alike threshold (right.mapFailure account) :=
  ⟨alike.response, congrArg (Option.map account) alike.failure, alike.takeover, alike.events⟩

theorem reply_alike (heedless : Heedless collaborators) (threshold : Log.Level) (call : Call) :
    ((collaborators threshold).reply request response call).Alike threshold
      ((collaborators .trace).reply request response call) := by
  cases call with
  | raw asked => exact (heedless.raw threshold request response).mapFailure Fault.io
  | session context => exact heedless.session threshold context request response

theorem complete_alike {left right : Progress} {lowReply highReply : Call → Reply Fault}
    (progress : left.Alike threshold right)
    (reply : ∀ call, (lowReply call).Alike threshold (highReply call)) :
    (left.complete lowReply).Alike threshold (right.complete highReply) := by
  cases progress with
  | served alike => exact alike
  | delegated call events =>
      have replied := reply call
      exact
        ⟨replied.response, replied.failure, rfl, replied.takeover, rfl,
          events.append replied.events⟩

/-- The same outcome, of which a threshold shows a part of the log. -/
structure Outcome.Filters (threshold : Log.Level) (shown whole : Outcome) : Prop where
  response : shown.response = whole.response
  failure : shown.failure = whole.failure
  calls : shown.calls = whole.calls
  takeover : shown.takeover = whole.takeover
  metrics : shown.metrics = whole.metrics
  events : shown.events = Log.visible threshold whole.events

theorem account_filters {left right : Outcome} (alike : left.Alike threshold right) :
    (account threshold path left).Filters threshold (account .trace path right) := by
  have recorded :
      Log.SameVisible threshold (left.events ++ left.failure.toList.map failed)
        (right.events ++ right.failure.toList.map failed) := by
    rw [alike.failure]
    exact alike.events.append (.refl _ _)
  constructor
  · exact alike.response
  · exact alike.failure
  · exact alike.calls
  · exact alike.takeover
  · rw [account, account, alike.response]
  · dsimp only [account]
    rw [Log.visible_trace]
    exact recorded

theorem handle_filters (heedless : Heedless collaborators) (surroundings : Info.Surroundings)
    (threshold : Log.Level) (settings : ServiceSettings) (path? : Option String)
    (request : Request) (response : Response) :
    (handle (collaborators threshold) surroundings threshold settings path? request
        response).Filters threshold
      (handle (collaborators .trace) surroundings .trace settings path? request response) := by
  cases path? with
  | none =>
      refine ⟨rfl, rfl, rfl, rfl, rfl, ?_⟩
      exact (congrArg (Log.visible threshold) (Log.visible_trace [pathAbsent request])).symm
  | some path =>
      have described := sameDescribed_description? threshold request
      exact account_filters
        (complete_alike (dispatch_alike heedless described) (reply_alike heedless threshold))

/--
Logging has no influence, and a threshold only filters.

For collaborators that are heedless of the threshold, a request is served in the
same way at any two thresholds: with the same response, the same failure, the same
calls, and the same counters.  What is logged at one is what is logged at the
lowest, without the events that are less severe.  That holds although a request is
described only where the threshold shows the events that need its description.
-/
theorem threshold_filters {collaborators : Log.Level → Collaborators}
    (heedless : Heedless collaborators) (surroundings : Info.Surroundings)
    (settings : ServiceSettings) (path? : Option String) (request : Request)
    (response : Response) :
    let served (threshold : Log.Level) :=
      handle (collaborators threshold) surroundings threshold settings path? request response
    (∀ first second : Log.Level,
        (served first).response = (served second).response ∧
          (served first).failure = (served second).failure ∧
          (served first).calls = (served second).calls ∧
          (served first).takeover = (served second).takeover ∧
          (served first).metrics = (served second).metrics) ∧
      (∀ threshold : Log.Level,
        (served threshold).events = Log.visible threshold (served .trace).events) ∧
        ∀ threshold : Log.Level,
          (description? threshold request).isSome = threshold.admits .debug := by
  intro served
  have filters (threshold : Log.Level) : (served threshold).Filters threshold (served .trace) :=
    handle_filters heedless surroundings threshold settings path? request response
  constructor
  · intro first second
    have left := filters first
    have right := filters second
    exact
      ⟨left.response.trans right.response.symm, left.failure.trans right.failure.symm,
        left.calls.trans right.calls.symm, left.takeover.trans right.takeover.symm,
        left.metrics.trans right.metrics.symm⟩
  constructor
  · exact fun threshold => (filters threshold).events
  · intro threshold
    unfold description?
    split
    · next shown => exact shown.symm
    · next hidden => exact (Bool.not_eq_true _ ▸ hidden).symm

/-- Collaborators whose raw endpoint fails, and which describe a request as the service does. -/
def describing (threshold : Log.Level) : Collaborators :=
  { WebSocket.collaborators with
    raw := fun request response =>
      { response := response.withStatus .accepted
        failure := some "connection lost"
        events := about (description? threshold request) "Connection requested" } }

/-- At a high threshold only the failure is shown, and the answer is the same. -/
theorem threshold_filters_describing :
    let served (threshold : Log.Level) :=
      handle (describing threshold) { now := 0, entropy := 0 } threshold { name := "service" }
        (some "/websocket") {} {}
    Heedless describing ∧
      (served .error).response = (served .debug).response ∧
      (served .error).failure = (served .debug).failure ∧
      (served .error).metrics = (served .debug).metrics ∧
      (served .trace).events.length = 3 ∧
        (served .error).events = [failed (.io "connection lost")] := by
  intro served
  have constant := heedless_const WebSocket.collaborators
  have heedless : Heedless describing :=
    { constant with
      raw threshold request response :=
        ⟨rfl, rfl, rfl, sameDescribed_description? threshold request _⟩ }
  have filtered := threshold_filters heedless { now := 0, entropy := 0 } { name := "service" }
    (some "/websocket") {} {}
  obtain ⟨response, failure, -, -, metrics⟩ := filtered.1 .error .debug
  have three : (served .trace).events.length = 3 := by
    decide
  have shown : Log.visible .error (served .trace).events = [failed (.io "connection lost")] := by
    decide
  exact ⟨heedless, response, failure, metrics, three, (filtered.2.1 .error).trans shown⟩

end Service

end SessionGateway
