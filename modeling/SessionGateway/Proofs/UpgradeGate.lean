import SessionGateway.Proofs.Delegation
import SessionGateway.WebSocket.Endpoint

/-!
# The gate in front of WebSocket

Three checks decide whether a connection is taken over: the classifier cuts
the transport out of a decoded path, the service compares it with the name of
the disabled transport, and the endpoint looks the name up.  This module shows
that they agree for every spelling of a path.

While WebSocket is disabled no request is taken over and no transport called
is the WebSocket one; while it is enabled a session is taken over for exactly
the transport `websocket` and the method `GET`.  What the capabilities say is
the setting itself.
-/

namespace SessionGateway.WebSocket

open Http
open Service

/-! ## The endpoint -/

theorem takeOver_isSome {ε : Type} (request : Request) :
    (takeOver request : Reply ε).takeover.isSome = true := by
  unfold takeOver
  split <;> rfl

theorem ofName?_eq_webSocket_iff {name : String} :
    Transport.ofName? name = some .webSocket ↔ name = "websocket" := by
  rw [Transport.ofName?_eq_some_iff]
  exact eq_comm

/-- Any transport but the WebSocket one is refused with the response as it was. -/
theorem serveSession_of_ne
    {context : SessionContext} (different : context.transport ≠ "websocket")
    (request : Request) (response : Response) :
    (serveSession context request response).response = response.withStatus .notFound ∧
      (serveSession context request response).takeover = none := by
  have notWebSocket : Transport.ofName? context.transport ≠ some .webSocket := by
    intro found
    exact different (ofName?_eq_webSocket_iff.mp found)
  unfold serveSession
  split
  · exact ⟨rfl, rfl⟩
  · next found => exact absurd found notWebSocket
  · exact ⟨rfl, rfl⟩

theorem serveSession_takeover_iff
    {context : SessionContext} {request : Request} {response : Response} :
    (serveSession context request response).takeover.isSome = true ↔
      context.transport = "websocket" ∧ request.method = Method.get := by
  by_cases named : context.transport = "websocket"
  · simp only [named, true_and]
    rw [serveSession, ofName?_eq_webSocket_iff.mpr named]
    dsimp only
    split
    · next get => exact iff_of_true (takeOver_isSome request) get
    · next other => exact iff_of_false (by simp [refuse]) other
  · have refused := serveSession_of_ne named request response
    simp [refused.2, named]

/-! ## The capabilities -/

/-- The wording of a flag. -/
def flagText (flag : Bool) : String :=
  if flag then "true" else "false"

theorem body_eq (settings : ServiceSettings) (entropy : Int32) :
    Info.body settings entropy =
      "\x7b\"entropy\":" ++ toString entropy.toInt ++
        ",\"origins\":[\"*:*\"],\"cookie_needed\":" ++
          flagText settings.sessionCookieNeeded ++
            ",\"websocket\":" ++ flagText settings.websocketEnabled ++ "\x7d" := by
  have wording : ∀ flag : Bool, toString flag = flagText flag := by
    intro flag
    cases flag <;> rfl
  have plain : ∀ text : String, toString text = text := fun _ => rfl
  simp [Info.body, ← wording, plain, String.append_assoc]

theorem check_served
    {policy : Cors.Policy} {request : Request}
    (allowed : Origin.isRequestAllowed request policy.allowedOrigins = true)
    (methods : List Method) (response : Response) :
    (Cors.check policy request methods response).value.1 = true := by
  unfold Cors.check
  split
  · rfl
  · rw [if_pos allowed]
    split <;> rfl

theorem respond_body
    {request : Request} {settings : ServiceSettings}
    (get : request.method = Method.get)
    (allowed : Origin.isRequestAllowed request settings.allowedOrigins = true)
    (surroundings : Info.Surroundings) (response : Response) :
    (Info.respond surroundings settings request response).value.body =
      Info.body settings surroundings.entropy := by
  have served :=
    @check_served (Cors.Policy.ofSettings settings) request allowed [Method.get]
      (Cache.forbid response)
  rw [Info.respond, if_pos get, Log.Logged.bind_value]
  dsimp only
  rw [if_pos served]
  rfl

/-! ## The gate -/

variable
    {surroundings : Info.Surroundings}
    {threshold : Log.Level}
    {settings : ServiceSettings}
    {path? : Option String}
    {request : Request}
    {response : Response}

/-- A session that is handed on while WebSocket is disabled names another transport. -/
theorem transport_ne_of_disabled
    (disabled : settings.websocketEnabled = false)
    {context : SessionContext}
    (member : .session context ∈ (handle collaborators surroundings threshold settings path?
        request response).calls) :
    context.transport ≠ "websocket" := by
  obtain ⟨path, -, delegates⟩ := mem_handle_calls_iff.mp member
  rcases (delegates_session_iff.mp delegates).2.1 with enabled | different
  · rw [disabled] at enabled
    cases enabled
  · exact different

theorem raw_not_mem_of_disabled
    (disabled : settings.websocketEnabled = false) (asked : Request) :
    .raw asked ∉ (handle collaborators surroundings threshold settings path? request
        response).calls := by
  intro member
  obtain ⟨path, -, delegates⟩ := mem_handle_calls_iff.mp member
  obtain ⟨-, -, enabled⟩ := delegates_raw_iff.mp delegates
  rw [disabled] at enabled
  cases enabled

theorem takeover_eq_none_of_disabled (disabled : settings.websocketEnabled = false) :
    (handle collaborators surroundings threshold settings path? request
        response).takeover = none := by
  rcases handle_cases collaborators surroundings threshold settings path? request response with
    ⟨unasked, -⟩ | ⟨path, given, call, delegates, replied⟩
  · exact unasked.takeover
  · have member : call ∈ (handle collaborators surroundings threshold settings path? request
        response).calls := by
      rw [replied.calls]
      exact List.mem_singleton_self call
    cases call with
    | raw asked => exact absurd member (raw_not_mem_of_disabled disabled asked)
    | session context =>
        rw [replied.takeover]
        exact
          (serveSession_of_ne (transport_ne_of_disabled disabled member) request response).2

theorem info_body
    (classified : path?.map Path.classify = some .info)
    (get : request.method = Method.get)
    (allowed : Origin.isRequestAllowed request settings.allowedOrigins = true) :
    (handle collaborators surroundings threshold settings path? request response).response.body =
      Info.body settings surroundings.entropy := by
  obtain ⟨path, rfl, info⟩ := Option.map_eq_some_iff.mp classified
  simp only [handle, dispatch, info, Progress.complete, account]
  exact respond_body get allowed surroundings response

/--
Disabling WebSocket cannot be bypassed by any spelling of a path.

While it is disabled, no request is taken over: the raw endpoint is not
called, and a transport that is called is not the WebSocket one and refuses
the request.  While it is enabled, taking a session over is attempted for
exactly the session paths of that transport whose segments are valid, with
`GET`.  Under either setting the capabilities tell the client that setting.
-/
theorem upgrade_gate
    (surroundings : Info.Surroundings) (threshold : Log.Level)
    (settings : ServiceSettings) (path? : Option String)
    (request : Request) (response : Response) :
    let outcome :=
      handle collaborators surroundings threshold settings path? request response
    (settings.websocketEnabled = false →
      outcome.takeover = none ∧
        (∀ asked, .raw asked ∉ outcome.calls) ∧
          ∀ context, .session context ∈ outcome.calls →
            Transport.ofName? context.transport ≠ some .webSocket ∧
              outcome.response = response.withStatus .notFound) ∧
      (settings.websocketEnabled = true →
        ((∃ context, .session context ∈ outcome.calls ∧ outcome.takeover.isSome = true) ↔
          ∃ serverId sessionId,
            path?.map Path.classify = some (.session serverId sessionId "websocket") ∧
              (Path.validateSegments serverId sessionId "websocket").1 = true ∧
                request.method = Method.get)) ∧
      (path?.map Path.classify = some .info →
        request.method = Method.get →
          Origin.isRequestAllowed request settings.allowedOrigins = true →
            outcome.response.body =
              "\x7b\"entropy\":" ++ toString surroundings.entropy.toInt ++
                ",\"origins\":[\"*:*\"],\"cookie_needed\":" ++
                  flagText settings.sessionCookieNeeded ++
                    ",\"websocket\":" ++ flagText settings.websocketEnabled ++
                      "\x7d") := by
  intro outcome
  refine ⟨?_, ?_, ?_⟩
  · intro disabled
    refine ⟨takeover_eq_none_of_disabled disabled, raw_not_mem_of_disabled disabled, ?_⟩
    intro context member
    have different := transport_ne_of_disabled disabled member
    refine ⟨fun found => different (ofName?_eq_webSocket_iff.mp found), ?_⟩
    rw [(replied_of_mem member).response]
    exact (serveSession_of_ne different request response).1
  · intro enabled
    constructor
    · rintro ⟨context, member, attempted⟩
      rw [(replied_of_mem member).takeover] at attempted
      obtain ⟨named, get⟩ := serveSession_takeover_iff.mp attempted
      obtain ⟨path, given, delegates⟩ := mem_handle_calls_iff.mp member
      obtain ⟨classified, -, valid, -⟩ := delegates_session_iff.mp delegates
      rw [named] at classified valid
      exact
        ⟨context.serverId, context.sessionId,
          Option.map_eq_some_iff.mpr ⟨path, given, classified⟩, valid, get⟩
    · rintro ⟨serverId, sessionId, classified, valid, get⟩
      obtain ⟨path, given, classified⟩ := Option.map_eq_some_iff.mp classified
      let context : SessionContext :=
        { serverId, sessionId, transport := "websocket", settings }
      have member : .session context ∈ outcome.calls :=
        mem_handle_calls_iff.mpr
          ⟨path, given, .session classified (Or.inl enabled) valid⟩
      have attempted : (serveSession context request response).takeover.isSome = true :=
        serveSession_takeover_iff.mpr ⟨rfl, get⟩
      refine ⟨context, member, ?_⟩
      rw [(replied_of_mem member).takeover]
      exact attempted
  · intro classified get allowed
    rw [← body_eq]
    exact info_body classified get allowed

end SessionGateway.WebSocket
