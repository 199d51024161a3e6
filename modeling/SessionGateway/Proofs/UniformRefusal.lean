import SessionGateway.Proofs.CrossOrigin

/-!
# Uniform refusals

What a refused client can learn from its answer.

`Deployment.Refuses` lists the reasons for which a request is not served at
all.  For every one of them the answer is the response as it was found, with
status 404 (`handle_refuses`); none of the headers that the same endpoint
writes to other requests is there.  Two refused requests therefore get the same
answer, whichever reasons and whichever services they met.  A refused origin is
told apart from them, but not by anything that depends on the settings.
-/

namespace SessionGateway

open Http

namespace WebSocket

open Service

/-- Only a `GET` for the WebSocket transport is not refused. -/
theorem serveSession_refuses
    {context : SessionContext} {request : Request}
    (refused : context.transport = "websocket" → request.method ≠ Method.get)
    (response : Response) :
    (serveSession context request response).response = response.withStatus .notFound ∧
      (serveSession context request response).failure = none := by
  unfold serveSession
  split
  · exact ⟨rfl, rfl⟩
  · next found =>
      have named : context.transport = "websocket" := ofName?_eq_webSocket_iff.mp found
      rw [if_neg (show request.method ≠ Transport.webSocket.method from refused named)]
      exact ⟨rfl, rfl⟩
  · exact ⟨rfl, rfl⟩

end WebSocket

namespace Service

/-- A service with everything its answers depend on, the request aside. -/
structure Deployment where
  collaborators : Collaborators
  surroundings : Info.Surroundings
  threshold : Log.Level
  settings : ServiceSettings

namespace Deployment

def handle (deployment : Deployment) (path? : Option String) (request : Request)
    (response : Response) : Outcome :=
  Service.handle deployment.collaborators deployment.surroundings deployment.threshold
    deployment.settings path? request response

/-- The reasons for which a request is not served. -/
inductive Refuses (deployment : Deployment) : Option String → Request → Prop
  | absent {request : Request} : Refuses deployment none request
  | invalid {path : String} {request : Request} {fault : Path.Fault}
      (classified : Path.classify path = .invalid fault) :
      Refuses deployment (some path) request
  | iframe {path file : String} {request : Request}
      (classified : Path.classify path = .iframe file)
      (restricted : deployment.settings.restrictsOrigins = true) :
      Refuses deployment (some path) request
  | webSocketDisabled {path serverId sessionId : String} {request : Request}
      (classified : Path.classify path = .session serverId sessionId "websocket")
      (disabled : deployment.settings.websocketEnabled = false) :
      Refuses deployment (some path) request
  | segments {path serverId sessionId transport : String} {request : Request}
      (classified : Path.classify path = .session serverId sessionId transport)
      (invalid :
        (deployment.collaborators.validate serverId sessionId transport).value = false) :
      Refuses deployment (some path) request
  /-- The WebSocket endpoint knows no transport of that name. -/
  | transportUnknown {path serverId sessionId transport : String} {request : Request}
      (endpoint : deployment.collaborators.session = WebSocket.serveSession)
      (classified : Path.classify path = .session serverId sessionId transport)
      (unknown : Transport.ofName? transport = none) :
      Refuses deployment (some path) request
  /-- The WebSocket endpoint knows the transport, and does not serve it. -/
  | transportUnsupported {path serverId sessionId transport : String} {request : Request}
      {other : Transport}
      (endpoint : deployment.collaborators.session = WebSocket.serveSession)
      (classified : Path.classify path = .session serverId sessionId transport)
      (known : Transport.ofName? transport = some other)
      (different : other ≠ .webSocket) :
      Refuses deployment (some path) request
  /-- The WebSocket endpoint serves the transport, but not for the method. -/
  | methodUnsupported {path serverId sessionId : String} {request : Request}
      (endpoint : deployment.collaborators.session = WebSocket.serveSession)
      (classified : Path.classify path = .session serverId sessionId "websocket")
      (other : request.method ≠ Method.get) :
      Refuses deployment (some path) request

variable
    {deployment : Deployment}
    {path serverId sessionId transport : String}
    {path? : Option String}
    {request : Request}

/-- A session is refused by the service, or else by the transport it is handed to. -/
theorem handle_session
    (classified : Path.classify path = .session serverId sessionId transport)
    (response : Response)
    (refused :
      deployment.settings.websocketEnabled = false ∧ transport = "websocket" ∨
        (deployment.collaborators.validate serverId sessionId transport).value = false ∨
          ∀ context : SessionContext,
            context.transport = transport →
              (deployment.collaborators.session context request response).response =
                  response.withStatus .notFound ∧
                (deployment.collaborators.session context request response).failure =
                  none) :
    (deployment.handle (some path) request response).response =
        response.withStatus .notFound ∧
      (deployment.handle (some path) request response).failure = none := by
  simp only [handle, Service.handle, dispatch, classified, serveSession]
  split
  · exact ⟨rfl, rfl⟩
  · next enabled =>
      split
      · next valid =>
          rcases refused with ⟨disabled, named⟩ | invalid | byTransport
          · simp [disabled, named] at enabled
          · rw [valid] at invalid
            cases invalid
          · exact byTransport _ rfl
      · exact ⟨rfl, rfl⟩

/-- A refused request leaves everything but the status as it was, and it does not fail. -/
theorem handle_refuses (refuses : deployment.Refuses path? request) (response : Response) :
    (deployment.handle path? request response).response = response.withStatus .notFound ∧
      (deployment.handle path? request response).failure = none := by
  cases refuses with
  | absent => exact ⟨rfl, rfl⟩
  | invalid classified =>
      simp only [handle, Service.handle, dispatch, classified]
      exact ⟨rfl, rfl⟩
  | iframe classified restricted =>
      simp only [handle, Service.handle, dispatch, classified, serveIframe, restricted, if_true]
      exact ⟨rfl, rfl⟩
  | webSocketDisabled classified disabled =>
      exact handle_session classified response (Or.inl ⟨disabled, rfl⟩)
  | segments classified invalid =>
      exact handle_session classified response (Or.inr (Or.inl invalid))
  | transportUnknown endpoint classified unknown =>
      apply handle_session classified response
      refine Or.inr (Or.inr ?_)
      rintro context rfl
      rw [endpoint]
      apply WebSocket.serveSession_refuses
      intro named
      rw [WebSocket.ofName?_eq_webSocket_iff.mpr named] at unknown
      cases unknown
  | transportUnsupported endpoint classified known different =>
      apply handle_session classified response
      refine Or.inr (Or.inr ?_)
      rintro context rfl
      rw [endpoint]
      apply WebSocket.serveSession_refuses
      intro named
      rw [WebSocket.ofName?_eq_webSocket_iff.mpr named] at known
      cases known
      exact absurd rfl different
  | methodUnsupported endpoint classified other =>
      apply handle_session classified response
      refine Or.inr (Or.inr ?_)
      rintro context -
      rw [endpoint]
      exact WebSocket.serveSession_refuses (fun _ => other) response

/-- For any other method the answer of the capabilities does not look at the origin. -/
theorem handle_info_of_not_asks
    (classified : path?.map Path.classify = some .info) (other : ¬Info.Asks request)
    (response : Response) :
    (deployment.handle path? request response).response =
      (refuseMethod [Method.options, Method.get] response).value := by
  rw [Info.Asks, not_or] at other
  rw [handle, handle_info_response _ _ _ classified, Info.respond, if_neg other.1,
    if_neg other.2]

theorem handle_info_refused
    (classified : path?.map Path.classify = some .info)
    (refused : Origin.isRequestAllowed request deployment.settings.allowedOrigins = false)
    (response : Response) :
    (deployment.handle path? request response).response =
      if request.method = Method.get ∨ request.method = Method.options then
        Info.refusal request response
      else
        (refuseMethod [Method.options, Method.get] response).value := by
  split
  · next asks => exact handle_refused _ _ _ ⟨classified, asks⟩ refused
  · next other => exact handle_info_of_not_asks classified other response

/--
Refusals are uniform and leak nothing.

A request that is not served is answered with the response as it was found,
with status 404, for any reason and under any settings; two such requests
cannot be told apart by their answers, even at different services.  A request
for the capabilities whose origin two services refuse gets the same answer from
both, which is a 403 for the methods they answer.
-/
theorem refusals_uniform (response : Response) :
    (∀ (deployment : Deployment) (path? : Option String) (request : Request),
      deployment.Refuses path? request →
        (deployment.handle path? request response).failure = none ∧
          (deployment.handle path? request response).response =
            { response with status := .notFound }) ∧
      (∀ (left right : Deployment) (leftPath? rightPath? : Option String)
          (leftRequest rightRequest : Request),
        left.Refuses leftPath? leftRequest →
          right.Refuses rightPath? rightRequest →
            (left.handle leftPath? leftRequest response).response =
              (right.handle rightPath? rightRequest response).response) ∧
      ∀ (left right : Deployment) (path? : Option String) (request : Request),
        path?.map Path.classify = some .info →
          Origin.isRequestAllowed request left.settings.allowedOrigins = false →
            Origin.isRequestAllowed request right.settings.allowedOrigins = false →
              (left.handle path? request response).response =
                  (right.handle path? request response).response ∧
                (request.method = Method.get ∨ request.method = Method.options →
                  (left.handle path? request response).response.status = .forbidden) := by
  refine ⟨?_, ?_, ?_⟩
  · intro deployment path? request refuses
    obtain ⟨same, failure⟩ := handle_refuses refuses response
    exact ⟨failure, same⟩
  · intro left right leftPath? rightPath? leftRequest rightRequest refusesLeft refusesRight
    rw [(handle_refuses refusesLeft response).1, (handle_refuses refusesRight response).1]
  · intro left right path? request classified refusedLeft refusedRight
    rw [handle_info_refused classified refusedLeft, handle_info_refused classified refusedRight]
    refine ⟨rfl, ?_⟩
    intro asks
    rw [if_pos asks]
    exact Info.status_refusal

/-- The bootstrap page where origins are restricted, and a session by the wrong method. -/
theorem refusals_uniform_apart :
    let left : Deployment :=
      { collaborators := WebSocket.collaborators
        surroundings := { now := 0, entropy := 0 }
        threshold := .error
        settings := { name := "left", allowedOrigins := ["https://client.example"] } }
    let right : Deployment :=
      { collaborators := WebSocket.collaborators
        surroundings := { now := 1, entropy := 1 }
        threshold := .trace
        settings := { name := "right", suppressCors := true } }
    let posted : Request := { method := Method.post }
    let preset := Response.plainText .accepted "preset"
    left.Refuses (some "/iframe.html") {} ∧
      right.Refuses (some "/a/b/websocket") posted ∧
        (left.handle (some "/iframe.html") {} preset).response =
          (right.handle (some "/a/b/websocket") posted preset).response := by
  intro left right posted preset
  have page : Path.classify "/iframe.html" = .iframe "iframe.html" := by decide
  have session : Path.classify "/a/b/websocket" = .session "a" "b" "websocket" := by decide
  have refusesLeft : left.Refuses (some "/iframe.html") {} := .iframe page rfl
  have refusesRight : right.Refuses (some "/a/b/websocket") posted :=
    .methodUnsupported rfl session (by decide)
  exact
    ⟨refusesLeft, refusesRight,
      (refusals_uniform preset).2.1 left right _ _ {} posted refusesLeft refusesRight⟩

end Deployment

end Service

end SessionGateway
