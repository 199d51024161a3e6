import SessionGateway.Proofs.UpgradeGate

/-!
# What taking a connection over depends on

The path, the flag that enables WebSocket, the method of a session request and
the handshake decide whether a connection is taken over (`Upgrades`,
`handle_of_upgrades`).  Neither the list of allowed origins nor the origin of
the request is among them (`takeover_ignores_origin`).
-/

namespace SessionGateway

open Http

theorem Http.Headers.first?_insert_other
    {name other : HeaderName} (different : other ≠ name) (headers : Headers)
    (value : HeaderValue) :
    (headers.insert name value).first? other = headers.first? other := by
  rw [Headers.first?, Headers.values_insert_other headers value different, Headers.first?]

namespace WebSocket

open Service

variable
    {surroundings : Info.Surroundings}
    {threshold : Log.Level}
    {settings : ServiceSettings}
    {path? : Option String}
    {request : Request}
    {response : Response}

/-! ## The handshake -/

/-- The handshake does not read the origin. -/
theorem handshake_insert_origin (request : Request) (origin : HeaderValue) :
    handshake { request with headers := request.headers.insert .origin origin } =
      handshake request := by
  unfold handshake headerContains headerIs
  simp (disch := decide) only [Headers.first?_insert_other]

theorem takeOver_insert_origin {ε : Type} (request : Request) (origin : HeaderValue) :
    (takeOver { request with headers := request.headers.insert .origin origin } : Reply ε) =
      takeOver request := by
  rw [takeOver, handshake_insert_origin, takeOver]

theorem takeOver_accepted_iff {ε : Type} :
    (takeOver request : Reply ε).takeover = some .accepted ↔
      ∃ key, handshake request = .ok key := by
  unfold takeOver
  cases handshake request with
  | ok key => exact iff_of_true rfl ⟨key, rfl⟩
  | error rejection => exact iff_of_false nofun nofun

theorem takeOver_accepts
    {ε : Type} (accepts : (takeOver request : Reply ε).takeover = some .accepted) :
    (takeOver request : Reply ε).response.status = .switchingProtocols ∧
      (takeOver request : Reply ε).failure = none := by
  obtain ⟨key, valid⟩ := takeOver_accepted_iff.mp accepts
  rw [takeOver, valid]
  exact ⟨rfl, rfl⟩

/-- Nothing that is answered to a handshake depends on how a failure would be told. -/
theorem takeOver_mapFailure {ε ε' : Type} (account : ε → ε') (request : Request) :
    (takeOver request : Reply ε).mapFailure account = takeOver request := by
  unfold takeOver
  split <;> rfl

/-! ## The requests that are taken over -/

/-- A request that the service hands to an endpoint which tries to take its connection over. -/
def Upgrades (settings : ServiceSettings) (path? : Option String) (request : Request) : Prop :=
  settings.websocketEnabled = true ∧
    (path?.map Path.classify = some .rawWebSocket ∨
      ∃ serverId sessionId,
        path?.map Path.classify = some (.session serverId sessionId "websocket") ∧
          request.method = Method.get)

/-- What is left of such a request is the answer to its handshake. -/
theorem handle_of_upgrades (upgrades : Upgrades settings path? request) :
    ∃ call,
      (handle collaborators surroundings threshold settings path? request response).Replied
        call (takeOver request) := by
  obtain ⟨enabled, raw | ⟨serverId, sessionId, session, get⟩⟩ := upgrades
  · obtain ⟨path, given, classified⟩ := Option.map_eq_some_iff.mp raw
    have replied :=
      @replied_of_mem surroundings threshold settings request response collaborators path?
        (.raw request) (mem_handle_calls_iff.mpr ⟨path, given, .raw classified enabled⟩)
    refine ⟨.raw request, ?_⟩
    rw [← takeOver_mapFailure Fault.io request]
    exact replied
  · obtain ⟨path, given, classified⟩ := Option.map_eq_some_iff.mp session
    let context : SessionContext := { serverId, sessionId, transport := "websocket", settings }
    have valid : (collaborators.validate serverId sessionId "websocket").value = true :=
      congrArg Prod.fst (Path.validateSegments_of_classify classified)
    have replied :=
      @replied_of_mem surroundings threshold settings request response collaborators path?
        (.session context)
        (mem_handle_calls_iff.mpr ⟨path, given, .session classified (Or.inl enabled) valid⟩)
    have served : serveSession context request response = takeOver request := by
      rw [serveSession, ofName?_eq_webSocket_iff.mpr rfl]
      exact if_pos get
    refine ⟨.session context, ?_⟩
    rw [← served]
    exact replied

theorem handle_takeover_isSome_iff :
    (handle collaborators surroundings threshold settings path? request
        response).takeover.isSome = true ↔
      Upgrades settings path? request := by
  constructor
  · intro attempted
    rcases handle_cases collaborators surroundings threshold settings path? request response with
      ⟨unasked, -⟩ | ⟨path, given, call, delegates, replied⟩
    · rw [unasked.takeover] at attempted
      cases attempted
    · rw [replied.takeover] at attempted
      cases delegates with
      | raw classified enabled =>
          exact ⟨enabled, Or.inl (Option.map_eq_some_iff.mpr ⟨path, given, classified⟩)⟩
      | @session serverId sessionId transport classified served valid =>
          obtain ⟨named, get⟩ := serveSession_takeover_iff.mp attempted
          obtain rfl : transport = "websocket" := named
          exact
            ⟨served.resolve_right fun different => different rfl,
              Or.inr
                ⟨serverId, sessionId, Option.map_eq_some_iff.mpr ⟨path, given, classified⟩,
                  get⟩⟩
  · intro upgrades
    obtain ⟨call, replied⟩ :=
      @handle_of_upgrades surroundings threshold settings path? request response upgrades
    rw [replied.takeover]
    exact takeOver_isSome request

/--
Which connections are taken over is decided without the origin policy.

It is attempted for the requests of `Upgrades`, and it succeeds for those with
a valid handshake, which are answered with 101.  Another list of allowed
origins, or another origin of the request, changes neither the attempt nor, if
there is one, the answer.
-/
theorem takeover_ignores_origin
    (surroundings : Info.Surroundings) (threshold : Log.Level)
    (settings : ServiceSettings) (path? : Option String)
    (request : Request) (response : Response)
    (allowed : List String) (origin : HeaderValue) :
    let outcome :=
      handle collaborators surroundings threshold settings path? request response
    let other :=
      handle collaborators surroundings threshold
        { settings with allowedOrigins := allowed } path?
        { request with headers := request.headers.insert .origin origin } response
    (outcome.takeover.isSome = true ↔ Upgrades settings path? request) ∧
      (outcome.takeover = some .accepted ↔
        Upgrades settings path? request ∧ ∃ key, handshake request = .ok key) ∧
      (outcome.takeover = some .accepted →
        outcome.response.status = .switchingProtocols ∧ outcome.failure = none) ∧
      other.takeover = outcome.takeover ∧
      (outcome.takeover.isSome = true →
        other.response = outcome.response ∧ other.failure = outcome.failure) := by
  intro outcome other
  have attempted : outcome.takeover.isSome = true ↔ Upgrades settings path? request :=
    handle_takeover_isSome_iff
  by_cases upgrades : Upgrades settings path? request
  · obtain ⟨call, replied⟩ : ∃ call, outcome.Replied call (takeOver request) :=
      handle_of_upgrades upgrades
    -- Neither the path, the flag nor the method has changed.
    obtain ⟨otherCall, otherReplied⟩ :
        ∃ call, other.Replied call
          (takeOver { request with headers := request.headers.insert .origin origin }) :=
      handle_of_upgrades upgrades
    rw [takeOver_insert_origin] at otherReplied
    refine ⟨attempted, ?_, ?_, ?_, ?_⟩
    · rw [replied.takeover, takeOver_accepted_iff, and_iff_right upgrades]
    · intro accepts
      rw [replied.takeover] at accepts
      rw [replied.response, replied.failure]
      exact takeOver_accepts accepts
    · rw [otherReplied.takeover, replied.takeover]
    · intro _
      rw [otherReplied.response, otherReplied.failure, replied.response, replied.failure]
      exact ⟨rfl, rfl⟩
  · have untouched : outcome.takeover = none :=
      Option.not_isSome_iff_eq_none.mp (mt attempted.mp upgrades)
    have otherUntouched : other.takeover = none :=
      Option.not_isSome_iff_eq_none.mp (mt handle_takeover_isSome_iff.mp upgrades)
    rw [untouched, otherUntouched]
    refine ⟨iff_of_false nofun upgrades, iff_of_false nofun fun both => upgrades both.1,
      nofun, rfl, nofun⟩

/-- The allowed origin of a service, and a page of another one that opens either endpoint. -/
theorem takeover_of_refused_origin :
    let settings : ServiceSettings :=
      { name := "", allowedOrigins := ["https://a.example"] }
    let request : Request :=
      { headers :=
          ⟨[(.origin, HeaderValue.literal "https://evil.example"),
            (.connection, HeaderValue.literal "Upgrade"),
            (.upgrade, HeaderValue.literal "websocket"),
            (.secWebSocketKey, HeaderValue.literal "dGhlIHNhbXBsZSBub25jZQ=="),
            (.secWebSocketVersion, HeaderValue.literal "13")]⟩
        upgradable := true }
    Origin.isRequestAllowed request settings.allowedOrigins = false ∧
      ∀ path ∈ ["/websocket", "/000/s1/websocket"],
        let outcome :=
          handle collaborators { now := 0, entropy := 0 } .info settings (some path) request {}
        outcome.takeover = some .accepted ∧ outcome.response.status = .switchingProtocols := by
  intro settings request
  refine ⟨by decide +kernel, ?_⟩
  intro path member outcome
  have upgrades : Upgrades settings (some path) request := by
    rcases List.mem_pair.mp member with rfl | rfl
    · exact ⟨rfl, Or.inl (by decide +kernel)⟩
    · exact ⟨rfl, Or.inr ⟨"000", "s1", by decide +kernel, rfl⟩⟩
  obtain ⟨call, replied⟩ : ∃ call, outcome.Replied call (takeOver request) :=
    handle_of_upgrades upgrades
  have accepts : (takeOver request : Reply Fault).takeover = some .accepted := by
    decide +kernel
  rw [replied.takeover, replied.response]
  exact ⟨accepts, (takeOver_accepts accepts).1⟩

end WebSocket

end SessionGateway
