import SessionGateway.Proofs.Http.Grant
import SessionGateway.Proofs.Origin.Policy
import SessionGateway.Proofs.UpgradeGate

/-!
# Cross-origin access

Which pages may read what the service answers.

Whatever the service writes is plain, except for its capabilities: there the
origin of a request is checked, and its page is granted access, refused, or
neither.  `Verdict` has these three cases, and each of them leads to one form
of answer under any settings (`handle_granting`, `handle_refused`,
`handle_silent`).
-/

namespace SessionGateway

open Http
open Cors

/-! ## The capabilities -/

namespace Info

/-- A request that the capabilities answer: for them, or for what may be asked. -/
def Asks (request : Request) : Prop :=
  request.method = Method.get ∨ request.method = Method.options

def allowedMethods (request : Request) : HeaderValue :=
  if request.method = Method.get then
    HeaderValue.literal "GET"
  else
    HeaderValue.literal "OPTIONS, GET"

/-- The answer to a request of a refused origin.  No settings enter into it. -/
def refusal (request : Request) (response : Response) : Response :=
  if request.method = Method.get then
    (Cache.forbid response).withStatus .forbidden
  else
    response.withStatus .forbidden

variable
    {surroundings : Surroundings}
    {settings : ServiceSettings}
    {request : Request}
    {response : Response}

theorem ungranted_refusal (ungranted : Ungranted response) :
    Ungranted (refusal request response) := by
  have kept : Ungranted (Cache.forbid response) := ungranted.insert (by decide)
  unfold refusal
  split
  · exact kept
  · exact ungranted

theorem status_refusal : (refusal request response).status = .forbidden := by
  unfold refusal
  split
  · rfl
  · rfl

theorem refusal_empty :
    (refusal request {}).body = "" ∧ (refusal request {}).headers.values .contentType = [] := by
  unfold refusal
  split
  · exact ⟨rfl, rfl⟩
  · exact ⟨rfl, rfl⟩

theorem options_ne_get : Method.options ≠ Method.get := by decide

theorem ofString?_join_get :
    HeaderValue.ofString? (Method.join [.get]) = some (HeaderValue.literal "GET") := by
  decide

theorem ofString?_join_options :
    HeaderValue.ofString? (Method.join [.options, .get]) =
      some (HeaderValue.literal "OPTIONS, GET") := by
  decide

theorem respond_refused
    (asks : Asks request)
    (refused : Origin.isRequestAllowed request settings.allowedOrigins = false) :
    (respond surroundings settings request response).value = refusal request response := by
  have checked : ∀ list written,
      (check (Policy.ofSettings settings) request list written).value =
        (false, written.withStatus .forbidden) :=
    fun _ _ => check_refused refused
  rcases asks with get | options
  · simp [respond, refusal, get, checked]
  · simp [respond, refusal, options, options_ne_get, checked]

theorem respond_granting
    (asks : Asks request)
    {origin : HeaderValue}
    (present : request.headers.first? .origin = some origin)
    (allowed : Origin.isRequestAllowed request settings.allowedOrigins = true)
    (announced : settings.suppressCors = false)
    (plain : Plain response) :
    Grants origin (request.headers.values .accessControlRequestHeaders)
      (allowedMethods request) (respond surroundings settings request response).value := by
  have checked : ∀ list written, Plain written →
      (check (Policy.ofSettings settings) request list written).value =
        (true, grant request list written) :=
    fun _ _ => check_granted present allowed announced
  rcases asks with get | options
  · have kept : Plain (Cache.forbid response) := plain.insert (by decide)
    have granted := grants_grant kept present ofString?_join_get rfl
    simp only [respond, allowedMethods, get, if_true, Log.Logged.bind_value, checked _ _ kept]
    exact (granted.insert (by decide)).withBody _
  · have granted := grants_grant plain present ofString?_join_options rfl
    simp only [respond, allowedMethods, options, options_ne_get, if_true, if_false,
      Log.Logged.bind_value, checked _ _ plain]
    exact (granted.keepForYear _).withStatus (by decide)

theorem respond_plain
    (unannounced : Asks request →
      Origin.isRequestAllowed request settings.allowedOrigins = true ∧
        (request.headers.first? .origin = none ∨ settings.suppressCors = true))
    (plain : Plain response) :
    Plain (respond surroundings settings request response).value := by
  by_cases asks : Asks request
  · obtain ⟨allowed, reason⟩ := unannounced asks
    have checked : ∀ list written,
        (check (Policy.ofSettings settings) request list written).value = (true, written) :=
      fun _ _ => check_unannounced allowed reason
    rcases asks with get | options
    · have kept : Plain (Cache.forbid response) := plain.insert (by decide)
      simp only [respond, get, if_true, Log.Logged.bind_value, checked]
      exact (kept.insert (by decide)).withBody _
    · simp only [respond, options, options_ne_get, if_true, if_false, Log.Logged.bind_value,
        checked]
      exact (plain.ungranted.keepForYear _).withStatus (by decide)
  · rw [Asks, not_or] at asks
    rw [respond, if_neg asks.1, if_neg asks.2]
    exact plain_refuseMethod plain.ungranted _

end Info

/-! ## The other endpoints -/

theorem Iframe.respond_plain
    {request : Request} {response : Response} (clientLibraryUrl : String)
    (plain : Plain response) :
    Plain (respond clientLibraryUrl request response).value := by
  unfold respond
  split
  · dsimp only
    split
    · exact plain.ungranted.withStatus (by decide)
    · -- Four headers, none of a grant, and then the page.
      apply Plain.withBody
      apply Plain.insert _ (by decide)
      apply Plain.insert _ (by decide)
      apply Plain.insert _ (by decide)
      exact plain.insert (by decide)
  · exact plain_refuseMethod plain.ungranted _

namespace Service

variable
    {validate : String → String → String → Log.Logged Bool}
    {surroundings : Info.Surroundings}
    {settings : ServiceSettings}
    {description : Option String}
    {path : String}
    {path? : Option String}
    {request : Request}
    {response : Response}

theorem refuse_plain (plain : Plain response) (events : List Log.Event) :
    Plain (refuse events response).response :=
  plain.ungranted.withStatus (by decide)

theorem serveIframe_plain (plain : Plain response) :
    Plain (serveIframe settings description request response).response := by
  unfold serveIframe
  split
  · exact refuse_plain plain _
  · apply Iframe.respond_plain
    split
    · exact plain.insert (by decide)
    · exact plain

/-- Whatever is answered without a call to a collaborator is plain. -/
def Progress.ServesPlain : Progress → Prop
  | served outcome => Plain outcome.response
  | delegated _ _ => True

theorem serveRaw_plain (plain : Plain response) :
    (serveRaw settings description request response).ServesPlain := by
  unfold serveRaw
  split
  · trivial
  · exact plain

theorem serveSession_plain (context : SessionContext) (plain : Plain response) :
    (serveSession validate context description response).ServesPlain := by
  unfold serveSession
  split
  · exact refuse_plain plain _
  · dsimp only
    split
    · trivial
    · exact refuse_plain plain _

theorem dispatch_plain (other : Path.classify path ≠ .info) (plain : Plain response) :
    (dispatch validate surroundings settings description path request
      response).ServesPlain := by
  unfold dispatch
  split
  · exact (plain.insert (by decide)).withBody _
  · next info => exact absurd info other
  · exact serveIframe_plain plain
  · exact serveRaw_plain plain
  · exact serveSession_plain _ plain
  · exact refuse_plain plain _

/-! ## The verdict on a request -/

/-- The request asks for the capabilities of the service. -/
def Queries (path? : Option String) (request : Request) : Prop :=
  path?.map Path.classify = some .info ∧ Info.Asks request

/-- No collaborator writes a header of a grant. -/
def Collaborators.WriteNoGrant (collaborators : Collaborators) : Prop :=
  ∀ request response call,
    Ungranted response → Ungranted (collaborators.reply request response call).response

/-- What the origin policy makes of a request. -/
inductive Verdict (settings : ServiceSettings) (path? : Option String) (request : Request) : Prop
  | granted (origin : HeaderValue)
      (queries : Queries path? request)
      (present : request.headers.first? .origin = some origin)
      (allowed : Origin.isRequestAllowed request settings.allowedOrigins = true)
      (announced : settings.suppressCors = false)
  | refused
      (queries : Queries path? request)
      (refused : Origin.isRequestAllowed request settings.allowedOrigins = false)
  /-- The policy is not asked, or there is nothing to announce. -/
  | silent
      (unannounced : Queries path? request →
        Origin.isRequestAllowed request settings.allowedOrigins = true ∧
          (request.headers.first? .origin = none ∨ settings.suppressCors = true))

theorem verdict (settings : ServiceSettings) (path? : Option String) (request : Request) :
    Verdict settings path? request := by
  by_cases queries : Queries path? request
  · cases allowed : Origin.isRequestAllowed request settings.allowedOrigins with
    | false => exact .refused queries allowed
    | true =>
        cases present : request.headers.first? .origin with
        | none => exact .silent fun _ => ⟨allowed, Or.inl present⟩
        | some origin =>
            cases suppressed : settings.suppressCors with
            | false => exact .granted origin queries present allowed suppressed
            | true => exact .silent fun _ => ⟨allowed, Or.inr suppressed⟩
  · exact .silent fun queried => absurd queried queries

theorem contains_origin_iff :
    request.headers.contains .origin = true ↔
      ∃ origin, request.headers.first? .origin = some origin := by
  rw [Headers.contains, Headers.first?]
  cases request.headers.values .origin <;> simp

/-- The value that is echoed is the one the policy was asked about, and it can be read. -/
theorem isAllowed_of_isRequestAllowed
    {origin : HeaderValue} {allowList : List String}
    (present : request.headers.first? .origin = some origin)
    (allowed : Origin.isRequestAllowed request allowList = true) :
    ∃ text, origin.text? = some text ∧
      Origin.isAllowed (some text) allowList (ServerOrigin.ofRequest? request) = true := by
  cases readable : origin.text? with
  | none =>
      rw [Origin.isRequestAllowed_of_unreadable present readable] at allowed
      cases allowed
  | some text =>
      rw [Origin.isRequestAllowed_of_text? present readable] at allowed
      exact ⟨text, rfl, allowed⟩

/-! ## The answer to a request -/

section Answers

variable
    (collaborators : Collaborators)
    (surroundings : Info.Surroundings)
    (threshold : Log.Level)

theorem handle_info_response (classified : path?.map Path.classify = some .info) :
    (handle collaborators surroundings threshold settings path? request response).response =
      (Info.respond surroundings settings request response).value := by
  obtain ⟨path, rfl, info⟩ := Option.map_eq_some_iff.mp classified
  simp only [handle, dispatch, info, Progress.complete, account]

/-- Any other answer is plain, or it is the reply of the collaborator that was asked. -/
theorem handle_plain_or_replied
    (other : path?.map Path.classify ≠ some .info) (plain : Plain response) :
    Plain
        (handle collaborators surroundings threshold settings path? request
          response).response ∨
      ∃ call,
        (handle collaborators surroundings threshold settings path? request
            response).calls = [call] ∧
          (handle collaborators surroundings threshold settings path? request
              response).response =
            (collaborators.reply request response call).response := by
  cases path? with
  | none => exact Or.inl (refuse_plain plain _)
  | some path =>
      have notInfo : Path.classify path ≠ .info := by simpa using other
      have served :=
        @dispatch_plain collaborators.validate surroundings settings
          (description? threshold request) path request response notInfo plain
      simp only [handle]
      generalize dispatch collaborators.validate surroundings settings
          (description? threshold request) path request response = progress at served ⊢
      cases progress with
      | served outcome => exact Or.inl served
      | delegated call events => exact Or.inr ⟨call, rfl, rfl⟩

theorem handle_granting
    (queries : Queries path? request)
    {origin : HeaderValue}
    (present : request.headers.first? .origin = some origin)
    (allowed : Origin.isRequestAllowed request settings.allowedOrigins = true)
    (announced : settings.suppressCors = false)
    (plain : Plain response) :
    Grants origin (request.headers.values .accessControlRequestHeaders)
      (Info.allowedMethods request)
      (handle collaborators surroundings threshold settings path? request
        response).response := by
  rw [handle_info_response collaborators surroundings threshold queries.1]
  exact Info.respond_granting queries.2 present allowed announced plain

theorem handle_refused
    (queries : Queries path? request)
    (refused : Origin.isRequestAllowed request settings.allowedOrigins = false) :
    (handle collaborators surroundings threshold settings path? request response).response =
      Info.refusal request response := by
  rw [handle_info_response collaborators surroundings threshold queries.1]
  exact Info.respond_refused queries.2 refused

theorem handle_silent
    (writeNoGrant : collaborators.WriteNoGrant)
    (unannounced : Queries path? request →
      Origin.isRequestAllowed request settings.allowedOrigins = true ∧
        (request.headers.first? .origin = none ∨ settings.suppressCors = true))
    (plain : Plain response) :
    let outcome :=
      handle collaborators surroundings threshold settings path? request response
    Ungranted outcome.response ∧
      (outcome.response.status = .forbidden →
        ∃ call ∈ outcome.calls,
          (collaborators.reply request response call).response.status = .forbidden) := by
  intro outcome
  by_cases classified : path?.map Path.classify = some .info
  · have answered : Plain outcome.response := by
      simp only [outcome, handle_info_response collaborators surroundings threshold classified]
      exact Info.respond_plain (fun asks => unannounced ⟨classified, asks⟩) plain
    exact ⟨answered.ungranted, fun forbidden => absurd forbidden answered.permitted⟩
  · rcases handle_plain_or_replied collaborators surroundings threshold classified plain with
      answered | ⟨call, called, replied⟩
    · exact ⟨answered.ungranted, fun forbidden => absurd forbidden answered.permitted⟩
    · have calls : outcome.calls = [call] := called
      have same : outcome.response = (collaborators.reply request response call).response :=
        replied
      rw [same, calls]
      exact
        ⟨writeNoGrant request response call plain.ungranted,
          fun forbidden => ⟨call, List.mem_singleton_self call, forbidden⟩⟩

theorem handle_ungranted
    (writeNoGrant : collaborators.WriteNoGrant)
    (withheld : ¬(Queries path? request ∧ request.headers.contains .origin = true ∧
      Origin.isRequestAllowed request settings.allowedOrigins = true ∧
        settings.suppressCors = false))
    (plain : Plain response) :
    Ungranted
      (handle collaborators surroundings threshold settings path? request
        response).response := by
  rcases verdict settings path? request with
    ⟨origin, queries, present, allowed, announced⟩ | ⟨queries, refused⟩ | ⟨unannounced⟩
  · have named := contains_origin_iff.mpr ⟨origin, present⟩
    exact absurd ⟨queries, named, allowed, announced⟩ withheld
  · rw [handle_refused collaborators surroundings threshold queries refused]
    exact Info.ungranted_refusal plain.ungranted
  · exact
      (handle_silent collaborators surroundings threshold writeNoGrant unannounced plain).1

theorem handle_forbidden_iff
    (writeNoGrant : collaborators.WriteNoGrant) (plain : Plain response) :
    let outcome :=
      handle collaborators surroundings threshold settings path? request response
    outcome.response.status = .forbidden ↔
      (Queries path? request ∧
          Origin.isRequestAllowed request settings.allowedOrigins = false) ∨
        ∃ call ∈ outcome.calls,
          (collaborators.reply request response call).response.status = .forbidden := by
  intro outcome
  constructor
  · intro forbidden
    rcases verdict settings path? request with
      ⟨origin, queries, present, allowed, announced⟩ | ⟨queries, refused⟩ | ⟨unannounced⟩
    · have grants :=
        handle_granting collaborators surroundings threshold queries present allowed
          announced plain
      exact absurd forbidden grants.permitted
    · exact Or.inl ⟨queries, refused⟩
    · have silent :=
        handle_silent collaborators surroundings threshold writeNoGrant unannounced plain
      exact Or.inr (silent.2 forbidden)
  · rintro (⟨queries, refused⟩ | ⟨call, member, forbidden⟩)
    · simp only [outcome,
        handle_refused collaborators surroundings threshold queries refused]
      exact Info.status_refusal
    · rw [(replied_of_mem member).response]
      exact forbidden

end Answers

theorem plain_empty : Plain {} where
  ungranted := fun _ _ => rfl
  permitted := by decide

/--
Cross-origin grants are given exactly when the policy allows them.

A page may read the answer if its request is one for the capabilities, names
an origin that the allow-list admits, and grants are not suppressed.  The
answer then echoes the first origin of the request, the one that was checked,
and carries the rest of the grant; any other answer carries no part of one.
A refused origin gets an empty 403.  The service itself gives no other 403; a
collaborator that is asked chooses its own status.
-/
theorem handle_grants_iff
    (collaborators : Collaborators) (surroundings : Info.Surroundings)
    (threshold : Log.Level) (settings : ServiceSettings) (path? : Option String)
    (request : Request) (writeNoGrant : collaborators.WriteNoGrant) :
    let outcome := handle collaborators surroundings threshold settings path? request {}
    (outcome.response.headers.contains .accessControlAllowOrigin = true ↔
        Queries path? request ∧ request.headers.contains .origin = true ∧
          Origin.isRequestAllowed request settings.allowedOrigins = true ∧
            settings.suppressCors = false) ∧
      (outcome.response.headers.contains .accessControlAllowOrigin = true →
        ∃ origin text,
          request.headers.first? .origin = some origin ∧
            origin.text? = some text ∧
              Origin.isAllowed (some text) settings.allowedOrigins
                  (ServerOrigin.ofRequest? request) = true ∧
                Grants origin (request.headers.values .accessControlRequestHeaders)
                  (if request.method = Method.get then HeaderValue.literal "GET"
                    else HeaderValue.literal "OPTIONS, GET")
                  outcome.response) ∧
      (outcome.response.headers.contains .accessControlAllowOrigin = false →
        ∀ name ∈ grantNames, outcome.response.headers.values name = []) ∧
      (outcome.response.status = .forbidden ↔
        (Queries path? request ∧
            Origin.isRequestAllowed request settings.allowedOrigins = false) ∨
          ∃ call ∈ outcome.calls,
            (collaborators.reply request {} call).response.status = .forbidden) ∧
      (Queries path? request →
        Origin.isRequestAllowed request settings.allowedOrigins = false →
          outcome.response.body = "" ∧
            outcome.response.headers.values .contentType = []) := by
  intro outcome
  have granting : ∀ origin,
      Queries path? request →
        request.headers.first? .origin = some origin →
          Origin.isRequestAllowed request settings.allowedOrigins = true →
            settings.suppressCors = false →
              Grants origin (request.headers.values .accessControlRequestHeaders)
                (Info.allowedMethods request) outcome.response := by
    intro origin queries present allowed announced
    exact
      handle_granting collaborators surroundings threshold queries present allowed announced
        plain_empty
  have granted :
      outcome.response.headers.contains .accessControlAllowOrigin = true ↔
        Queries path? request ∧ request.headers.contains .origin = true ∧
          Origin.isRequestAllowed request settings.allowedOrigins = true ∧
            settings.suppressCors = false := by
    constructor
    · intro written
      by_contra withheld
      have ungranted : Ungranted outcome.response :=
        handle_ungranted collaborators surroundings threshold writeNoGrant withheld plain_empty
      rw [ungranted.contains] at written
      cases written
    · rintro ⟨queries, named, allowed, announced⟩
      obtain ⟨origin, present⟩ := contains_origin_iff.mp named
      exact (granting origin queries present allowed announced).contains
  refine ⟨granted, ?_, ?_, ?_, ?_⟩
  · intro written
    obtain ⟨queries, named, allowed, announced⟩ := granted.mp written
    obtain ⟨origin, present⟩ := contains_origin_iff.mp named
    obtain ⟨text, readable, admitted⟩ := isAllowed_of_isRequestAllowed present allowed
    exact
      ⟨origin, text, present, readable, admitted,
        granting origin queries present allowed announced⟩
  · intro absent
    apply handle_ungranted collaborators surroundings threshold writeNoGrant _ plain_empty
    intro conditions
    rw [granted.mpr conditions] at absent
    cases absent
  · exact handle_forbidden_iff collaborators surroundings threshold writeNoGrant plain_empty
  · intro queries refused
    simp only [outcome, handle_refused collaborators surroundings threshold queries refused]
    exact Info.refusal_empty

end Service

/-! ## The WebSocket endpoints -/

namespace WebSocket

open Service

theorem takeOver_ungranted {ε : Type} (request : Request) :
    Ungranted (takeOver request : Reply ε).response := by
  intro name member
  simp only [grantNames, List.mem_cons, List.not_mem_nil, or_false] at member
  unfold takeOver
  split
  · dsimp only [accepted]
    split
    · rcases member with rfl | rfl | rfl | rfl | rfl <;> rfl
    · rcases member with rfl | rfl | rfl | rfl | rfl <;> rfl
  · rcases member with rfl | rfl | rfl | rfl | rfl <;> rfl

theorem writeNoGrant_collaborators : collaborators.WriteNoGrant := by
  intro request response call ungranted
  cases call with
  | raw asked => exact takeOver_ungranted request
  | session context =>
      change Ungranted (serveSession context request response).response
      unfold serveSession
      split
      · exact ungranted
      · split
        · exact takeOver_ungranted request
        · exact ungranted
      · exact ungranted

end WebSocket

namespace Service

/-- A preflight with two origins, of which only the first is on the allow-list. -/
def preflight : Request where
  method := Method.options
  headers :=
    ⟨[(.origin, HeaderValue.literal "https://client.example"),
      (.origin, HeaderValue.literal "https://other.example"),
      (.accessControlRequestHeaders, HeaderValue.literal "Last-Event-ID"),
      (.accessControlRequestHeaders, HeaderValue.literal "X-Custom")]⟩

theorem handle_grants_iff_preflight :
    let settings : ServiceSettings :=
      { name := "gateway", allowedOrigins := ["https://client.example"] }
    let outcome := handle WebSocket.collaborators { now := 0, entropy := 0 } .error settings
      (some "/%69nfo") preflight {}
    WebSocket.collaborators.WriteNoGrant ∧
      outcome.response.headers.contains .accessControlAllowOrigin = true ∧
        ∃ origin text,
          preflight.headers.first? .origin = some origin ∧
            origin.text? = some text ∧
              Origin.isAllowed (some text) settings.allowedOrigins
                  (ServerOrigin.ofRequest? preflight) = true ∧
                Grants origin
                  [HeaderValue.literal "Last-Event-ID", HeaderValue.literal "X-Custom"]
                  (HeaderValue.literal "OPTIONS, GET") outcome.response := by
  intro settings outcome
  have law :=
    handle_grants_iff WebSocket.collaborators { now := 0, entropy := 0 } .error settings
      (some "/%69nfo") preflight WebSocket.writeNoGrant_collaborators
  have classified : Path.classify "/%69nfo" = .info := by decide
  have queries : Queries (some "/%69nfo") preflight :=
    ⟨by rw [Option.map_some, classified], Or.inr rfl⟩
  have allowed : Origin.isRequestAllowed preflight settings.allowedOrigins = true := by decide
  have granted : outcome.response.headers.contains .accessControlAllowOrigin = true :=
    law.1.mpr ⟨queries, by decide, allowed, rfl⟩
  exact ⟨WebSocket.writeNoGrant_collaborators, granted, law.2.1 granted⟩

end Service

end SessionGateway
