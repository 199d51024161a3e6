import SessionGateway.Proofs.ConditionalPage
import SessionGateway.Proofs.Origin.Policy

/-!
# Framing of the bootstrap page

The bootstrap page cannot check which site has framed it, so the service decides
by its allow-list alone whether the page may be framed.  The origin policy reads
the same list for one origin at a time.  The two agree:
`Service.Deployment.page_framing` derives the three answers to a request for the
page from what the policy says about all origins there are.
-/

namespace SessionGateway

open Http

namespace Iframe

/-! ## The answer for the page -/

/-- The page of a URL is served: whole, or left out for a client that names its tag. -/
inductive Serves (url : String) (request : Request) (response : Response) : Prop where
  | whole (page : CarriesPage url (etagValue (Text.octets (page url))) response)
  | known
      (names : Names request.headers (String.ofList (etag (Text.octets (page url)))))
      (status : response.status = .notModified) (nothing : CarriesNothing response)

variable
    {url : String}
    {request : Request}
    {response : Response}

theorem serves_respond
    (get : request.method = Method.get) (fresh : response.status = .ok)
    (nothing : CarriesNothing response) :
    Serves url request (respond url request response).value := by
  have answers := @answers_respond url request response fresh nothing
  rcases names_or_misses request.headers
      (String.ofList (etag (Text.octets (page url)))) with names | misses
  · obtain ⟨status, nothing⟩ := answers.known get names
    exact .known names status nothing
  · exact .whole (answers.missed get misses)

theorem Serves.status (serves : Serves url request response) :
    response.status = .ok ∨ response.status = .notModified := by
  cases serves with
  | whole page => exact Or.inl page.status
  | known names status nothing => exact Or.inr status

theorem Serves.status_ne_notFound (serves : Serves url request response) :
    response.status ≠ .notFound := by
  rcases serves.status with status | status
  all_goals
    rw [status]
    decide

/-- The page says nothing itself about who may frame it. -/
theorem xFrameOptions_respond (get : request.method = Method.get) :
    (respond url request response).value.headers.values .xFrameOptions =
      response.headers.values .xFrameOptions := by
  have different : HeaderName.xFrameOptions ≠ .contentType ∧
      HeaderName.xFrameOptions ≠ .contentLength ∧
        HeaderName.xFrameOptions ≠ .cacheControl ∧ HeaderName.xFrameOptions ≠ .etag := by
    decide
  obtain ⟨type, length, cache, tag⟩ := different
  rw [respond, if_pos get]
  dsimp only
  split
  · rfl
  · apply (Headers.values_insert_other _ _ tag).trans
    apply (Headers.values_insert_other _ _ cache).trans
    apply (Headers.values_insert_other _ _ length).trans
    exact Headers.values_insert_other _ _ type

end Iframe

/-! ## The three modes of a service -/

namespace Service.Deployment

variable
    {deployment : Deployment}
    {path file : String}
    {request : Request}

theorem restrictsOrigins_iff {settings : ServiceSettings} :
    settings.restrictsOrigins = true ↔
      settings.allowedOrigins ≠ [] ∧ "*" ∉ settings.allowedOrigins := by
  simp [ServiceSettings.restrictsOrigins, ServiceSettings.allowsAnyOrigin]

/-- An unrestricted service serves the page, and says who may frame it if it has no list. -/
theorem handle_unrestricted
    (classified : Path.classify path = .iframe file)
    (get : request.method = Method.get)
    (unrestricted : deployment.settings.restrictsOrigins = false) :
    let outcome := deployment.handle (some path) request {}
    Iframe.Serves deployment.settings.clientLibraryUrl request outcome.response ∧
      outcome.failure = none ∧
        outcome.response.headers.values .xFrameOptions =
          if deployment.settings.allowedOrigins.isEmpty then
            [HeaderValue.literal "SAMEORIGIN"]
          else
            [] := by
  have nothing : Iframe.CarriesNothing {} := ⟨rfl, rfl, rfl, rfl⟩
  simp only [handle, Service.handle, dispatch, classified, serveIframe, unrestricted,
    Bool.false_eq_true, if_false]
  by_cases unlisted : deployment.settings.allowedOrigins.isEmpty = true
  · rw [if_pos unlisted, if_pos unlisted]
    refine ⟨Iframe.serves_respond get rfl (nothing.insert (by decide)), rfl, ?_⟩
    exact (Iframe.xFrameOptions_respond get).trans (Headers.values_insert_same _ _ _)
  · rw [if_neg unlisted, if_neg unlisted]
    exact ⟨Iframe.serves_respond get rfl nothing, rfl, Iframe.xFrameOptions_respond get⟩

/--
Who may frame the bootstrap page is what the origin policy says about all
origins.

A `GET` for the page of a service, on a fresh response, never fails, and a 200
or a 304 is the page.  It is served to frames of any site if and only if the
policy accepts every origin, whatever the own one is; it is refused, with a 404
that carries neither a frame option nor a tag, if and only if the list has
entries and the policy refuses some origin; and it is served to frames of its
own site if and only if the list is empty.
-/
theorem page_framing
    (deployment : Deployment) (path file : String) (request : Request)
    (classified : Path.classify path = .iframe file)
    (get : request.method = Method.get) :
    let allowed := deployment.settings.allowedOrigins
    let outcome := deployment.handle (some path) request {}
    let served :=
      Iframe.Serves deployment.settings.clientLibraryUrl request outcome.response
    let options := outcome.response.headers.values .xFrameOptions
    outcome.failure = none ∧
      (served ↔ outcome.response.status = .ok ∨ outcome.response.status = .notModified) ∧
      (served ∧ options = [] ↔
        ∀ origin own?, Origin.isAllowed (some origin) allowed own? = true) ∧
      (outcome.response.status = .notFound ∧ options = [] ∧
          outcome.response.headers.values .etag = [] ↔
        allowed ≠ [] ∧ ∃ origin own?, Origin.isAllowed (some origin) allowed own? = false) ∧
      (served ∧ options = [HeaderValue.literal "SAMEORIGIN"] ↔ allowed = []) := by
  intro allowed outcome served options
  rw [Origin.forall_isAllowed_iff, Origin.exists_isAllowed_eq_false_iff]
  cases restricted : deployment.settings.restrictsOrigins with
  | true =>
      obtain ⟨listed, unnamed⟩ := restrictsOrigins_iff.mp restricted
      obtain ⟨response, failure⟩ : outcome.response = { status := .notFound } ∧
          outcome.failure = none :=
        handle_refuses (.iframe classified restricted) {}
      have missing : outcome.response.status = .notFound := congrArg Response.status response
      have refused : ¬served := fun serves => serves.status_ne_notFound missing
      have bare : outcome.response.status = .notFound ∧ options = [] ∧
          outcome.response.headers.values .etag = [] := by
        dsimp only [options]
        rw [response]
        exact ⟨rfl, rfl, rfl⟩
      refine ⟨failure, iff_of_false refused ?_, ?_, ?_, ?_⟩
      · rw [missing]
        decide
      · exact iff_of_false (fun both => refused both.1) unnamed
      · exact iff_of_true bare ⟨listed, unnamed⟩
      · exact iff_of_false (fun both => refused both.1) listed
  | false =>
      obtain ⟨serves, failure, framed⟩ := handle_unrestricted classified get restricted
      have found : outcome.response.status ≠ .notFound := serves.status_ne_notFound
      refine ⟨failure, iff_of_true serves serves.status, ?_⟩
      by_cases unlisted : allowed = []
      · have own : options = [HeaderValue.literal "SAMEORIGIN"] :=
          framed.trans (if_pos (List.isEmpty_iff.mpr unlisted))
        rw [own, unlisted]
        refine ⟨?_, ?_, ?_⟩
        · exact iff_of_false (fun both => List.cons_ne_nil _ _ both.2) List.not_mem_nil
        · exact iff_of_false (fun all => found all.1) (fun both => both.1 rfl)
        · exact iff_of_true ⟨serves, rfl⟩ rfl
      · have named : "*" ∈ allowed := by
          by_contra unnamed
          rw [restrictsOrigins_iff.mpr ⟨unlisted, unnamed⟩] at restricted
          cases restricted
        have any : options = [] := framed.trans (if_neg (mt List.isEmpty_iff.mp unlisted))
        rw [any]
        refine ⟨?_, ?_, ?_⟩
        · exact iff_of_true ⟨serves, rfl⟩ named
        · exact iff_of_false (fun all => found all.1) (fun both => both.2 named)
        · exact iff_of_false (fun both => List.cons_ne_nil _ _ both.2.symm) unlisted

/-- A service with a `*` behind an entry, one with the entry alone, and one without a list. -/
theorem page_framing_modes :
    let deployment (allowed : List String) : Deployment :=
      { collaborators := WebSocket.collaborators
        surroundings := { now := 0, entropy := 0 }
        threshold := .error
        settings := { name := "", allowedOrigins := allowed } }
    let answer (allowed : List String) : Response :=
      ((deployment allowed).handle (some "/iframe-1.html") {} {}).response
    (answer ["https://a.example", "*"]).headers.values .xFrameOptions = [] ∧
      (answer ["https://a.example"]).status = .notFound ∧
        (answer []).headers.values .xFrameOptions = [HeaderValue.literal "SAMEORIGIN"] := by
  intro deployment answer
  have classified : Path.classify "/iframe-1.html" = .iframe "iframe-1.html" := by decide
  have framing (allowed : List String) :=
    page_framing (deployment allowed) "/iframe-1.html" "iframe-1.html" {} classified rfl
  obtain ⟨-, -, any, -, -⟩ := framing ["https://a.example", "*"]
  obtain ⟨-, -, -, restricted, -⟩ := framing ["https://a.example"]
  obtain ⟨-, -, -, -, own⟩ := framing []
  refine ⟨?_, ?_, ?_⟩
  · exact (any.mpr fun origin own? => Origin.isAllowed_of_named (by decide) origin own?).2
  · refine (restricted.mpr ⟨List.cons_ne_nil _ _, ?_⟩).1
    exact ⟨"https://b.example", none, by decide⟩
  · exact (own.mpr rfl).2

end Service.Deployment

end SessionGateway
