import Mathlib.Logic.Function.Iterate
import SessionGateway.Proofs.ConditionalPage
import SessionGateway.Proofs.Http.Insertion
import SessionGateway.Proofs.UpgradeGate

/-!
# Answering twice

A response may pass through several layers, so an endpoint may find one that was
answered before, by itself or by others.  What it writes then is what is there
already.

Most headers are put in the place of any of their name, which can be repeated.
A grant is added behind what is there; but a check looks for
`Access-Control-Allow-Origin` first, and `Vary` is searched for `Origin`.
`Cors.Settled` and `Cache.KeptForYear` say which responses leave a check and the
cache headers nothing to write, whatever else is in them; and every response is
of this kind once it was written to.
-/

namespace SessionGateway

open Http

/-! ## Cache headers -/

namespace Cache

variable {now : Nat} {response written : Response}

/-- Keeping is forbidden once. -/
theorem forbid_of_values
    (same : written.headers.values .cacheControl =
      (forbid response).headers.values .cacheControl) :
    forbid written = written :=
  Response.insert_of_values (same.trans (Headers.values_insert_same _ _ _))

/-- Everything is there that lets a response be kept for a year. -/
structure KeptForYear (now : Nat) (response : Response) : Prop where
  control :
    response.headers.values .cacheControl = [HeaderValue.literal "public, max-age=31536000"]
  expires : ∀ expires, HeaderValue.ofString? (Date.text (now + oneYear)) = some expires →
    response.headers.values .expires = [expires]
  vary : (response.headers.values .vary).any namesOrigin = true

theorem keptForYear_keepForYear (now : Nat) (response : Response) :
    KeptForYear now (keepForYear now response) where
  control := by
    rw [keepForYear, Cors.values_varyOnOrigin (by decide)]
    split
    · exact (Headers.values_insert_other _ _ (by decide)).trans
        (Headers.values_insert_same _ _ _)
    · exact Headers.values_insert_same _ _ _
  expires expires spelled := by
    simp only [keepForYear, spelled]
    rw [Cors.values_varyOnOrigin (by decide)]
    exact Headers.values_insert_same _ _ _
  vary := by
    unfold keepForYear
    exact Cors.any_namesOrigin_varyOnOrigin _

theorem KeptForYear.withStatus (kept : KeptForYear now response) (status : Status) :
    KeptForYear now (response.withStatus status) :=
  { kept with }

theorem KeptForYear.keepForYear_eq (kept : KeptForYear now response) :
    keepForYear now response = response := by
  have control := Response.insert_of_values kept.control
  cases spelled : HeaderValue.ofString? (Date.text (now + oneYear)) with
  | none =>
      simp only [keepForYear, control, spelled]
      rw [varyOnOrigin, if_pos kept.vary]
  | some expires =>
      simp only [keepForYear, control, spelled]
      rw [Response.insert_of_values (kept.expires expires spelled), varyOnOrigin,
        if_pos kept.vary]

theorem status_keepForYear : (keepForYear now response).status = response.status := by
  simp only [keepForYear, Cors.status_varyOnOrigin]
  split
  · rfl
  · rfl

theorem values_keepForYear {name : HeaderName}
    (different : name ≠ .cacheControl ∧ name ≠ .expires ∧ name ≠ .vary) :
    (keepForYear now response).headers.values name = response.headers.values name := by
  simp only [keepForYear, Cors.values_varyOnOrigin different.2.2]
  split
  · exact (Headers.values_insert_other _ _ different.2.1).trans
      (Headers.values_insert_other _ _ different.1)
  · exact Headers.values_insert_other _ _ different.1

end Cache

/-! ## The check of the origin -/

namespace Cors

variable
    {policy : Policy}
    {request : Request}
    {response : Response}
    {methods : List Method}

theorem values_grantMethods
    {name : HeaderName}
    (different : .accessControlAllowMethods ≠ name ∧ .accessControlMaxAge ≠ name) :
    (grantMethods methods response).headers.values name = response.headers.values name := by
  unfold grantMethods
  split
  · rfl
  · dsimp only
    rw [values_append, if_neg different.2, List.append_nil]
    split
    · rw [values_append, if_neg different.1, List.append_nil]
    · rfl

/-- A grant names the origin of the request, if there is one. -/
theorem contains_grant {origin : HeaderValue}
    (present : request.headers.first? .origin = some origin) :
    (grant request methods response).headers.contains .accessControlAllowOrigin = true := by
  have written :
      (grant request methods response).headers.values .accessControlAllowOrigin =
        response.headers.values .accessControlAllowOrigin ++ [origin] := by
    simp only [grant, present]
    rw [values_varyOnOrigin (by decide), values_grantMethods (by decide), values_foldl_append,
      if_neg (by decide), values_append, if_neg (by decide), values_append, if_pos rfl,
      List.append_nil, List.append_nil]
  rw [Headers.contains, written]
  simp

theorem values_grant_of_not_mem {name : HeaderName} (other : name ∉ .vary :: grantNames) :
    (grant request methods response).headers.values name = response.headers.values name := by
  have different (written : HeaderName) (member : written ∈ .vary :: grantNames) :
      written ≠ name := by
    rintro rfl
    exact other member
  simp only [grant]
  rw [values_varyOnOrigin (different _ (by decide)).symm,
    values_grantMethods ⟨different _ (by decide), different _ (by decide)⟩,
    values_foldl_append, if_neg (different _ (by decide)), values_append,
    if_neg (different _ (by decide)), List.append_nil, List.append_nil]
  split
  · rw [values_append, if_neg (different _ (by decide)), List.append_nil]
  · rfl

theorem values_check_of_not_mem {name : HeaderName} (other : name ∉ .vary :: grantNames) :
    (check policy request methods response).value.2.headers.values name =
      response.headers.values name := by
  unfold check
  split
  · rfl
  · split
    · split
      · rfl
      · exact values_grant_of_not_mem other
    · rfl

/-- There is nothing left for a check to write: no refusal, and no grant. -/
structure Settled (policy : Policy) (request : Request) (response : Response) : Prop where
  refused : Origin.isRequestAllowed request policy.allowedOrigins = false →
    response.status = .forbidden
  announced : Origin.isRequestAllowed request policy.allowedOrigins = true →
    request.headers.contains .origin = true → policy.suppress = false →
      response.headers.contains .accessControlAllowOrigin = true

theorem value_check_fst :
    (check policy request methods response).value.1 =
      Origin.isRequestAllowed request policy.allowedOrigins := by
  cases allowed : Origin.isRequestAllowed request policy.allowedOrigins with
  | false => rw [check_refused allowed]
  | true => exact WebSocket.check_served allowed methods response

theorem settled_check (policy : Policy) (request : Request) (methods : List Method)
    (response : Response) :
    Settled policy request (check policy request methods response).value.2 where
  refused refused := by
    rw [check_refused refused]
    rfl
  announced allowed named announced := by
    obtain ⟨origin, present⟩ := Service.contains_origin_iff.mp named
    simp only [check, present, allowed, announced, if_true, Bool.false_or]
    split
    · next written => exact written
    · exact contains_grant present

theorem Settled.check_eq (settled : Settled policy request response) :
    (check policy request methods response).value =
      (Origin.isRequestAllowed request policy.allowedOrigins, response) := by
  cases allowed : Origin.isRequestAllowed request policy.allowedOrigins with
  | false =>
      rw [check_refused allowed, Response.withStatus, ← settled.refused allowed]
  | true =>
      unfold check
      split
      · rfl
      · next origin present =>
          rw [if_pos allowed]
          split
          · rfl
          · next unwritten =>
              have named := Service.contains_origin_iff.mpr ⟨origin, present⟩
              rw [Bool.or_eq_true, not_or, Bool.not_eq_true] at unwritten
              exact absurd (settled.announced allowed named unwritten.1) unwritten.2

theorem Settled.insert
    (settled : Settled policy request response) {name : HeaderName}
    (different : .accessControlAllowOrigin ≠ name) (value : HeaderValue) :
    Settled policy request (response.insert name value) where
  refused := settled.refused
  announced allowed named announced := by
    rw [Headers.contains, Response.insert, Headers.values_insert_other _ _ different]
    exact settled.announced allowed named announced

theorem Settled.withBody (settled : Settled policy request response) (body : String) :
    Settled policy request (response.withBody body) :=
  { settled with }

theorem Settled.withStatus
    (settled : Settled policy request response)
    (allowed : Origin.isRequestAllowed request policy.allowedOrigins = true) (status : Status) :
    Settled policy request (response.withStatus status) where
  refused refused := by
    rw [allowed] at refused
    cases refused
  announced := settled.announced

theorem Settled.keepForYear (settled : Settled policy request response) (now : Nat) :
    Settled policy request (Cache.keepForYear now response) := by
  constructor
  · intro refused
    rw [Cache.status_keepForYear]
    exact settled.refused refused
  · intro allowed named announced
    rw [Headers.contains, Cache.values_keepForYear (by decide)]
    exact settled.announced allowed named announced

/-- Whatever number of checks went before, a check gives what the first one gave. -/
theorem check_iterate (count : Nat) :
    (check policy request methods
        ((fun found => (check policy request methods found).value.2)^[count] response)).value =
      (check policy request methods response).value := by
  have settled := settled_check policy request methods response
  have first : (check policy request methods response).value =
      (Origin.isRequestAllowed request policy.allowedOrigins,
        (check policy request methods response).value.2) :=
    Prod.ext value_check_fst rfl
  cases count with
  | zero => rfl
  | succ count =>
      have fixed : (check policy request methods
          (check policy request methods response).value.2).value.2 =
            (check policy request methods response).value.2 := by
        rw [settled.check_eq]
      rw [Function.iterate_succ_apply, Function.iterate_fixed fixed, settled.check_eq, ← first]

end Cors

/-! ## The endpoints -/

theorem Http.refuseMethod_refuseMethod (allowed : List Method) (response : Response) :
    (refuseMethod allowed (refuseMethod allowed response).value).value =
      (refuseMethod allowed response).value := by
  cases joined : HeaderValue.ofString? (Method.join allowed) with
  | none => simp [refuseMethod, joined, Response.withStatus]
  | some value =>
      have alone := Headers.values_insert_same response.headers .allow value
      simp [refuseMethod, joined, Response.withStatus, Response.insert,
        Headers.insert_of_values alone]

namespace Info

open Cors

variable
    {surroundings first second : Surroundings}
    {settings : ServiceSettings}
    {request : Request}
    {response written : Response}

theorem respond_get
    (get : request.method = Method.get)
    (allowed : Origin.isRequestAllowed request settings.allowedOrigins = true) :
    (respond surroundings settings request response).value =
      ((check (Policy.ofSettings settings) request [.get] (Cache.forbid response)).value.2.insert
        .contentType contentType).withBody (body settings surroundings.entropy) := by
  have served :
      (check (Policy.ofSettings settings) request [.get] (Cache.forbid response)).value.1 =
        true :=
    value_check_fst.trans allowed
  rw [respond, if_pos get, Log.Logged.bind_value]
  dsimp only
  rw [if_pos served]
  rfl

theorem respond_options
    (options : request.method = Method.options)
    (allowed : Origin.isRequestAllowed request settings.allowedOrigins = true) :
    (respond surroundings settings request response).value =
      (Cache.keepForYear surroundings.now
        (check (Policy.ofSettings settings) request [.options, .get]
          response).value.2).withStatus .noContent := by
  have served :
      (check (Policy.ofSettings settings) request [.options, .get] response).value.1 = true :=
    value_check_fst.trans allowed
  rw [respond, if_neg (options ▸ options_ne_get), if_pos options, Log.Logged.bind_value]
  dsimp only
  rw [if_pos served]
  rfl

/-- The capabilities are written again over themselves. -/
theorem respond_get_of_settled
    (get : request.method = Method.get)
    (allowed : Origin.isRequestAllowed request settings.allowedOrigins = true)
    (settled : Settled (Policy.ofSettings settings) request written)
    (control : written.headers.values .cacheControl =
      (Cache.forbid response).headers.values .cacheControl)
    (type : written.headers.values .contentType = [contentType]) :
    (respond surroundings settings request written).value =
      written.withBody (body settings surroundings.entropy) := by
  rw [respond_get get allowed, Cache.forbid_of_values control, settled.check_eq,
    Response.insert_of_values type]

theorem respond_options_of_settled
    (options : request.method = Method.options)
    (allowed : Origin.isRequestAllowed request settings.allowedOrigins = true)
    (settled : Settled (Policy.ofSettings settings) request written)
    (kept : Cache.KeptForYear surroundings.now written)
    (status : written.status = .noContent) :
    (respond surroundings settings request written).value = written := by
  rw [respond_options options allowed, settled.check_eq, kept.keepForYear_eq,
    Response.withStatus, ← status]

theorem refusal_refusal :
    refusal request (refusal request response) = refusal request response := by
  unfold refusal
  split
  · have forbidden : Cache.forbid ((Cache.forbid response).withStatus .forbidden) =
        (Cache.forbid response).withStatus .forbidden :=
      @Cache.forbid_of_values response _ rfl
    rw [forbidden]
    rfl
  · rfl

theorem respond_respond_get
    (get : request.method = Method.get)
    (allowed : Origin.isRequestAllowed request settings.allowedOrigins = true) :
    (respond second settings request
        (respond first settings request response).value).value =
      (respond second settings request response).value := by
  have settled :=
    settled_check (Policy.ofSettings settings) request [.get] (Cache.forbid response)
  have again :
      (respond second settings request
          (respond first settings request response).value).value =
        (respond first settings request response).value.withBody
          (body settings second.entropy) := by
    apply @respond_get_of_settled _ _ _ response _ get allowed
    · rw [respond_get get allowed]
      exact (settled.insert (by decide) contentType).withBody _
    · rw [respond_get get allowed]
      exact (Headers.values_insert_other _ _ (by decide)).trans
        (values_check_of_not_mem (by decide))
    · rw [respond_get get allowed]
      exact Headers.values_insert_same _ _ _
  rw [again, respond_get get allowed, respond_get get allowed]
  rfl

theorem respond_respond_options
    (options : request.method = Method.options)
    (allowed : Origin.isRequestAllowed request settings.allowedOrigins = true)
    (now : first.now = second.now) :
    (respond second settings request
        (respond first settings request response).value).value =
      (respond second settings request response).value := by
  have settled :=
    settled_check (Policy.ofSettings settings) request [.options, .get] response
  have kept := Cache.keptForYear_keepForYear second.now
    (check (Policy.ofSettings settings) request [.options, .get] response).value.2
  have same :
      (respond first settings request response).value =
        (respond second settings request response).value := by
    rw [respond_options options allowed, respond_options options allowed, now]
  rw [same]
  apply respond_options_of_settled options allowed
  · rw [respond_options options allowed]
    exact (settled.keepForYear second.now).withStatus allowed .noContent
  · rw [respond_options options allowed]
    exact kept.withStatus .noContent
  · rw [respond_options options allowed]
    rfl

/-- Of two answers at one time, each with its own entropy, the second replaces the first. -/
theorem respond_respond (now : first.now = second.now) :
    (respond second settings request
        (respond first settings request response).value).value =
      (respond second settings request response).value := by
  by_cases asks : Asks request
  · cases allowed : Origin.isRequestAllowed request settings.allowedOrigins with
    | false =>
        rw [respond_refused asks allowed, respond_refused asks allowed,
          respond_refused asks allowed, refusal_refusal]
    | true =>
        rcases asks with get | options
        · exact respond_respond_get get allowed
        · exact respond_respond_options options allowed now
  · rw [Asks, not_or] at asks
    have refused (surroundings : Surroundings) (found : Response) :
        respond surroundings settings request found =
          refuseMethod [.options, .get] found := by
      rw [respond, if_neg asks.1, if_neg asks.2]
    rw [refused, refused, refused, refuseMethod_refuseMethod]

/-- Entropy shows in the body only, and there only if the capabilities are told. -/
theorem respond_entropy (now : Nat) (settings : ServiceSettings) (request : Request)
    (response : Response) :
    ∃ written : Response,
      (∀ entropy, (respond ⟨now, entropy⟩ settings request response).value = written) ∨
        ∀ entropy,
          (respond ⟨now, entropy⟩ settings request response).value =
            written.withBody (body settings entropy) := by
  by_cases asks : Asks request
  · cases allowed : Origin.isRequestAllowed request settings.allowedOrigins with
    | false => exact ⟨_, Or.inl fun _ => respond_refused asks allowed⟩
    | true =>
        rcases asks with get | options
        · exact ⟨_, Or.inr fun _ => respond_get get allowed⟩
        · refine
            ⟨(respond ⟨now, 0⟩ settings request response).value, Or.inl fun entropy => ?_⟩
          rw [respond_options options allowed, respond_options options allowed]
  · rw [Asks, not_or] at asks
    refine ⟨(refuseMethod [.options, .get] response).value, Or.inl fun entropy => ?_⟩
    rw [respond, if_neg asks.1, if_neg asks.2]

/-- Of two answers with different entropy, the second leaves status and headers alone. -/
theorem respond_alike (now : Nat) (settings : ServiceSettings) (first second : Int32)
    (request : Request) (response : Response) :
    let former := (respond ⟨now, first⟩ settings request response).value
    let latter := (respond ⟨now, second⟩ settings request response).value
    latter.status = former.status ∧ latter.headers = former.headers ∧
      (latter.body = former.body ∨
        former.body = body settings first ∧ latter.body = body settings second) := by
  obtain ⟨written, alike | told⟩ := respond_entropy now settings request response
  · simp [alike]
  · simp [told, Response.withBody]

end Info

namespace Iframe

variable {url : String} {request : Request} {response : Response}

/-- The page comes with headers of different names, each in the place of any of its name. -/
theorem respond_of_unknown
    (get : request.method = Method.get)
    (unknown : knownTag? request.headers ≠ some (etag (Text.octets (page url)))) :
    ∃ fields : List (HeaderName × HeaderValue), (fields.map Prod.fst).Nodup ∧
      ∀ found, (respond url request found).value =
        (found.insertAll fields).withBody (page url) := by
  have different : [HeaderName.contentType, .contentLength, .cacheControl, .etag].Nodup := by
    decide
  refine ⟨[(.contentType, HeaderValue.literal "text/html;charset=UTF-8"),
    (.contentLength, HeaderValue.ofNat (Text.octets (page url)).length),
    (.cacheControl, HeaderValue.literal "no-store, no-cache, must-revalidate, max-age=0"),
    (.etag, etagValue (Text.octets (page url)))], different, fun found => ?_⟩
  rw [respond, if_pos get]
  dsimp only
  rw [if_neg unknown]
  rfl

theorem respond_respond :
    (respond url request (respond url request response).value).value =
      (respond url request response).value := by
  by_cases get : request.method = Method.get
  · by_cases known : knownTag? request.headers = some (etag (Text.octets (page url)))
    · rw [respond_of_known get known, respond_of_known get known]
      rfl
    · obtain ⟨fields, different, answer⟩ := respond_of_unknown get known
      rw [answer, answer, Response.insertAll_withBody, Response.insertAll_insertAll different]
      rfl
  · rw [respond, if_neg get, respond, if_neg get, refuseMethod_refuseMethod]

end Iframe

/--
Writing response headers is idempotent.

A check tells whether the origin is allowed, and leaves a response with the
refusal or the grant that is due.  Whatever the response had in it before, and
whatever the request, another check then tells the same and changes nothing,
however many there are.  In the same way the bootstrap page is answered again
with the same response, and at one time so are the capabilities, whose body may
differ in its entropy and in nothing else.
-/
theorem writing_idempotent (request : Request) (response : Response) :
    (∀ (policy : Cors.Policy) (methods : List Method),
        let checked (found : Response) := (Cors.check policy request methods found).value
        (checked response).1 = Origin.isRequestAllowed request policy.allowedOrigins ∧
          Cors.Settled policy request (checked response).2 ∧
            ∀ count : Nat,
              checked ((fun found => (checked found).2)^[count] response) =
                checked response) ∧
      (∀ (settings : ServiceSettings) (now : Nat) (first second : Int32),
        let answer (entropy : Int32) (found : Response) :=
          (Info.respond { now, entropy } settings request found).value
        let once := answer first response
        let twice := answer second once
        twice.status = once.status ∧ twice.headers = once.headers ∧
          (twice.body = once.body ∨
            once.body = Info.body settings first ∧ twice.body = Info.body settings second)) ∧
        ∀ url : String,
          let answer (found : Response) := (Iframe.respond url request found).value
          answer (answer response) = answer response := by
  refine ⟨fun policy methods => ⟨Cors.value_check_fst,
      Cors.settled_check policy request methods response, fun count => Cors.check_iterate count⟩,
    ?_, fun url => Iframe.respond_respond⟩
  intro settings now first second answer once twice
  have again : twice = answer second response := Info.respond_respond rfl
  rw [again]
  exact Info.respond_alike now settings first second request response

end SessionGateway
