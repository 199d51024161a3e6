import Mathlib.Logic.Basic
import SessionGateway.Cors
import SessionGateway.Http.Refusal

/-!
# Grants in a response

A response is *plain* if no header of a cross-origin grant is there and no
origin was refused.  It *grants* an origin if it carries the whole grant for
it, every header once.

The headers that the gateway writes for other reasons keep a response plain,
and keep a grant whole.  `grants_grant` is the step from the one to the other,
and the three lemmas on `Cors.check` say when that step is taken.
-/

namespace SessionGateway.Cors

open Http

/-- The headers of a grant, `Vary` aside. -/
def grantNames : List HeaderName :=
  [.accessControlAllowOrigin, .accessControlAllowCredentials, .accessControlAllowHeaders,
    .accessControlAllowMethods, .accessControlMaxAge]

def Ungranted (response : Response) : Prop :=
  ∀ name ∈ grantNames, response.headers.values name = []

structure Plain (response : Response) : Prop where
  ungranted : Ungranted response
  permitted : response.status ≠ .forbidden

/-- The response carries the grant for an origin, and none besides. -/
structure Grants (origin : HeaderValue) (requested : List HeaderValue) (methods : HeaderValue)
    (response : Response) : Prop where
  origin : response.headers.values .accessControlAllowOrigin = [origin]
  credentials :
    response.headers.values .accessControlAllowCredentials = [HeaderValue.literal "true"]
  requested : response.headers.values .accessControlAllowHeaders = requested
  methods : response.headers.values .accessControlAllowMethods = [methods]
  age : response.headers.values .accessControlMaxAge = [HeaderValue.literal "31536000"]
  vary : (response.headers.values .vary).any Cache.namesOrigin = true
  permitted : response.status ≠ .forbidden

variable
    {request : Request}
    {response : Response}
    {name : HeaderName}
    {value origin methods : HeaderValue}
    {requested : List HeaderValue}
    {list : List Method}

/-! ## Other headers -/

theorem values_append (name other : HeaderName) (value : HeaderValue) (response : Response) :
    (response.append name value).headers.values other =
      response.headers.values other ++ if name = other then [value] else [] :=
  Headers.values_append response.headers name other value

theorem values_insert_of_not_mem
    {names : List HeaderName} (other : name ∉ names) (value : HeaderValue)
    (response : Response) {kept : HeaderName} (member : kept ∈ names) :
    (response.insert name value).headers.values kept = response.headers.values kept := by
  apply Headers.values_insert_other
  rintro rfl
  exact other member

theorem Ungranted.insert (ungranted : Ungranted response) (other : name ∉ grantNames) :
    Ungranted (response.insert name value) := by
  intro granted member
  rw [values_insert_of_not_mem other value response member]
  exact ungranted granted member

theorem Ungranted.withStatus
    (ungranted : Ungranted response) {status : Status} (permitted : status ≠ .forbidden) :
    Plain (response.withStatus status) :=
  ⟨ungranted, permitted⟩

theorem Plain.insert (plain : Plain response) (other : name ∉ grantNames) :
    Plain (response.insert name value) :=
  ⟨plain.ungranted.insert other, plain.permitted⟩

theorem Plain.withBody (plain : Plain response) (body : String) :
    Plain (response.withBody body) :=
  ⟨plain.ungranted, plain.permitted⟩

theorem Ungranted.contains (ungranted : Ungranted response) :
    response.headers.contains .accessControlAllowOrigin = false := by
  rw [Headers.contains, ungranted _ (by decide)]
  rfl

theorem Grants.contains (grants : Grants origin requested methods response) :
    response.headers.contains .accessControlAllowOrigin = true := by
  rw [Headers.contains, grants.origin]
  rfl

theorem Grants.insert
    (grants : Grants origin requested methods response)
    (other : name ∉ .vary :: grantNames) :
    Grants origin requested methods (response.insert name value) := by
  have same : ∀ kept ∈ .vary :: grantNames,
      (response.insert name value).headers.values kept = response.headers.values kept :=
    fun _ member => values_insert_of_not_mem other value response member
  constructor
  · rw [same _ (by decide), grants.origin]
  · rw [same _ (by decide), grants.credentials]
  · rw [same _ (by decide), grants.requested]
  · rw [same _ (by decide), grants.methods]
  · rw [same _ (by decide), grants.age]
  · rw [same _ (by decide), grants.vary]
  · exact grants.permitted

theorem Grants.withBody
    (grants : Grants origin requested methods response) (body : String) :
    Grants origin requested methods (response.withBody body) :=
  { grants with }

theorem Grants.withStatus
    (grants : Grants origin requested methods response)
    {status : Status} (permitted : status ≠ .forbidden) :
    Grants origin requested methods (response.withStatus status) :=
  { grants with permitted }

/-! ## The writers of the gateway -/

theorem any_namesOrigin_varyOnOrigin (response : Response) :
    ((Cache.varyOnOrigin response).headers.values .vary).any Cache.namesOrigin = true := by
  unfold Cache.varyOnOrigin
  split
  · next named => exact named
  · have named : Cache.namesOrigin (HeaderValue.literal "Origin") = true := by decide
    simp [values_append, named]

theorem values_varyOnOrigin (different : name ≠ .vary) :
    (Cache.varyOnOrigin response).headers.values name = response.headers.values name := by
  unfold Cache.varyOnOrigin
  split
  · rfl
  · rw [values_append, if_neg different.symm, List.append_nil]

theorem status_varyOnOrigin : (Cache.varyOnOrigin response).status = response.status := by
  unfold Cache.varyOnOrigin
  split
  · rfl
  · rfl

theorem Ungranted.varyOnOrigin (ungranted : Ungranted response) :
    Ungranted (Cache.varyOnOrigin response) := by
  intro granted member
  have different : granted ≠ .vary := by
    rintro rfl
    exact absurd member (by decide)
  rw [values_varyOnOrigin different]
  exact ungranted granted member

/-- A grant names `Origin` in `Vary` already. -/
theorem Grants.varyOnOrigin (grants : Grants origin requested methods response) :
    Cache.varyOnOrigin response = response := by
  rw [Cache.varyOnOrigin, if_pos grants.vary]

theorem Ungranted.keepForYear (ungranted : Ungranted response) (now : Nat) :
    Ungranted (Cache.keepForYear now response) := by
  unfold Cache.keepForYear
  apply Ungranted.varyOnOrigin
  split
  · exact (ungranted.insert (by decide)).insert (by decide)
  · exact ungranted.insert (by decide)

theorem Grants.keepForYear
    (grants : Grants origin requested methods response) (now : Nat) :
    Grants origin requested methods (Cache.keepForYear now response) := by
  have kept :
      Grants origin requested methods
        (response.insert .cacheControl (HeaderValue.literal "public, max-age=31536000")) :=
    grants.insert (by decide)
  unfold Cache.keepForYear
  dsimp only
  split
  · next expires _ =>
      have expiring :
          Grants origin requested methods
            ((response.insert .cacheControl
              (HeaderValue.literal "public, max-age=31536000")).insert .expires expires) :=
        kept.insert (by decide)
      rw [expiring.varyOnOrigin]
      exact expiring
  · rw [kept.varyOnOrigin]
    exact kept

theorem plain_refuseMethod (ungranted : Ungranted response) (allowed : List Method) :
    Plain (refuseMethod allowed response).value := by
  have refused : Plain (response.withStatus .methodNotAllowed) :=
    ungranted.withStatus (by decide)
  simp only [refuseMethod, Log.Logged.bind_value]
  split
  · exact refused.insert (by decide)
  · exact refused

/-! ## The grant -/

theorem values_foldl_append
    (name other : HeaderName) (values : List HeaderValue) (response : Response) :
    (values.foldl (fun written value => written.append name value) response).headers.values
        other =
      response.headers.values other ++ if name = other then values else [] := by
  induction values generalizing response with
  | nil => simp
  | cons value rest induction =>
      rw [List.foldl_cons, induction, values_append, List.append_assoc]
      by_cases same : name = other
      · simp [same]
      · simp [same]

theorem status_foldl_append (name : HeaderName) (values : List HeaderValue)
    (response : Response) :
    (values.foldl (fun written value => written.append name value) response).status =
      response.status := by
  induction values generalizing response with
  | nil => rfl
  | cons value rest induction =>
      rw [List.foldl_cons, induction]
      rfl

/-- What a grant adds to the values of a header. -/
def addition (origin credentials : HeaderValue) (asked : List HeaderValue)
    (methods age : HeaderValue) (name : HeaderName) : List HeaderValue :=
  (if .accessControlAllowOrigin = name then [origin] else []) ++
    (if .accessControlAllowCredentials = name then [credentials] else []) ++
    (if .accessControlAllowHeaders = name then asked else []) ++
    (if .accessControlAllowMethods = name then [methods] else []) ++
    (if .accessControlMaxAge = name then [age] else [])

theorem values_grant
    (present : request.headers.first? .origin = some origin)
    (joined : HeaderValue.ofString? (Method.join list) = some methods)
    (nonempty : list.isEmpty = false)
    (different : name ≠ .vary) :
    (grant request list response).headers.values name =
      response.headers.values name ++
        addition origin (.literal "true") (request.headers.values .accessControlRequestHeaders)
          methods (.literal "31536000") name := by
  simp only [grant, values_varyOnOrigin different, grantMethods, nonempty, present, joined,
    Bool.false_eq_true, if_false, values_append, values_foldl_append, addition,
    List.append_assoc]

theorem status_grantMethods : (grantMethods list response).status = response.status := by
  unfold grantMethods
  split
  · rfl
  · dsimp only
    split
    · rfl
    · rfl

theorem status_grant : (grant request list response).status = response.status := by
  unfold grant
  dsimp only
  rw [status_varyOnOrigin, status_grantMethods, status_foldl_append]
  split
  · rfl
  · rfl

/-- A grant written to a plain response is there as a whole. -/
theorem grants_grant
    (plain : Plain response)
    (present : request.headers.first? .origin = some origin)
    (joined : HeaderValue.ofString? (Method.join list) = some methods)
    (nonempty : list.isEmpty = false) :
    Grants origin (request.headers.values .accessControlRequestHeaders) methods
      (grant request list response) := by
  have written : ∀ name ∈ grantNames,
      (grant request list response).headers.values name =
        addition origin (.literal "true") (request.headers.values .accessControlRequestHeaders)
          methods (.literal "31536000") name := by
    intro name member
    have different : name ≠ .vary := by
      rintro rfl
      exact absurd member (by decide)
    rw [values_grant present joined nonempty different, plain.ungranted name member,
      List.nil_append]
  constructor
  · exact written .accessControlAllowOrigin (by decide)
  · exact written .accessControlAllowCredentials (by decide)
  · rw [written .accessControlAllowHeaders (by decide)]
    simp [addition, HeaderName.accessControlAllowOrigin, HeaderName.accessControlAllowHeaders,
      HeaderName.accessControlAllowCredentials, HeaderName.accessControlAllowMethods,
      HeaderName.accessControlMaxAge]
  · exact written .accessControlAllowMethods (by decide)
  · exact written .accessControlMaxAge (by decide)
  · exact any_namesOrigin_varyOnOrigin _
  · rw [status_grant]
    exact plain.permitted

/-! ## The check -/

variable {policy : Policy}

theorem check_granted
    (present : request.headers.first? .origin = some origin)
    (allowed : Origin.isRequestAllowed request policy.allowedOrigins = true)
    (announced : policy.suppress = false)
    (plain : Plain response) :
    (check policy request list response).value = (true, grant request list response) := by
  have fresh : response.headers.contains .accessControlAllowOrigin = false :=
    plain.ungranted.contains
  simp [check, present, allowed, announced, fresh]

theorem check_refused
    (refused : Origin.isRequestAllowed request policy.allowedOrigins = false) :
    (check policy request list response).value = (false, response.withStatus .forbidden) := by
  cases present : request.headers.first? .origin with
  | none => simp [Origin.isRequestAllowed, present] at refused
  | some origin => simp [check, present, refused]

theorem check_unannounced
    (allowed : Origin.isRequestAllowed request policy.allowedOrigins = true)
    (unannounced : request.headers.first? .origin = none ∨ policy.suppress = true) :
    (check policy request list response).value = (true, response) := by
  rcases unannounced with absent | suppressed
  · simp [check, absent]
  · unfold check
    split
    · rfl
    · simp [allowed, suppressed]

end SessionGateway.Cors
