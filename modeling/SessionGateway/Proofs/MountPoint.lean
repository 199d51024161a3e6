import SessionGateway.Proofs.Registration
import SessionGateway.Settings.Load

/-!
# The mount point

Which requests the service gets, and what it is told about their paths.

A mount point is routed by three patterns: the prefix, the prefix with a slash
behind it, and whatever follows that slash.  The service is told what is left
of a path when the prefix is taken off as a text, which is another reading of
the same prefix.  For a prefix without parameters both readings agree:
`covers_iff` says what the patterns match, `below?_eq_some_iff` what is told,
and `serves_suffix` puts them together for a request that a router serves.
-/

namespace SessionGateway.Mount

open Http

variable {mount : String}

/-! ## The patterns -/

/--
The pattern of a route matches a path: the whole of it, or what stands in front
of something else where the pattern ends in a parameter for the rest.
-/
def Route.Matches (mount : String) (path : List Char) (route : Route) : Prop :=
  match route with
  | itself | slashed => remainder? (pieces (route.pattern mount).toList) path = some []
  | beneath =>
      ∃ front rest, route.pattern mount = front ++ "\x7b*path\x7d" ∧ rest ≠ [] ∧
        remainder? (pieces front.toList) path = some rest

/-- What can be left of a path at the mount point: nothing, or something behind a slash. -/
def IsSuffix (rest : List Char) : Prop :=
  rest = [] ∨ rest.head? = some '/'

variable {path : List Char}

theorem exists_matches_iff (literal : IsLiteral mount) :
    (∃ route : Route, route.Matches mount path) ↔
      ∃ rest, IsSuffix rest ∧ path = mount.toList ++ rest := by
  have slash : (mount ++ "/").toList = mount.toList ++ ['/'] := String.toList_append
  constructor
  · rintro ⟨route, matched⟩
    cases route with
    | itself => exact ⟨[], Or.inl rfl, (remainder?_pieces_iff literal).mp matched⟩
    | slashed =>
        have whole := (remainder?_pieces_iff literal.slash).mp matched
        rw [slash, List.append_nil] at whole
        exact ⟨['/'], Or.inr rfl, whole⟩
    | beneath =>
        obtain ⟨front, rest, spelled, -, left⟩ := matched
        obtain rfl : mount ++ "/" = front := (String.append_left_inj _).mp spelled
        have whole := (remainder?_pieces_iff literal.slash).mp left
        rw [slash, List.append_assoc] at whole
        exact ⟨'/' :: rest, Or.inr rfl, whole⟩
  · rintro ⟨rest, suffix, whole⟩
    rcases suffix with rfl | headed
    · exact ⟨.itself, (remainder?_pieces_iff literal).mpr whole⟩
    · obtain ⟨more, rfl⟩ := List.head?_eq_some_iff.mp headed
      have left : remainder? (pieces (mount ++ "/").toList) path = some more := by
        rw [remainder?_pieces_iff literal.slash, slash, List.append_assoc]
        exact whole
      by_cases nothing : more = []
      · subst nothing
        exact ⟨.slashed, left⟩
      · exact ⟨.beneath, mount ++ "/", more, rfl, nothing, left⟩

theorem covers_iff (literal : IsLiteral mount) :
    covers mount path = true ↔
      ∃ rest, IsSuffix rest ∧ path = mount.toList ++ rest := by
  constructor
  · intro covered
    rw [covers] at covered
    split at covered
    · next left => exact ⟨[], Or.inl rfl, (remainder?_pieces_iff literal).mp left⟩
    · next character rest left =>
        obtain rfl : character = '/' := by simpa using covered
        exact ⟨'/' :: rest, Or.inr rfl, (remainder?_pieces_iff literal).mp left⟩
    · cases covered
  · rintro ⟨rest, suffix, whole⟩
    rw [covers, (remainder?_pieces_iff literal).mpr whole]
    rcases suffix with rfl | headed
    · rfl
    · obtain ⟨more, rfl⟩ := List.head?_eq_some_iff.mp headed
      rfl

/-- The service is told exactly what stands behind the prefix. -/
theorem below?_eq_some_iff {rest : List Char} :
    below? mount path = some (String.ofList rest) ↔ path = mount.toList ++ rest := by
  constructor
  · intro told
    rw [below?] at told
    split at told
    · next front =>
        obtain ⟨behind, rfl⟩ := List.isPrefixOf_iff_prefix.mp front
        rw [List.drop_left, Option.some.injEq, String.ofList_inj] at told
        rw [told]
    · cases told
  · rintro rfl
    have front : mount.toList.isPrefixOf (mount.toList ++ rest) = true :=
      List.isPrefixOf_iff_prefix.mpr (List.prefix_append _ _)
    rw [below?, if_pos front, List.drop_left]

/-! ## The answer -/

/-- What becomes of a served request on its way out; a failure becomes a bare 500. -/
def answer (method : Method) (outcome : Service.Outcome) : Service.Outcome :=
  { outcome with
    response :=
      complete method ((outcome.failure.map Fault.response).getD outcome.response) }

/-- The answer to every request that could not be served. -/
def failureAnswer : Response :=
  ({ status := .internalServerError } : Response).insert .contentLength (HeaderValue.ofNat 0)

/-- A status and nothing else; the length of the empty body may be given. -/
structure Bare (status : Status) (response : Response) : Prop where
  status : response.status = status
  body : response.body = ""
  headers : ∀ name, name ≠ .contentLength → response.headers.values name = []

theorem bare_of_status (status : Status) : Bare status { status } :=
  ⟨rfl, rfl, fun _ _ => rfl⟩

theorem Bare.contentLength
    {status : Status} {response : Response} (bare : Bare status response)
    (value : HeaderValue) : Bare status (response.insert .contentLength value) where
  status := bare.status
  body := bare.body
  headers := by
    intro name other
    rw [Response.insert, Headers.values_insert_other _ value other]
    exact bare.headers name other

theorem bare_outside (request : Request) : Bare .notFound (outside request) := by
  rw [outside]
  split
  · exact bare_of_status .notFound
  · exact (bare_of_status .notFound).contentLength _

theorem bare_failureAnswer : Bare .internalServerError failureAnswer :=
  (bare_of_status .internalServerError).contentLength _

theorem complete_fault (method : Method) (fault : Fault) :
    complete method fault.response = failureAnswer := by
  have failing : ¬(method = Method.connect ∧ fault.response.status.isSuccess = true) := by
    rintro ⟨-, success⟩
    cases success
  have unmeasured : fault.response.headers.contains .contentLength ≠ true := nofun
  rw [complete, if_neg failing]
  dsimp only
  rw [if_neg unmeasured]
  -- A `HEAD` request loses a body that is empty anyway.
  split <;> rfl

/-- On the way out a response keeps its status. -/
theorem status_complete (method : Method) (response : Response) :
    (complete method response).status = response.status := by
  rw [complete]
  split
  · rfl
  · dsimp only
    split <;> split <;> rfl

variable
    {collaborators : Service.Collaborators}
    {surroundings : Info.Surroundings}
    {threshold : Log.Level}
    {settings : ServiceSettings}
    {request : Request}

theorem serve_of_covers (covered : covers mount request.target.path = true) :
    serve collaborators surroundings threshold mount settings request =
      answer request.method
        (Service.handle collaborators surroundings threshold settings
          (below? mount request.target.path) request {}) := by
  rw [serve, if_pos covered, answer]
  generalize Service.handle collaborators surroundings threshold settings
    (below? mount request.target.path) request {} = outcome
  obtain ⟨response, failure, calls, takeover, metrics, events⟩ := outcome
  cases failure with
  | none => rfl
  | some fault => rfl

theorem serve_of_not_covers (uncovered : covers mount request.target.path ≠ true) :
    serve collaborators surroundings threshold mount settings request =
      { response := outside request } := by
  rw [serve, if_neg uncovered]

theorem response_of_failure
    {fault : Fault}
    (failed : (serve collaborators surroundings threshold mount settings request).failure =
      some fault) :
    (serve collaborators surroundings threshold mount settings request).response =
      failureAnswer := by
  by_cases covered : covers mount request.target.path = true
  · rw [serve_of_covers covered] at failed ⊢
    rw [answer] at failed ⊢
    dsimp only at failed ⊢
    rw [failed]
    exact complete_fault request.method fault
  · rw [serve_of_not_covers covered] at failed
    cases failed

/--
The service gets exactly the suffix below its prefix, if there is a router for
the prefix.

Take any prefix without parameters that passes validation.  There is a router
for it if and only if no slash in it has a colon or an asterisk behind it; for
any other one the registration fails.  Take a router and any path.  The request
reaches the service if and only if one of the three patterns matches, that is,
if the path is the prefix or goes on with a slash behind it; the service is then
told what stands behind the prefix, so it is never entered without a path.  To
any other request the answer is a bare 404, nobody is called, and nothing is
counted or logged.  The answer to a request that fails is a bare 500, always the
same one.
-/
theorem serves_suffix
    (mount : String) (valid : Settings.isMountPrefix mount = true) (literal : IsLiteral mount)
    (collaborators : Service.Collaborators) (surroundings : Info.Surroundings)
    (threshold : Log.Level) (settings : ServiceSettings) (request : Request) :
    ((∃ router, Mount.router mount = .ok router) ↔ ¬HasFormerSign mount) ∧
      ∀ router, Mount.router mount = .ok router →
        let path := request.target.path
        let outcome := router.serve collaborators surroundings threshold settings request
        ((∃ route : Route, route.Matches mount path) ↔
            ∃ rest, IsSuffix rest ∧ path = mount.toList ++ rest) ∧
          (∀ rest, IsSuffix rest → path = mount.toList ++ rest →
            outcome =
              answer request.method
                (Service.handle collaborators surroundings threshold settings
                  (some (String.ofList rest)) request {})) ∧
          ((¬∃ route : Route, route.Matches mount path) →
            Bare .notFound outcome.response ∧
              outcome.failure = none ∧ outcome.takeover = none ∧
                outcome.calls = [] ∧ outcome.metrics = [] ∧ outcome.events = []) ∧
          (∀ fault, outcome.failure = some fault → outcome.response = failureAnswer) ∧
          Bare .internalServerError failureAnswer := by
  have registers := exists_router_iff literal
  rw [and_iff_right (head?_of_isMountPrefix valid)] at registers
  refine ⟨registers, fun router registered => ?_⟩
  intro path outcome
  obtain rfl := router_eq_ok_iff.mp registered
  refine ⟨exists_matches_iff literal, ?_, ?_, fun _ => response_of_failure, bare_failureAnswer⟩
  · intro rest suffix whole
    have covered : covers router.mount path = true :=
      (covers_iff literal).mpr ⟨rest, suffix, whole⟩
    have told : below? router.mount path = some (String.ofList rest) :=
      below?_eq_some_iff.mpr whole
    rw [← told]
    exact serve_of_covers covered
  · intro unmatched
    have uncovered : covers router.mount path ≠ true := by
      rw [ne_eq, covers_iff literal, ← exists_matches_iff literal]
      exact unmatched
    have untouched : outcome = { response := outside request } :=
      serve_of_not_covers uncovered
    rw [untouched]
    exact ⟨bare_outside request, rfl, rfl, rfl, rfl, rfl⟩

/-- A raw endpoint that fails after it has written to the response. -/
def cutOff : Service.Collaborators where
  raw _ response :=
    { response := response.withStatus .switchingProtocols, failure := some "connection closed" }
  validate _ _ _ := pure true
  session _ _ response := { response }

/-- A request below the prefix that fails, and one whose path only begins like the prefix. -/
theorem serves_suffix_cutOff :
    let beneath : Request := { target := { path := "/sockjs/websocket".toList } }
    let beside : Request := { target := { path := "/sockjsx/websocket".toList } }
    Settings.isMountPrefix "/sockjs" = true ∧ IsLiteral "/sockjs" ∧
      ∃ router, Mount.router "/sockjs" = .ok router ∧
        let serveOne := router.serve cutOff { now := 0, entropy := 0 } .info { name := "" }
        (serveOne beneath).calls = [.raw beneath] ∧
          (serveOne beneath).response = failureAnswer ∧
            (serveOne beside).calls = [] ∧ Bare .notFound (serveOne beside).response := by
  intro beneath beside
  have valid : Settings.isMountPrefix "/sockjs" = true := by decide
  have literal : IsLiteral "/sockjs" := by
    simp [IsLiteral]
  let surroundings : Info.Surroundings := { now := 0, entropy := 0 }
  let settings : ServiceSettings := { name := "" }
  obtain ⟨registers, serves⟩ :=
    serves_suffix "/sockjs" valid literal cutOff surroundings .info settings beneath
  obtain ⟨-, servesBeside⟩ :=
    serves_suffix "/sockjs" valid literal cutOff surroundings .info settings beside
  obtain ⟨router, registered⟩ := registers.mpr (by simp [HasFormerSign, List.infix_cons_iff])
  refine ⟨valid, literal, router, registered, ?_⟩
  intro serveOne
  obtain ⟨-, reached, -, failing, -⟩ := serves router registered
  obtain ⟨matching, -, unreached, -, -⟩ := servesBeside router registered
  have served := reached "/websocket".toList (Or.inr rfl) rfl
  have failed : (serveOne beneath).failure = some (.io "connection closed") := by
    rw [show serveOne beneath = _ from served]
    decide +kernel
  have unmatched : ¬∃ route : Route, route.Matches "/sockjs" beside.target.path := by
    rw [matching]
    rintro ⟨rest, suffix, whole⟩
    have behind : rest = "x/websocket".toList := by
      simpa [beside] using whole.symm
    subst behind
    rcases suffix with nothing | headed
    · cases nothing
    · cases headed
  refine ⟨?_, failing _ failed, (unreached unmatched).2.2.2.1, (unreached unmatched).1⟩
  rw [show serveOne beneath = _ from served]
  decide +kernel

/-- A file that asks for a prefix with a colon is accepted, and no router takes the prefix. -/
theorem accepts_unroutable_prefix :
    ∃ settings,
      Settings.parse "gateway" "[listener]\npath_prefix = \"/:room\"\n" = .ok settings ∧
        IsLiteral settings.listener.pathPrefix ∧
          Mount.router settings.listener.pathPrefix = .error .colon := by
  let settings : GatewaySettings :=
    { listener := { pathPrefix := "/:room" }, service := { name := "gateway" } }
  have parsed :
      Settings.parse "gateway" "[listener]\npath_prefix = \"/:room\"\n" = .ok settings := by
    decide +kernel
  have literal : IsLiteral settings.listener.pathPrefix := by
    simp [IsLiteral, settings]
  have refused : refusal? settings.listener.pathPrefix = some .colon := by decide +kernel
  exact ⟨settings, parsed, literal, router_eq_error_iff.mpr refused⟩

end SessionGateway.Mount
