import Mathlib.Data.List.Count
import Mathlib.Data.List.Induction
import SessionGateway.Mount.Course
import SessionGateway.Proofs.MountPoint

/-!
# What the request counters tell

Every request that reaches the service with a path is counted once, under the
kind of that path and the status that the service has left in the response.
What the client is answered is decided behind that: where serving the request
has failed, the response is thrown away for a bare 500.

`metrics_serve` says what one request adds to the counters and `counter_run`
what a run makes of them.  `counts_answers_iff` compares the counters with the
answers.
-/

namespace SessionGateway.Mount

open Http

variable
    {threshold : Log.Level}
    {mount : String}
    {initial : ServiceSettings}
    {exchange : Exchange}

/-! ## One request -/

/-- The kind of path that a request counts as, if it reaches the service with a path. -/
def Exchange.kind? (mount : String) (exchange : Exchange) : Option Path.Kind :=
  if covers mount exchange.request.target.path then
    (below? mount exchange.request.target.path).map fun path => (Path.classify path).kind
  else
    none

/-- What the service leaves behind of a request, before it is answered. -/
def Exchange.left (threshold : Log.Level) (mount : String) (exchange : Exchange) :
    Service.Outcome :=
  Service.handle exchange.circumstances.collaborators exchange.circumstances.surroundings
    threshold exchange.settings (below? mount exchange.request.target.path) exchange.request {}

/-- A request was served as the mount point serves it. -/
def Exchange.IsServed (threshold : Log.Level) (mount : String) (exchange : Exchange) : Prop :=
  exchange.outcome =
    serve exchange.circumstances.collaborators exchange.circumstances.surroundings threshold
      mount exchange.settings exchange.request

theorem metrics_handle
    (collaborators : Service.Collaborators) (surroundings : Info.Surroundings)
    (settings : ServiceSettings) (path? : Option String) (request : Request)
    (response : Response) :
    let outcome :=
      Service.handle collaborators surroundings threshold settings path? request response
    outcome.metrics =
      (path?.map fun path => (Path.classify path).kind).toList.map fun kind =>
        .requests kind outcome.response.status := by
  cases path? with
  | none => rfl
  | some path => rfl

/-- A request counts once under its kind, with the status that the service has left. -/
theorem metrics_serve (served : exchange.IsServed threshold mount) :
    exchange.outcome.metrics =
      (exchange.kind? mount).toList.map fun kind =>
        .requests kind (exchange.left threshold mount).response.status := by
  rw [served, Exchange.kind?]
  by_cases covered : covers mount exchange.request.target.path = true
  · rw [serve_of_covers covered, if_pos covered]
    exact metrics_handle _ _ _ _ _ _
  · rw [serve_of_not_covers covered, if_neg covered]
    rfl

/-- Only what the service was given can fail. -/
theorem kind?_of_failure
    (served : exchange.IsServed threshold mount) (failed : exchange.outcome.failure ≠ none) :
    ∃ kind, exchange.kind? mount = some kind := by
  rw [served] at failed
  rw [Exchange.kind?]
  by_cases covered : covers mount exchange.request.target.path = true
  · rw [serve_of_covers covered, answer] at failed
    rw [if_pos covered]
    cases told : below? mount exchange.request.target.path with
    | none =>
        rw [told] at failed
        exact absurd rfl failed
    | some path => exact ⟨(Path.classify path).kind, rfl⟩
  · rw [serve_of_not_covers covered] at failed
    exact absurd rfl failed

/-- A request that did not fail is answered with the status that the service has left. -/
theorem status_of_success
    {kind : Path.Kind}
    (served : exchange.IsServed threshold mount)
    (routed : exchange.kind? mount = some kind)
    (succeeded : exchange.outcome.failure = none) :
    exchange.outcome.response.status = (exchange.left threshold mount).response.status := by
  have covered : covers mount exchange.request.target.path = true := by
    by_contra uncovered
    rw [Exchange.kind?, if_neg uncovered] at routed
    cases routed
  rw [served, serve_of_covers covered, answer] at succeeded ⊢
  dsimp only at succeeded ⊢
  rw [succeeded]
  exact status_complete _ _

theorem status_of_failure
    (served : exchange.IsServed threshold mount) (failed : exchange.outcome.failure ≠ none) :
    exchange.outcome.response.status = .internalServerError := by
  obtain ⟨fault, failure⟩ := Option.ne_none_iff_exists'.mp failed
  rw [served] at failure ⊢
  rw [response_of_failure failure]
  rfl

/-! ## A run -/

theorem run_concat (actions : List Action) (action : Action) :
    Course.run threshold mount initial (actions ++ [action]) =
      (Course.run threshold mount initial actions).step threshold mount action := by
  rw [Course.run, List.foldl_append]
  rfl

theorem isServed_of_run (actions : List Action) :
    ∀ exchange ∈ (Course.run threshold mount initial actions).exchanges,
      exchange.IsServed threshold mount := by
  induction actions using List.reverseRecOn with
  | nil => exact fun exchange member => nomatch member
  | append_singleton actions action induction =>
      rw [run_concat]
      cases action with
      | update settings => exact induction
      | request circumstances request =>
          intro exchange member
          rcases List.mem_append.mp member with earlier | last
          · exact induction exchange earlier
          · rw [List.mem_singleton.mp last]
            exact rfl

/-- Requests that count as a kind, with the status that the service has left. -/
def Course.leftWith (threshold : Log.Level) (mount : String) (course : Course)
    (kind : Path.Kind) (status : Status) : Nat :=
  course.exchanges.countP fun exchange =>
    exchange.kind? mount = some kind ∧ (exchange.left threshold mount).response.status = status

/-- Requests that count as a kind, with the status that their clients were answered. -/
def Course.answeredWith (mount : String) (course : Course)
    (kind : Path.Kind) (status : Status) : Nat :=
  course.exchanges.countP fun exchange =>
    exchange.kind? mount = some kind ∧ exchange.outcome.response.status = status

theorem counter_run (actions : List Action) (kind : Path.Kind) (status : Status) :
    (Course.run threshold mount initial actions).counter kind status =
      (Course.run threshold mount initial actions).leftWith threshold mount kind status := by
  induction actions using List.reverseRecOn with
  | nil => rfl
  | append_singleton actions action induction =>
      rw [run_concat]
      generalize Course.run threshold mount initial actions = course at induction ⊢
      cases action with
      | update settings => exact induction
      | request circumstances request =>
          rw [Course.counter, Metric.count, Course.leftWith] at induction ⊢
          simp only [Course.step]
          rw [List.count_append, induction, List.countP_append]
          congr 1
          -- What the last request adds is what it is counted as.
          let last : Exchange :=
            { circumstances
              settings := course.settings
              request
              outcome :=
                serve circumstances.collaborators circumstances.surroundings threshold mount
                  course.settings request }
          have added := @metrics_serve threshold mount last rfl
          change List.count _ last.outcome.metrics = List.countP _ [last]
          rw [added, List.countP_singleton]
          cases last.kind? mount with
          | none => simp
          | some other => simp [List.count_singleton, beq_iff_eq]

/-! ## The answers -/

/-- Where one property implies another and both hold equally often, they are the same. -/
theorem forall_of_countP_eq
    {α : Type} {weak strong : α → Bool} {list : List α}
    (implies : ∀ item ∈ list, strong item = true → weak item = true)
    (same : list.countP strong = list.countP weak) :
    ∀ item ∈ list, weak item = true → strong item = true := by
  have split : list.countP weak =
      (list.filter strong).countP weak + (list.filter fun item => !strong item).countP weak := by
    simpa using List.countP_eq_countP_filter_add list weak strong
  have covered : (list.filter strong).countP weak = list.countP strong := by
    rw [List.countP_filter, ← List.countP_congr]
    intro item member
    simpa using implies item member
  have nothing : (list.filter fun item => !strong item).countP weak = 0 := by omega
  intro item member holds
  by_contra fails
  have left : item ∈ list.filter fun item => !strong item := by
    simpa [member] using fails
  exact List.countP_eq_zero.mp nothing item left holds

/--
The counters tell what clients were answered, unless serving a request fails.

After any run of requests and updates, whatever the collaborators do, the
counter of a kind and a status is the number of requests that reached the
service with a path of this kind and in whose response it has left this status.
These are the answers of the clients if and only if each request that failed
had been left with a 500: a failure is answered with 500 whatever has been
written before it.
-/
theorem counts_answers_iff
    (threshold : Log.Level) (mount : String) (initial : ServiceSettings)
    (actions : List Action) :
    let course := Course.run threshold mount initial actions
    (∀ kind status, course.counter kind status = course.leftWith threshold mount kind status) ∧
      ((∀ kind status, course.counter kind status = course.answeredWith mount kind status) ↔
        ∀ exchange ∈ course.exchanges, exchange.outcome.failure ≠ none →
          (exchange.left threshold mount).response.status = .internalServerError) := by
  intro course
  have counts := @counter_run threshold mount initial actions
  have served := @isServed_of_run threshold mount initial actions
  refine ⟨counts, ?_⟩
  constructor
  · intro tells exchange member failed
    obtain ⟨kind, routed⟩ := kind?_of_failure (served exchange member) failed
    -- A 500 that the service has left is always answered, so the two sets are the same.
    have same : course.leftWith threshold mount kind .internalServerError =
        course.answeredWith mount kind .internalServerError :=
      (counts kind .internalServerError).symm.trans (tells kind .internalServerError)
    have also := forall_of_countP_eq ?_ same exchange member
    · simp only [decide_eq_true_eq] at also
      exact (also ⟨routed, status_of_failure (served exchange member) failed⟩).2
    · intro other otherMember left
      simp only [decide_eq_true_eq] at left ⊢
      refine ⟨left.1, ?_⟩
      by_cases otherFailed : other.outcome.failure = none
      · rw [status_of_success (served other otherMember) left.1 otherFailed, left.2]
      · exact status_of_failure (served other otherMember) otherFailed
  · intro failing kind status
    rw [counts, Course.leftWith, Course.answeredWith]
    apply List.countP_congr
    intro exchange member
    simp only [decide_eq_true_eq, and_congr_right_iff]
    intro routed
    by_cases failed : exchange.outcome.failure = none
    · rw [status_of_success (served exchange member) routed failed]
    · rw [failing exchange member failed, status_of_failure (served exchange member) failed]

/-- A client that is answered 500 is counted as one whose connection was taken over. -/
theorem counts_takeover_cutOff :
    let request : Request := { target := { path := "/sockjs/websocket".toList } }
    let course :=
      Course.run .info "/sockjs" { name := "" }
        [.request
          { surroundings := { now := 0, entropy := 0 }, collaborators := cutOff } request]
    course.answeredWith "/sockjs" .rawWebSocket .internalServerError = 1 ∧
      course.counter .rawWebSocket .internalServerError = 0 ∧
        course.answeredWith "/sockjs" .rawWebSocket .switchingProtocols = 0 ∧
          course.counter .rawWebSocket .switchingProtocols = 1 := by
  decide +kernel

end SessionGateway.Mount
