import Mathlib.Data.List.Induction
import SessionGateway.Proofs.Delegation
import SessionGateway.Service.Traffic

/-!
# Snapshot isolation

A request in flight is served as if it were alone, under the settings it found
when it was taken in.

`Stage.outcome` is what a request would leave behind if it went on alone while
the settings stay as they are.  One step keeps it, whatever the cell holds
afterwards (`advance?_outcome`); a run therefore ties every stage to the moment
the request read the cell (`stage_of_run`).  Nothing is assumed about the order
of the actions, their number, or what collaborators do.
-/

namespace SessionGateway.Service

open Http

/-! ## One request -/

/-- What a request would leave behind alone, under settings that do not change. -/
def Stage.outcome (threshold : Log.Level) (circumstances : Circumstances)
    (constant : ServiceSettings) : Stage → Outcome
  | arrived arrival =>
      handle circumstances.collaborators circumstances.surroundings threshold constant
        arrival.path? arrival.request arrival.response
  | entered arrival path settings =>
      handle circumstances.collaborators circumstances.surroundings threshold settings
        (some path) arrival.request arrival.response
  | delegated arrival path call events =>
      account threshold path
        (.ofReply call events
          (circumstances.collaborators.reply arrival.request arrival.response call))
  | served path outcome => account threshold path outcome
  | finished outcome => outcome

variable
    {threshold : Log.Level}
    {circumstances : Circumstances}

/-- A step keeps the outcome; what the cell holds afterwards does not matter. -/
theorem advance?_outcome
    {current : ServiceSettings} {stage next : Stage}
    (advanced : stage.advance? threshold circumstances current = some next)
    (later : ServiceSettings) :
    next.outcome threshold circumstances later =
      stage.outcome threshold circumstances current := by
  cases stage with
  | arrived arrival =>
      obtain ⟨path?, request, response⟩ := arrival
      cases path? with
      | none =>
          cases advanced
          rfl
      | some path =>
          cases advanced
          rfl
  | entered arrival path settings =>
      simp only [Stage.advance?] at advanced
      simp only [Stage.outcome, handle]
      generalize dispatch circumstances.collaborators.validate circumstances.surroundings
          settings (description? threshold arrival.request) path arrival.request
          arrival.response = progress at advanced ⊢
      cases progress with
      | served outcome =>
          cases advanced
          rfl
      | delegated call events =>
          cases advanced
          rfl
  | delegated arrival path call events =>
      cases advanced
      rfl
  | served path outcome =>
      cases advanced
      rfl
  | finished outcome => cases advanced

/-! ## Runs -/

variable
    {environment : Nat → Circumstances}
    {initial : ServiceSettings}

/-- Everything that one action can do. -/
theorem step?_cases
    {traffic next : Traffic} {action : Action}
    (stepped : traffic.step? threshold environment action = some next) :
    (∃ settings, action = .update settings ∧ next = { traffic with settings }) ∨
      (∃ arrival, action = .arrive arrival ∧
        next = { traffic with requests := traffic.requests ++ [.arrived arrival] }) ∨
      ∃ number stage moved, action = .advance number ∧
        traffic.requests[number]? = some stage ∧
          stage.advance? threshold (environment number) traffic.settings = some moved ∧
            next = { traffic with requests := traffic.requests.set number moved } := by
  cases action with
  | update settings =>
      cases stepped
      exact Or.inl ⟨settings, rfl, rfl⟩
  | arrive arrival =>
      cases stepped
      exact Or.inr (Or.inl ⟨arrival, rfl, rfl⟩)
  | advance number =>
      rw [Traffic.step?] at stepped
      split at stepped
      · cases stepped
      · next stage present =>
          obtain ⟨moved, advanced, rfl⟩ := Option.map_eq_some_iff.mp stepped
          exact Or.inr (Or.inr ⟨number, stage, moved, rfl, present, advanced, rfl⟩)

theorem run?_concat_iff
    {traffic next : Traffic} {trace : List Action} {action : Action} :
    traffic.run? threshold environment (trace ++ [action]) = some next ↔
      ∃ former, traffic.run? threshold environment trace = some former ∧
        former.step? threshold environment action = some next := by
  simp [Traffic.run?, List.foldlM_append, Option.bind_eq_some_iff]

theorem latest_concat (trace : List Action) (action : Action) :
    latest initial (trace ++ [action]) = action.update?.getD (latest initial trace) := by
  rw [latest, List.filterMap_append]
  cases action with
  | update settings => simp [Action.update?]
  | arrive arrival => simp [Action.update?, latest]
  | advance number => simp [Action.update?, latest]

/-- The cell holds what the last update put there. -/
theorem settings_of_run
    {trace : List Action} {traffic : Traffic}
    (run : Traffic.run? threshold environment { settings := initial } trace = some traffic) :
    traffic.settings = latest initial trace := by
  induction trace using List.reverseRecOn generalizing traffic with
  | nil =>
      cases run
      rfl
  | append_singleton trace action induction =>
      obtain ⟨former, formerRun, stepped⟩ := run?_concat_iff.mp run
      rw [latest_concat, ← induction formerRun]
      rcases step?_cases stepped with
        ⟨settings, rfl, rfl⟩ | ⟨arrival, rfl, rfl⟩ | ⟨number, stage, moved, rfl, -, -, rfl⟩
      · rfl
      · rfl
      · rfl

/--
A request read the cell during a run, and its stage leads to what the request
would leave behind alone, under the settings it found there.
-/
def EnteredDuring (threshold : Log.Level) (environment : Nat → Circumstances)
    (initial : ServiceSettings) (trace : List Action) (number : Nat) (stage : Stage) : Prop :=
  ∃ before earlier arrival after,
    trace = before ++ .advance number :: after ∧
      Traffic.run? threshold environment { settings := initial } before = some earlier ∧
        earlier.requests[number]? = some (.arrived arrival) ∧
          ∀ later,
            stage.outcome threshold (environment number) later =
              handle (environment number).collaborators (environment number).surroundings
                threshold earlier.settings arrival.path? arrival.request arrival.response

theorem EnteredDuring.concat
    {trace : List Action} {number : Nat} {stage : Stage}
    (entered : EnteredDuring threshold environment initial trace number stage)
    (action : Action) :
    EnteredDuring threshold environment initial (trace ++ [action]) number stage := by
  obtain ⟨before, earlier, arrival, after, rfl, run, arrived, same⟩ := entered
  refine ⟨before, earlier, arrival, after ++ [action], ?_, run, arrived, same⟩
  rw [List.append_assoc, List.cons_append]

theorem EnteredDuring.advance
    {trace : List Action} {number : Nat} {stage moved : Stage} {current : ServiceSettings}
    (entered : EnteredDuring threshold environment initial trace number stage)
    (advanced : stage.advance? threshold (environment number) current = some moved) :
    EnteredDuring threshold environment initial trace number moved := by
  obtain ⟨before, earlier, arrival, after, split, run, arrived, same⟩ := entered
  refine ⟨before, earlier, arrival, after, split, run, arrived, ?_⟩
  intro later
  rw [advance?_outcome advanced later, same]

/-- After any run, a request has read nothing or is bound to the moment it read the cell. -/
theorem stage_of_run
    {trace : List Action} {traffic : Traffic}
    (run : Traffic.run? threshold environment { settings := initial } trace = some traffic)
    {number : Nat} {stage : Stage}
    (present : traffic.requests[number]? = some stage) :
    (∃ arrival, stage = .arrived arrival) ∨
      EnteredDuring threshold environment initial trace number stage := by
  induction trace using List.reverseRecOn generalizing traffic stage with
  | nil =>
      cases run
      cases present
  | append_singleton trace action induction =>
      obtain ⟨former, formerRun, stepped⟩ := run?_concat_iff.mp run
      -- A stage that the last action leaves alone was there before it.
      have unmoved :
          former.requests[number]? = some stage →
            (∃ arrival, stage = .arrived arrival) ∨
              EnteredDuring threshold environment initial (trace ++ [action]) number stage := by
        intro before
        rcases induction formerRun before with arrived | entered
        · exact Or.inl arrived
        · exact Or.inr (entered.concat action)
      rcases step?_cases stepped with
        ⟨settings, rfl, rfl⟩ | ⟨arrival, rfl, rfl⟩ |
          ⟨other, stage', moved, rfl, before, advanced, rfl⟩
      · exact unmoved present
      · by_cases old : number < former.requests.length
        · rw [List.getElem?_append_left old] at present
          exact unmoved present
        · rw [List.getElem?_append_right (Nat.le_of_not_lt old)] at present
          have added : stage ∈ [Stage.arrived arrival] := List.mem_of_getElem? present
          exact Or.inl ⟨arrival, List.mem_singleton.mp added⟩
      · by_cases same : other = number
        · subst same
          have inside : other < former.requests.length :=
            (List.getElem?_eq_some_iff.mp before).1
          rw [List.getElem?_set_self inside, Option.some.injEq] at present
          subst present
          rcases induction formerRun before with ⟨arrival, rfl⟩ | entered
          · exact
              Or.inr
                ⟨trace, former, arrival, [], rfl, formerRun, before,
                  advance?_outcome advanced⟩
          · exact Or.inr ((entered.concat _).advance advanced)
        · rw [List.getElem?_set_ne same] at present
          exact unmoved present

/--
Snapshot isolation.  Whatever else happens, a finished request leaves behind
exactly what it leaves behind alone under the settings it found when it was
taken in, which are those of the last update before that, as a whole; a
transport it was handed to got these settings.
-/
theorem finished_eq_handle
    (threshold : Log.Level) (environment : Nat → Circumstances)
    (initial : ServiceSettings) (trace : List Action) (traffic : Traffic)
    (run : Traffic.run? threshold environment { settings := initial } trace = some traffic)
    (number : Nat) (outcome : Outcome)
    (finished : traffic.requests[number]? = some (.finished outcome)) :
    ∃ before earlier arrival after,
      trace = before ++ .advance number :: after ∧
        Traffic.run? threshold environment { settings := initial } before = some earlier ∧
          earlier.requests[number]? = some (.arrived arrival) ∧
            earlier.settings = latest initial before ∧
              outcome =
                  handle (environment number).collaborators (environment number).surroundings
                    threshold earlier.settings arrival.path? arrival.request
                    arrival.response ∧
                ∀ context, .session context ∈ outcome.calls →
                  context.settings = earlier.settings := by
  rcases stage_of_run run finished with ⟨arrival, other⟩ | entered
  · cases other
  · obtain ⟨before, earlier, arrival, after, split, earlierRun, arrived, same⟩ := entered
    have isolated := same initial
    refine
      ⟨before, earlier, arrival, after, split, earlierRun, arrived,
        settings_of_run earlierRun, isolated, ?_⟩
    intro context member
    rw [Stage.outcome] at isolated
    rw [isolated] at member
    obtain ⟨path, -, delegates⟩ := mem_handle_calls_iff.mp member
    exact (delegates_session_iff.mp delegates).2.2.2

/-- A session request during which WebSocket is disabled, and another one is refused. -/
def overtaken : List Action :=
  let arrival : Arrival := { path? := some "/a/b/websocket" }
  [ .arrive arrival, .advance 0, .update { name := "second", websocketEnabled := false },
    .advance 0, .arrive arrival, .advance 1, .advance 1, .update { name := "third" },
    .advance 0, .advance 1, .advance 0 ]

/-- Collaborators that accept every session and leave the response as it is. -/
def lenient : Collaborators where
  raw _ response := { response }
  validate _ _ _ := pure true
  session _ _ response := { response }

theorem finished_eq_handle_overtaken :
    let environment : Nat → Circumstances :=
      fun _ => { surroundings := { now := 0, entropy := 0 }, collaborators := lenient }
    ∃ traffic outcome refused,
      Traffic.run? .info environment { settings := { name := "first" } } overtaken =
          some traffic ∧
        traffic.requests[0]? = some (.finished outcome) ∧
          traffic.requests[1]? = some (.finished refused) ∧
            outcome.calls =
                [.session
                  { serverId := "a", sessionId := "b", transport := "websocket",
                    settings := { name := "first" } }] ∧
              refused.calls = [] ∧
                ∃ before earlier arrival after,
                  overtaken = before ++ .advance 0 :: after ∧
                    Traffic.run? .info environment { settings := { name := "first" } } before =
                        some earlier ∧
                      earlier.requests[0]? = some (.arrived arrival) ∧
                        earlier.settings = latest { name := "first" } before ∧
                          outcome =
                              handle lenient { now := 0, entropy := 0 } .info earlier.settings
                                arrival.path? arrival.request arrival.response ∧
                            ∀ context, .session context ∈ outcome.calls →
                              context.settings = earlier.settings := by
  intro environment
  exact
    ⟨_, _, _, rfl, rfl, rfl, rfl, rfl,
      finished_eq_handle .info environment { name := "first" } overtaken _ rfl 0 _ rfl⟩

end SessionGateway.Service
