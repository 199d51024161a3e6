import SessionGateway.Mount
import SessionGateway.Service.Traffic

/-!
# Mounted services under way

A mounted service takes one request after the other, and its settings may be
replaced between two of them.  `Course.step` is one of these actions,
`Course.run` a run of them from the start.

A course keeps account of the requests, with what each of them met and left
behind, and of the increments of the counters.
-/

namespace SessionGateway.Mount

open Http

/-- What can happen to a mounted service. -/
inductive Action where
  | request (circumstances : Service.Circumstances) (request : Request)
  /-- The settings are replaced as a whole. -/
  | update (settings : ServiceSettings)

/-- A request that has been answered. -/
structure Exchange where
  circumstances : Service.Circumstances
  /-- The settings at that time. -/
  settings : ServiceSettings
  request : Request
  outcome : Service.Outcome

structure Course where
  settings : ServiceSettings
  exchanges : List Exchange := []
  metrics : List Metric := []

namespace Course

/-- One action. -/
def step (threshold : Log.Level) (mount : String) (course : Course) : Action → Course
  | .request circumstances request =>
      let settings := course.settings
      let outcome :=
        serve circumstances.collaborators circumstances.surroundings threshold mount settings
          request
      { course with
        exchanges := course.exchanges ++ [{ circumstances, settings, request, outcome }]
        metrics := course.metrics ++ outcome.metrics }
  | .update settings => { course with settings }

/-- Actions one after the other, from the start. -/
def run (threshold : Log.Level) (mount : String) (initial : ServiceSettings)
    (actions : List Action) : Course :=
  actions.foldl (step threshold mount) { settings := initial }

/-- The value of the counter of a kind of path and a status. -/
def counter (course : Course) (kind : Path.Kind) (status : Status) : Nat :=
  Metric.count course.metrics (.requests kind status)

end Course

end SessionGateway.Mount
