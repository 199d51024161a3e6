import SessionGateway.Scheduler

/-!
# A scheduler in use

What its users and the clock do with a scheduler, one operation after the other.
The answer to an operation are the runs that start with it.
-/

namespace SessionGateway.Scheduler

/-- What can be done with a scheduler. -/
inductive Operation where
  | every (id : String) (period : Nat) (timing : Timing)
  | once (id : String) (delay : Nat) (timing : Timing)
  | cancel (id : String)
  | drop (id : String)
  /-- Time passes. -/
  | advance (elapsed : Nat)

/-- One operation. -/
def operate (scheduler : Scheduler) : Operation → List Run × Scheduler
  | .every id period timing => ([], scheduler.every id period timing)
  | .once id delay timing => ([], scheduler.once id delay timing)
  | .cancel id => ([], scheduler.cancel id)
  | .drop id => ([], scheduler.drop id)
  | .advance elapsed => scheduler.advance elapsed

/-- Operations one after the other. -/
def operateAll (scheduler : Scheduler) : List Operation → List Run × Scheduler
  | [] => ([], scheduler)
  | operation :: rest =>
      let (runs, next) := scheduler.operate operation
      let (more, last) := next.operateAll rest
      (runs ++ more, last)

end SessionGateway.Scheduler
