import SessionGateway.Log
import SessionGateway.Text.Ascii

/-!
# The scheduler

Tasks on a clock that only `Scheduler.advance` moves.  A repeated task runs one
period after it was scheduled and again one period after each of its runs has
ended; a single one runs once.  Tasks do not influence each other.

How late a task wakes up, and how long its runs take, is not up to the scheduler:
its `Timing` comes with the task.

Time is counted in nanoseconds.  A period shorter than a millisecond is
raised to one, so a repeated task cannot run without end.
-/

namespace SessionGateway.Scheduler

/-- The shortest period. -/
def shortestPeriod : Nat := 1000000

/-- The period a task is repeated with. -/
def effectivePeriod (period : Nat) : Nat :=
  max period shortestPeriod

theorem shortestPeriod_le_effectivePeriod (period : Nat) :
    shortestPeriod ≤ effectivePeriod period :=
  Nat.le_max_right _ _

theorem effectivePeriod_pos (period : Nat) : 0 < effectivePeriod period :=
  Nat.lt_of_lt_of_le (by decide) (shortestPeriod_le_effectivePeriod period)

/-- A length of time below a millisecond, for the log. -/
def shortText (time : Nat) : String :=
  if time < 1000 then
    s!"{time}ns"
  else
    let digits := (Text.padded 3 (time % 1000)).toList
    let fraction := (digits.reverse.dropWhile (· == '0')).reverse
    let point := if fraction.isEmpty then "" else "."
    s!"{time / 1000}{point}{String.ofList fraction}µs"

/-- Logged for a period that is too short. -/
def periodTooShort (period : Nat) : Log.Event :=
  { level := .warn
    message := "Fixed-delay period too short, using 1ms"
    fields := [("period", shortText period)] }

/-- What is logged when a task is repeated with a period. -/
def periodEvents (period : Nat) : List Log.Event :=
  if period < shortestPeriod then [periodTooShort period] else []

/-- How a task runs. -/
inductive Plan where
  /-- Again and again, one period after each run has ended. -/
  | repeated (period : Nat)
  | single
  deriving DecidableEq, Repr

/-- What the scheduler has no hold on; runs are numbered from zero. -/
structure Timing where
  /-- How much later than it is due a run starts. -/
  lateness : Nat → Nat := fun _ => 0
  /-- How long a run takes. -/
  work : Nat → Nat := fun _ => 0

/-- A scheduled task. -/
structure Task where
  plan : Plan
  timing : Timing
  /-- How many runs have started. -/
  started : Nat := 0
  /-- When the next run is due; absent once no run will start. -/
  due : Option Nat

namespace Task

/-- A task that is repeated from now on. -/
def every (now period : Nat) (timing : Timing) : Task :=
  { plan := .repeated period, timing, due := some (now + effectivePeriod period) }

/-- A task that runs once. -/
def once (now delay : Nat) (timing : Timing) : Task :=
  { plan := .single, timing, due := some (now + delay) }

/-- Stops a task; a run in progress is cut off. -/
def cancel (task : Task) : Task :=
  { task with due := none }

/-- Whether no run will start any more. -/
def isFinished (task : Task) : Bool :=
  task.due.isNone

/-- When the next run starts. -/
def wake? (task : Task) : Option Nat :=
  task.due.map fun due => due + task.timing.lateness task.started

/-- The task after a run that starts at some time. -/
def run (start : Nat) (task : Task) : Task :=
  { task with
    started := task.started + 1
    due := match task.plan with
      | .repeated period =>
          some (start + task.timing.work task.started + effectivePeriod period)
      | .single => none }

/-- The next run starts later than this one. -/
theorem lt_of_wake?_run {start wake : Nat} {task : Task}
    (wakes : (task.run start).wake? = some wake) : start < wake := by
  obtain ⟨due, next, rfl⟩ := Option.map_eq_some_iff.mp wakes
  rw [run] at next
  split at next
  · next period _ =>
      have positive : 0 < effectivePeriod period := effectivePeriod_pos period
      cases next
      omega
  · cases next

/-- Lets time pass up to `now`; answers when runs started. -/
def advance (now : Nat) (task : Task) : List Nat × Task :=
  match _wakes : task.wake? with
  | none => ([], task)
  | some start =>
      if start ≤ now then
        let (starts, rest) := (task.run start).advance now
        (start :: starts, rest)
      else
        ([], task)
termination_by task.wake?.elim 0 fun wake => now + 1 - wake
decreasing_by
  cases later : (task.run start).wake? with
  | none =>
      simp only [_wakes, Option.elim]
      omega
  | some wake =>
      have after := lt_of_wake?_run later
      simp only [_wakes, Option.elim]
      omega

end Task

/-- A start of a run: when, and of which task. -/
structure Run where
  time : Nat
  id : String
  deriving DecidableEq, Repr

/-- The order of runs: by time, then by name. -/
def Run.before (left right : Run) : Bool :=
  left.time < right.time || (left.time == right.time && left.id ≤ right.id)

end Scheduler

/-- A clock and the tasks held on it, by name. -/
structure Scheduler where
  now : Nat := 0
  tasks : List (String × Scheduler.Task) := []

namespace Scheduler

/-- The task with a name. -/
def task? (scheduler : Scheduler) (id : String) : Option Task :=
  scheduler.tasks.lookup id

/-- Gives up a task. -/
def drop (scheduler : Scheduler) (id : String) : Scheduler :=
  { scheduler with tasks := scheduler.tasks.filter fun entry => entry.1 ≠ id }

/-- Holds a task under a name; a task held under it before is given up. -/
def hold (scheduler : Scheduler) (id : String) (task : Task) : Scheduler :=
  let kept := scheduler.drop id
  { kept with tasks := kept.tasks ++ [(id, task)] }

/-- Repeats a task from now on. -/
def every (scheduler : Scheduler) (id : String) (period : Nat) (timing : Timing) : Scheduler :=
  scheduler.hold id (Task.every scheduler.now period timing)

/-- Runs a task once after a delay. -/
def once (scheduler : Scheduler) (id : String) (delay : Nat) (timing : Timing) : Scheduler :=
  scheduler.hold id (Task.once scheduler.now delay timing)

/-- Stops a task, which stays held. -/
def cancel (scheduler : Scheduler) (id : String) : Scheduler :=
  { scheduler with
    tasks := scheduler.tasks.map fun entry =>
      if entry.1 = id then (entry.1, entry.2.cancel) else entry }

/-- Lets time pass; answers the runs that started, those due at the very end included. -/
def advance (scheduler : Scheduler) (elapsed : Nat) : List Run × Scheduler :=
  let now := scheduler.now + elapsed
  let runs := scheduler.tasks.flatMap fun (id, task) =>
    (task.advance now).1.map fun time => { time, id }
  let tasks := scheduler.tasks.map fun (id, task) => (id, (task.advance now).2)
  (runs.mergeSort Run.before, { now, tasks })

/-- Why no scheduler can be had outside a running program. -/
def unavailableMessage : String :=
  "there is no reactor running, must be called from the context of a Tokio 1.x runtime"

end Scheduler

end SessionGateway
