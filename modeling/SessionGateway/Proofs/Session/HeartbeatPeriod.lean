import Mathlib.Data.Nat.Find
import Mathlib.Order.WellFounded
import SessionGateway.Proofs.ScheduledRuns
import SessionGateway.Proofs.Settings.Duration
import SessionGateway.WebSocket.Hub

/-!
# The period of a heartbeat

What becomes of a duration that somebody configures: settings keep what they can of
it, and the heartbeat of a session runs by what they have kept.

`startOf` says when the runs of a repeated task start, whatever its timing.  A task is
`OnSchedule` after each of its runs (`OnSchedule.run`), so the runs that start in any
time are those that `startOf` puts there (`OnSchedule.advance`, `advance_every`).
-/

namespace SessionGateway

namespace Scheduler

/-- When the runs of a task start that is repeated with a gap from now on. -/
def startOf (now gap : Nat) (timing : Timing) : Nat → Nat
  | 0 => now + gap + timing.lateness 0
  | number + 1 =>
      startOf now gap timing number + timing.work number + gap + timing.lateness (number + 1)

variable {now gap period later count : Nat} {timing : Timing}

theorem strictMono_startOf (positive : 0 < gap) : StrictMono (startOf now gap timing) := by
  refine strictMono_nat_of_lt_succ fun number => ?_
  rw [startOf]
  omega

/-- As there is some time between them, only so many runs start before any time. -/
theorem exists_count_startOf (positive : 0 < gap) :
    ∃ count, ∀ number, number < count ↔ startOf now gap timing number ≤ later := by
  have ordered : StrictMono (startOf now gap timing) := strictMono_startOf positive
  have ends : ∃ count, later < startOf now gap timing count :=
    ⟨later + 1, ordered.le_apply⟩
  refine ⟨Nat.find ends, fun number => ⟨fun before => ?_, fun inTime => ?_⟩⟩
  · exact Nat.le_of_not_lt (Nat.find_min ends before)
  · exact ordered.lt_iff_lt.mp (Nat.lt_of_le_of_lt inTime (Nat.find_spec ends))

namespace Task

variable {task : Task}

/-- The next run of a repeated task starts when `startOf` says. -/
structure OnSchedule (now period : Nat) (timing : Timing) (task : Task) : Prop where
  plan : task.plan = .repeated period
  timed : task.timing = timing
  wakes : task.wake? = some (startOf now (effectivePeriod period) timing task.started)

theorem onSchedule_every (now period : Nat) (timing : Timing) :
    OnSchedule now period timing (every now period timing) :=
  ⟨rfl, rfl, rfl⟩

theorem OnSchedule.run (onSchedule : OnSchedule now period timing task) :
    OnSchedule now period timing
      (task.run (startOf now (effectivePeriod period) timing task.started)) where
  plan := onSchedule.plan
  timed := onSchedule.timed
  wakes := by
    simp only [wake?, Task.run, onSchedule.plan, onSchedule.timed, Option.map_some, startOf]

/-- While time passes, those runs start whose time comes, from the next one on. -/
theorem OnSchedule.advance (onSchedule : OnSchedule now period timing task)
    (inTime : ∀ number,
      number < task.started + count ↔
        startOf now (effectivePeriod period) timing number ≤ later) :
    (task.advance later).1 =
      (List.range' task.started count).map (startOf now (effectivePeriod period) timing) := by
  induction count generalizing task with
  | zero =>
      have early : later < startOf now (effectivePeriod period) timing task.started :=
        Nat.lt_of_not_le fun due => Nat.lt_irrefl _ ((inTime task.started).mpr due)
      rw [advance_of_asleep (by simpa [onSchedule.wakes] using early)]
      rfl
  | succ count induction =>
      have due : startOf now (effectivePeriod period) timing task.started ≤ later :=
        (inTime task.started).mp (by omega)
      have next : (task.run (startOf now (effectivePeriod period) timing task.started)).started =
          task.started + 1 := rfl
      have rest := induction onSchedule.run fun number => by
        rw [← inTime, next, Nat.add_right_comm, Nat.add_assoc]
      rw [advance_of_awake onSchedule.wakes due, rest]
      rfl

theorem advance_every (now period later : Nat) (timing : Timing) :
    ∃ count,
      ((every now period timing).advance later).1 =
          (List.range count).map (startOf now (effectivePeriod period) timing) ∧
        ∀ number, number < count ↔
          startOf now (effectivePeriod period) timing number ≤ later := by
  obtain ⟨count, inTime⟩ := exists_count_startOf (effectivePeriod_pos period)
  refine ⟨count, ?_, inTime⟩
  rw [List.range_eq_range']
  refine (onSchedule_every now period timing).advance fun number => ?_
  rw [← inTime, every, Nat.zero_add]

end Task

end Scheduler

namespace WebSocket

open Scheduler

variable {σ : Type}

theorem period_ofSettings (application : Session.Application σ) (sessionId : String)
    (settings : ServiceSettings) :
    (Session.Setup.ofSettings application sessionId settings).period =
      settings.heartbeatDuration.toNanoseconds :=
  (Duration.toNanoseconds_ofMilliseconds _).symm

/-- The heartbeat of a session that has just been accepted. -/
theorem exists_accept_session (hub : Hub σ) (rawId : String)
    (context : Service.SessionContext) :
    ∃ setup state,
      hub.accept rawId (.session context) =
        .session setup state
          (Task.every hub.now context.settings.heartbeatDuration.toNanoseconds {}) := by
  let setup := Session.Setup.ofSettings hub.application context.sessionId context.settings
  refine ⟨setup, Session.start setup hub.memory, ?_⟩
  rw [← period_ofSettings hub.application context.sessionId]
  rfl

/--
Settings keep a duration as well as whole milliseconds in sixty-four bits can, be it the
time between heartbeats or that until a client counts as gone.

The heartbeat of a session is repeated with what they have kept, or with a millisecond if
that is longer.  So there is always some time between its runs, even if the duration was
below a millisecond and nothing of it is left.  However late it wakes up and however long
it takes, it runs when a task of that period runs, and at no other time.
-/
theorem durations_kept (hub : Hub σ) (rawId : String) (context : Service.SessionContext)
    (settings : ServiceSettings) :
    Duration.Keeps (fun delay => (settings.withDisconnectDelay delay).disconnectDuration) ∧
      Duration.Keeps
        (fun interval => (settings.withHeartbeatInterval interval).heartbeatDuration) ∧
      ∀ interval : Duration,
        let configured := settings.withHeartbeatInterval interval
        let gap := max configured.heartbeatDuration (.ofMilliseconds 1)
        0 < gap.toNanoseconds ∧
          (interval < .ofMilliseconds 1 →
            configured.heartbeatDuration = .ofMilliseconds 0 ∧ gap = .ofMilliseconds 1) ∧
          ∃ setup state heart,
            hub.accept rawId (.session { context with settings := configured }) =
                .session setup state heart ∧
              ∀ (timing : Timing) (later : Nat), ∃ count,
                (Task.advance later { heart with timing }).1 =
                    (List.range count).map (startOf hub.now gap.toNanoseconds timing) ∧
                  ∀ number, number < count ↔
                    startOf hub.now gap.toNanoseconds timing number ≤ later := by
  refine ⟨Duration.keeps_rounded, Duration.keeps_rounded, fun interval => ?_⟩
  intro configured gap
  have length : gap.toNanoseconds =
      effectivePeriod configured.heartbeatDuration.toNanoseconds :=
    Duration.toNanoseconds_max _ _
  refine ⟨?_, fun short => ?_, ?_⟩
  · rw [length]
    exact effectivePeriod_pos _
  · have nothing : configured.heartbeatDuration = .ofMilliseconds 0 :=
      Duration.rounded_of_lt short
    exact ⟨nothing, congrArg (max · (.ofMilliseconds 1)) nothing⟩
  · obtain ⟨setup, state, accepted⟩ :=
      exists_accept_session hub rawId { context with settings := configured }
    rw [length]
    exact ⟨setup, state, _, accepted, fun timing later => Task.advance_every _ _ _ timing⟩

/-- An interval just below a millisecond is kept as none, the longest delay of all is cut. -/
theorem durations_kept_short :
    let hub := Hub.start "/sockjs" Session.Application.echo { name := "echo" } () .error
    let interval : Duration := { seconds := 0, nanoseconds := 999999 }
    let configured := hub.settings.withHeartbeatInterval interval
    let gap := max configured.heartbeatDuration (.ofMilliseconds 1)
    let delay : Duration := { seconds := 18446744073709551615, nanoseconds := 999999999 }
    (interval < .ofMilliseconds 1 ∧
        configured.heartbeatDuration = .ofMilliseconds 0 ∧ gap = .ofMilliseconds 1) ∧
      delay > .longest ∧
        (hub.settings.withDisconnectDelay delay).disconnectDuration = .longest := by
  intro hub interval configured gap delay
  have short : interval < .ofMilliseconds 1 := by decide
  have long : delay > .longest := by decide
  have kept := durations_kept hub "raw"
    { serverId := "000", sessionId := "a", transport := "websocket", settings := hub.settings }
    hub.settings
  exact ⟨⟨short, (kept.2.2 interval).2.1 short⟩, long, kept.1.saturates delay long⟩

end WebSocket

end SessionGateway
