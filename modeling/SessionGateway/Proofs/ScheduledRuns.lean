import Mathlib.Logic.Basic
import SessionGateway.Scheduler.Course

/-!
# When runs start

The runs of a scheduled task, whatever is done with the scheduler meanwhile, however
late the task wakes up and however long its runs take.

What is held under one name is all that counts for its runs: `Operation.under` says
what an operation does there, and `operate_under` that a scheduler does just that.
So tasks are independent (`SameFor`), and a single one has few fates (`Fate`).  What
all of them keep is kept over a whole use of the scheduler (`of_fates`); for a
repeated task that is the distance between its runs (`Spaced`).
-/

namespace SessionGateway.Scheduler

/-! ## Distance between runs -/

/--
Starts that keep a distance: each comes `gap` after the run before has ended, and the
first one `gap` after `ended`.  The first one has the given number.
-/
inductive Spaced (gap : Nat) (work : Nat → Nat) : Nat → Nat → List Nat → Prop where
  | nil (number ended : Nat) : Spaced gap work number ended []
  | cons {number ended start : Nat} {starts : List Nat}
      (after : ended + gap ≤ start)
      (rest : Spaced gap work (number + 1) (start + work number) starts) :
      Spaced gap work number ended (start :: starts)

namespace Spaced

variable {gap number ended start following : Nat} {work : Nat → Nat} {starts : List Nat}

theorem le_of_mem (spaced : Spaced gap work number ended starts) :
    ∀ start ∈ starts, ended + gap ≤ start := by
  induction spaced with
  | nil => simp
  | cons after _ induction =>
      intro other member
      rcases List.mem_cons.mp member with rfl | later
      · exact after
      · have bound := induction other later
        omega

theorem le_following (spaced : Spaced gap work number ended starts) {index : Nat}
    (this : starts[index]? = some start) (next : starts[index + 1]? = some following) :
    start + work (number + index) + gap ≤ following := by
  induction spaced generalizing index with
  | nil => cases this
  | @cons number ended first rest after spaced induction =>
      cases index with
      | zero =>
          cases this
          exact spaced.le_of_mem following (List.mem_of_getElem? next)
      | succ index =>
          have bound := induction this next
          have same : number + 1 + index = number + (index + 1) := by omega
          rwa [same] at bound

theorem countP_eq_zero {time : Nat} (spaced : Spaced gap work number ended starts)
    (early : time < ended + gap) : starts.countP (fun start => start ≤ time) = 0 := by
  rw [List.countP_eq_zero]
  intro start member
  have bound := spaced.le_of_mem start member
  rw [decide_eq_true_eq]
  omega

/-- As many starts as there is time for. -/
theorem countP_mul_le (spaced : Spaced gap work number ended starts) (elapsed : Nat) :
    starts.countP (fun start => start ≤ ended + elapsed) * gap ≤ elapsed := by
  induction spaced generalizing elapsed with
  | nil => simp
  | @cons number ended first rest after spaced induction =>
      -- The first start takes a whole gap; the others come behind the end of its run.
      rw [List.countP_cons]
      by_cases inTime : first ≤ ended + elapsed
      · rw [if_pos (decide_eq_true inTime), Nat.succ_mul]
        by_cases last : ended + elapsed < first + work number + gap
        · rw [spaced.countP_eq_zero last]
          omega
        · have left := induction (ended + elapsed - (first + work number))
          rw [Nat.add_sub_cancel' (by omega)] at left
          omega
      · rw [spaced.countP_eq_zero (by omega), if_neg (by simpa using inTime)]
        omega

end Spaced

/-! ## One task -/

namespace Task

variable {task : Task} {period ended now : Nat} {timing : Timing}

/-- A task that is repeated, its last run having ended. -/
structure Rested (period : Nat) (timing : Timing) (ended : Nat) (task : Task) : Prop where
  plan : task.plan = .repeated period
  timing : task.timing = timing
  due : ∀ due ∈ task.due, ended + effectivePeriod period ≤ due

/-- A single task that is not due before some time. -/
structure Awaits (time : Nat) (task : Task) : Prop where
  plan : task.plan = .single
  due : ∀ due ∈ task.due, time ≤ due

theorem rested_every (now period : Nat) (timing : Timing) :
    Rested period timing now (every now period timing) where
  plan := rfl
  timing := rfl
  due := by
    rintro _ ⟨⟩
    exact Nat.le_refl _

theorem awaits_once (now delay : Nat) (timing : Timing) :
    Awaits (now + delay) (once now delay timing) where
  plan := rfl
  due := by
    rintro _ ⟨⟩
    exact Nat.le_refl _

theorem Rested.cancel (rested : Rested period timing ended task) :
    Rested period timing ended task.cancel where
  plan := rested.plan
  timing := rested.timing
  due := by simp [Task.cancel]

/-- A task does not wake up before it is due. -/
theorem exists_due_of_wake? {start : Nat} (wakes : task.wake? = some start) :
    ∃ due ∈ task.due, due ≤ start := by
  obtain ⟨due, some, rfl⟩ := Option.map_eq_some_iff.mp wakes
  exact ⟨due, some, Nat.le_add_right _ _⟩

theorem Rested.run (rested : Rested period timing ended task) (start : Nat) :
    Rested period timing (start + timing.work task.started) (task.run start) where
  plan := rested.plan
  timing := rested.timing
  due := by
    intro due next
    simp only [Task.run, rested.plan, rested.timing, Option.mem_some_iff] at next
    exact Nat.le_of_eq next

/-- Nothing happens before a task wakes up. -/
theorem advance_of_asleep (asleep : ∀ start ∈ task.wake?, now < start) :
    task.advance now = ([], task) := by
  rw [advance]
  split
  · rfl
  · next start wakes => exact if_neg (Nat.not_le_of_lt (asleep start wakes))

theorem advance_of_finished (finished : task.due = none) (now : Nat) :
    task.advance now = ([], task) := by
  refine advance_of_asleep fun start wakes => ?_
  rcases exists_due_of_wake? wakes with ⟨due, next, -⟩
  rw [finished] at next
  cases next

theorem advance_of_awake {start : Nat} (wakes : task.wake? = some start) (inTime : start ≤ now) :
    task.advance now =
      (start :: ((task.run start).advance now).1, ((task.run start).advance now).2) := by
  rw [advance, wakes]
  exact if_pos inTime

/-- Time passes for a task in runs, up to one that is too late. -/
theorem advance_induction {motive : Task → List Nat → Task → Prop}
    (asleep : ∀ task, (∀ start ∈ task.wake?, now < start) → motive task [] task)
    (awake : ∀ {task start starts rest}, task.wake? = some start →
      motive (task.run start) starts rest → motive task (start :: starts) rest)
    (task : Task) : motive task (task.advance now).1 (task.advance now).2 := by
  induction task using Task.advance.induct now with
  | case1 task never =>
      have waits : ∀ start ∈ task.wake?, now < start := by simp [never]
      rw [advance_of_asleep waits]
      exact asleep task waits
  | case2 task start wakes inTime _ _ _ induction =>
      rw [advance_of_awake wakes inTime]
      exact awake wakes induction
  | case3 task start wakes early =>
      have waits : ∀ start ∈ task.wake?, now < start := by simpa [wakes] using early
      rw [advance_of_asleep waits]
      exact asleep task waits

/-- Runs start in order, and none before the task wakes up. -/
theorem pairwise_advance (now : Nat) (task : Task) :
    (task.advance now).1.Pairwise (· ≤ ·) ∧
      ∀ start ∈ (task.advance now).1, ∃ wake ∈ task.wake?, wake ≤ start := by
  refine advance_induction (motive := fun task starts _ =>
    starts.Pairwise (· ≤ ·) ∧ ∀ start ∈ starts, ∃ wake ∈ task.wake?, wake ≤ start) ?_ ?_ task
  · exact fun _ _ => ⟨.nil, by simp⟩
  · rintro task start starts rest wakes ⟨ordered, after⟩
    have first : ∀ later ∈ starts, start ≤ later := by
      intro later member
      rcases after later member with ⟨wake, next, bound⟩
      exact Nat.le_trans (Nat.le_of_lt (lt_of_wake?_run next)) bound
    refine ⟨List.pairwise_cons.mpr ⟨first, ordered⟩, fun later member => ⟨start, wakes, ?_⟩⟩
    rcases List.mem_cons.mp member with rfl | member
    · exact Nat.le_refl _
    · exact first later member

/-- Whatever follows at a distance also follows the runs that start meanwhile. -/
theorem Rested.advance (rested : Rested period timing ended task) (now : Nat) :
    ∃ later, Rested period timing later (task.advance now).2 ∧
      ∀ more,
        Spaced (effectivePeriod period) timing.work (task.advance now).2.started later more →
          Spaced (effectivePeriod period) timing.work task.started ended
            ((task.advance now).1 ++ more) := by
  refine advance_induction (motive := fun task starts rest => ∀ {ended},
    Rested period timing ended task → ∃ later, Rested period timing later rest ∧
      ∀ more, Spaced (effectivePeriod period) timing.work rest.started later more →
        Spaced (effectivePeriod period) timing.work task.started ended (starts ++ more))
    ?_ ?_ task rested
  · exact fun _ _ ended rested => ⟨ended, rested, fun _ spaced => spaced⟩
  · intro task start starts rest wakes induction ended rested
    rcases induction (rested.run start) with ⟨later, still, continues⟩
    rcases exists_due_of_wake? wakes with ⟨due, next, inFront⟩
    refine ⟨later, still, fun more spaced => ?_⟩
    exact .cons (Nat.le_trans (rested.due due next) inFront) (continues more spaced)

/-- A single task goes on as it was, or runs and is finished. -/
theorem Awaits.advance {time : Nat} (awaits : Awaits time task) (now : Nat) :
    task.advance now = ([], task) ∨
      ∃ start, time ≤ start ∧ (task.advance now).1 = [start] ∧
        (task.advance now).2.due = none := by
  cases wakes : task.wake? with
  | none => exact Or.inl (advance_of_asleep (by simp [wakes]))
  | some start =>
      rcases Nat.lt_or_ge now start with early | inTime
      · exact Or.inl (advance_of_asleep (by simpa [wakes] using early))
      · rcases exists_due_of_wake? wakes with ⟨due, next, inFront⟩
        have finished : (task.run start).due = none := by rw [Task.run, awaits.plan]
        rw [advance_of_awake wakes inTime, advance_of_finished finished]
        exact Or.inr ⟨start, Nat.le_trans (awaits.due due next) inFront, rfl, finished⟩

end Task

/-! ## What is held under a name -/

/-- The tasks held under a name, of which there is at most one. -/
def held (scheduler : Scheduler) (id : String) : List Task :=
  (scheduler.tasks.filter fun entry => entry.1 = id).map Prod.snd

/-- When runs of a task started. -/
def startsOf (id : String) (runs : List Run) : List Nat :=
  (runs.filter fun run => run.id = id).map Run.time

@[simp] theorem startsOf_append (id : String) (left right : List Run) :
    startsOf id (left ++ right) = startsOf id left ++ startsOf id right := by
  simp [startsOf]

variable {scheduler : Scheduler} {id other : String}

theorem held_drop (scheduler : Scheduler) (id other : String) :
    (scheduler.drop other).held id = if other = id then [] else scheduler.held id := by
  by_cases same : other = id
  · simp [held, drop, same]
  · rw [if_neg same, held, held, drop, List.filter_filter]
    congr 1
    refine List.filter_congr fun entry _ => ?_
    by_cases named : entry.1 = id
    · simp [named, Ne.symm same]
    · simp [named]

theorem held_hold (scheduler : Scheduler) (id other : String) (task : Task) :
    (scheduler.hold other task).held id =
      if other = id then [task] else scheduler.held id := by
  have apart : (scheduler.hold other task).held id =
      (scheduler.drop other).held id ++ if other = id then [task] else [] := by
    by_cases same : other = id
    · simp [held, hold, same]
    · simp [held, hold, same]
  rw [apart, held_drop]
  split
  · rfl
  · exact List.append_nil _

/-- What is done with every task is done with those held under a name. -/
theorem held_map (scheduler : Scheduler) (id : String) (change : String → Task → Task)
    (now : Nat) :
    held { now, tasks := scheduler.tasks.map fun entry => (entry.1, change entry.1 entry.2) } id =
      (scheduler.held id).map (change id) := by
  simp only [held, List.filter_map, List.map_map]
  refine List.map_congr_left fun entry member => ?_
  have named : entry.1 = id := by simpa using (List.mem_filter.mp member).2
  simp [named]

theorem held_cancel (scheduler : Scheduler) (id other : String) :
    (scheduler.cancel other).held id =
      if other = id then (scheduler.held id).map Task.cancel else scheduler.held id := by
  have changed : (scheduler.cancel other).held id =
      (scheduler.held id).map fun task => if id = other then task.cancel else task := by
    rw [← held_map scheduler id (fun id task => if id = other then task.cancel else task)
      scheduler.now, cancel]
    congr 2
    refine List.map_congr_left fun entry _ => ?_
    split <;> rfl
  rw [changed]
  by_cases same : other = id
  · simp [same]
  · simp [same, Ne.symm same]

theorem held_advance (scheduler : Scheduler) (id : String) (elapsed : Nat) :
    (scheduler.advance elapsed).2.held id =
      (scheduler.held id).map fun task => (task.advance (scheduler.now + elapsed)).2 :=
  held_map scheduler id (fun _ task => (task.advance (scheduler.now + elapsed)).2) _

theorem Run.before_trans (left middle right : Run) :
    left.before middle = true → middle.before right = true → left.before right = true := by
  simp only [Run.before, Bool.or_eq_true, Bool.and_eq_true, decide_eq_true_eq, beq_iff_eq]
  rintro (sooner | ⟨same, named⟩) (later | ⟨equal, ordered⟩)
  · exact Or.inl (Nat.lt_trans sooner later)
  · exact Or.inl (equal ▸ sooner)
  · exact Or.inl (same ▸ later)
  · exact Or.inr ⟨same.trans equal, String.le_trans named ordered⟩

theorem Run.before_total (left right : Run) : (left.before right || right.before left) = true := by
  simp only [Run.before, Bool.or_eq_true, Bool.and_eq_true, decide_eq_true_eq, beq_iff_eq]
  rcases Nat.lt_trichotomy left.time right.time with sooner | same | later
  · exact Or.inl (Or.inl sooner)
  · rcases String.le_total left.id right.id with ordered | ordered
    · exact Or.inl (Or.inr ⟨same, ordered⟩)
    · exact Or.inr (Or.inr ⟨same.symm, ordered⟩)
  · exact Or.inr (Or.inl later)

theorem Run.time_le_of_before {left right : Run} (before : left.before right = true) :
    left.time ≤ right.time := by
  simp only [Run.before, Bool.or_eq_true, Bool.and_eq_true, decide_eq_true_eq,
    beq_iff_eq] at before
  omega

theorem startsOf_flatMap (tasks : List (String × Task)) (id : String)
    (starts : Task → List Nat) :
    startsOf id (tasks.flatMap fun entry =>
        (starts entry.2).map fun time => { time, id := entry.1 }) =
      ((tasks.filter fun entry => entry.1 = id).map Prod.snd).flatMap starts := by
  induction tasks with
  | nil => rfl
  | cons entry rest induction =>
      rw [List.flatMap_cons, startsOf_append, induction]
      by_cases named : entry.1 = id
      · simp [startsOf, named, List.filter_map, Function.comp_def]
      · simp [startsOf, named, List.filter_map, Function.comp_def]

/-- The runs of a task that start while time passes are its own, in order. -/
theorem startsOf_advance (scheduler : Scheduler) (id : String) (elapsed : Nat) :
    startsOf id (scheduler.advance elapsed).1 =
      ((scheduler.held id).flatMap fun task =>
        (task.advance (scheduler.now + elapsed)).1).mergeSort := by
  -- Both sides are in order, and neither loses a start.
  refine @List.Perm.eq_of_pairwise Nat (· ≤ ·) _ _ (fun _ _ _ _ => Nat.le_antisymm) ?_ ?_ ?_
  · refine ((List.pairwise_mergeSort Run.before_trans Run.before_total _).filter _).map _ ?_
    exact fun _ _ => Run.time_le_of_before
  · have sorted := @List.pairwise_mergeSort Nat (fun left right => left ≤ right)
      (by simpa using fun _ _ _ => Nat.le_trans) (by simpa using Nat.le_total)
    simpa using sorted _
  · rw [held, ← startsOf_flatMap]
    exact (((List.mergeSort_perm _ _).filter _).map _).trans (List.mergeSort_perm _ _).symm

/-! ## What an operation does under a name -/

namespace Operation

/-- The name an operation schedules a task under. -/
def schedules? : Operation → Option String
  | every id _ _ | once id _ _ => some id
  | cancel _ | drop _ | advance _ => none

/-- The name of the task an operation stops. -/
def stops? : Operation → Option String
  | cancel id | drop id => some id
  | every _ _ _ | once _ _ _ | advance _ => none

/-- The clock after an operation. -/
def clock (now : Nat) : Operation → Nat
  | advance elapsed => now + elapsed
  | every _ _ _ | once _ _ _ | cancel _ | drop _ => now

/-- What an operation does to the tasks held under a name, and when runs of them start. -/
def under (id : String) (now : Nat) (tasks : List Task) : Operation → List Nat × List Task
  | every other period timing => ([], if other = id then [.every now period timing] else tasks)
  | once other delay timing => ([], if other = id then [.once now delay timing] else tasks)
  | cancel other => ([], if other = id then tasks.map Task.cancel else tasks)
  | drop other => ([], if other = id then [] else tasks)
  | advance elapsed =>
      ((tasks.flatMap fun task => (task.advance (now + elapsed)).1).mergeSort,
        tasks.map fun task => (task.advance (now + elapsed)).2)

end Operation

variable {operation : Operation} {operations : List Operation} {task : Task}

@[simp] theorem now_operate (scheduler : Scheduler) (operation : Operation) :
    (scheduler.operate operation).2.now = operation.clock scheduler.now := by
  cases operation <;> rfl

/-- An operation only acts on what is held under a name, whatever else is held. -/
theorem operate_under (scheduler : Scheduler) (id : String) (operation : Operation) :
    (startsOf id (scheduler.operate operation).1, (scheduler.operate operation).2.held id) =
      operation.under id scheduler.now (scheduler.held id) := by
  cases operation with
  | every other period timing => exact congrArg (Prod.mk []) (held_hold scheduler id other _)
  | once other delay timing => exact congrArg (Prod.mk []) (held_hold scheduler id other _)
  | cancel other => exact congrArg (Prod.mk []) (held_cancel scheduler id other)
  | drop other => exact congrArg (Prod.mk []) (held_drop scheduler id other)
  | advance elapsed =>
      exact Prod.ext (startsOf_advance scheduler id elapsed) (held_advance scheduler id elapsed)

theorem startsOf_operate (scheduler : Scheduler) (id : String) (operation : Operation) :
    startsOf id (scheduler.operate operation).1 =
      (operation.under id scheduler.now (scheduler.held id)).1 :=
  congrArg Prod.fst (operate_under scheduler id operation)

theorem held_operate (scheduler : Scheduler) (id : String) (operation : Operation) :
    (scheduler.operate operation).2.held id =
      (operation.under id scheduler.now (scheduler.held id)).2 :=
  congrArg Prod.snd (operate_under scheduler id operation)

/-- Of a task's runs only the clock and what is held under its name can be told. -/
structure SameFor (id : String) (left right : Scheduler) : Prop where
  now : left.now = right.now
  held : left.held id = right.held id

theorem SameFor.operate {left right : Scheduler} (same : SameFor id left right)
    (operation : Operation) :
    startsOf id (left.operate operation).1 = startsOf id (right.operate operation).1 ∧
      SameFor id (left.operate operation).2 (right.operate operation).2 := by
  refine ⟨?_, ?_, ?_⟩
  · rw [startsOf_operate, startsOf_operate, same.now, same.held]
  · rw [now_operate, now_operate, same.now]
  · rw [held_operate, held_operate, same.now, same.held]

theorem operateAll_cons (scheduler : Scheduler) (operation : Operation)
    (rest : List Operation) :
    scheduler.operateAll (operation :: rest) =
      ((scheduler.operate operation).1 ++ ((scheduler.operate operation).2.operateAll rest).1,
        ((scheduler.operate operation).2.operateAll rest).2) := rfl

theorem operateAll_append (scheduler : Scheduler) (front back : List Operation) :
    scheduler.operateAll (front ++ back) =
      ((scheduler.operateAll front).1 ++ ((scheduler.operateAll front).2.operateAll back).1,
        ((scheduler.operateAll front).2.operateAll back).2) := by
  induction front generalizing scheduler with
  | nil => rfl
  | cons operation rest induction =>
      simp only [List.cons_append, operateAll_cons, induction, List.append_assoc]

theorem SameFor.operateAll {left right : Scheduler} (same : SameFor id left right)
    (operations : List Operation) :
    startsOf id (left.operateAll operations).1 = startsOf id (right.operateAll operations).1 := by
  induction operations generalizing left right with
  | nil => rfl
  | cons operation rest induction =>
      rcases same.operate operation with ⟨starts, still⟩
      rw [operateAll_cons, operateAll_cons, startsOf_append, startsOf_append, starts,
        induction still]

/-! ## What becomes of a task -/

/-- What an operation can do to a task: when its runs start, and what is left of it. -/
inductive Fate (task : Task) : List Nat → List Task → Prop where
  | kept : Fate task [] [task]
  | cancelled : Fate task [] [task.cancel]
  | dropped : Fate task [] []
  | advanced (now : Nat) : Fate task (task.advance now).1 [(task.advance now).2]

theorem fate_of_operate (holds : scheduler.held id = [task])
    (own : operation.schedules? ≠ some id) :
    Fate task (startsOf id (scheduler.operate operation).1)
      ((scheduler.operate operation).2.held id) := by
  rw [startsOf_operate, held_operate, holds]
  cases operation with
  | every other period timing =>
      rw [Operation.under, if_neg fun same => own (congrArg some same)]
      exact .kept
  | once other delay timing =>
      rw [Operation.under, if_neg fun same => own (congrArg some same)]
      exact .kept
  | cancel other =>
      rw [Operation.under]
      split
      · exact .cancelled
      · exact .kept
  | drop other =>
      rw [Operation.under]
      split
      · exact .dropped
      · exact .kept
  | advance elapsed =>
      rw [Operation.under, List.flatMap_singleton,
        List.mergeSort_of_pairwise (by simpa using (task.pairwise_advance _).1)]
      exact .advanced _

/-- Nothing held under a name will run. -/
def Silent (scheduler : Scheduler) (id : String) : Prop :=
  ∀ task ∈ scheduler.held id, task.due = none

/-- What will not run does not run, whatever is done with other tasks. -/
theorem Silent.operate (silent : scheduler.Silent id) (own : operation.schedules? ≠ some id) :
    startsOf id (scheduler.operate operation).1 = [] ∧
      (scheduler.operate operation).2.Silent id := by
  rw [Silent, startsOf_operate, held_operate]
  cases operation with
  | every other period timing =>
      rw [Operation.under, if_neg fun same => own (congrArg some same)]
      exact ⟨rfl, silent⟩
  | once other delay timing =>
      rw [Operation.under, if_neg fun same => own (congrArg some same)]
      exact ⟨rfl, silent⟩
  | cancel other =>
      rw [Operation.under]
      split
      · exact ⟨rfl, by simp [Task.cancel]⟩
      · exact ⟨rfl, silent⟩
  | drop other =>
      rw [Operation.under]
      split
      · exact ⟨rfl, by simp⟩
      · exact ⟨rfl, silent⟩
  | advance elapsed =>
      have still : ∀ task ∈ scheduler.held id,
          task.advance (scheduler.now + elapsed) = ([], task) :=
        fun task member => Task.advance_of_finished (silent task member) _
      have none : ((scheduler.held id).flatMap fun task =>
          (task.advance (scheduler.now + elapsed)).1) = [] :=
        List.flatMap_eq_nil_iff.mpr fun task member => by rw [still task member]
      have same : ((scheduler.held id).map fun task =>
          (task.advance (scheduler.now + elapsed)).2) = scheduler.held id :=
        (List.map_congr_left fun task member => by rw [still task member]).trans
          (List.map_id' (scheduler.held id))
      rw [Operation.under, none, same]
      exact ⟨List.mergeSort_nil, silent⟩

/-- What was stopped will not run. -/
theorem silent_of_stops (scheduler : Scheduler) (stops : operation.stops? = some id) :
    startsOf id (scheduler.operate operation).1 = [] ∧
      (scheduler.operate operation).2.Silent id := by
  rw [Silent, startsOf_operate, held_operate]
  cases operation with
  | cancel stopped =>
      cases stops
      rw [Operation.under, if_pos rfl]
      exact ⟨rfl, by simp [Task.cancel]⟩
  | drop stopped =>
      cases stops
      rw [Operation.under, if_pos rfl]
      exact ⟨rfl, by simp⟩
  | every | once | advance => cases stops

/-- Stopping a task is not seen by another. -/
theorem sameFor_of_stops (scheduler : Scheduler) (stops : operation.stops? = some other)
    (different : other ≠ id) :
    startsOf id (scheduler.operate operation).1 = [] ∧
      SameFor id (scheduler.operate operation).2 scheduler := by
  cases operation with
  | cancel stopped =>
      cases stops
      exact ⟨rfl, rfl, (held_cancel scheduler id other).trans (if_neg different)⟩
  | drop stopped =>
      cases stops
      exact ⟨rfl, rfl, (held_drop scheduler id other).trans (if_neg different)⟩
  | every | once | advance => cases stops

/-! ## A whole use -/

/-- Operations that schedule nothing under a name. -/
def Leaves (id : String) (operations : List Operation) : Prop :=
  ∀ operation ∈ operations, operation.schedules? ≠ some id

instance (id : String) (operations : List Operation) : Decidable (Leaves id operations) :=
  inferInstanceAs (Decidable (∀ operation ∈ operations, operation.schedules? ≠ some id))

theorem Silent.operateAll (silent : scheduler.Silent id) (own : Leaves id operations) :
    startsOf id (scheduler.operateAll operations).1 = [] := by
  induction operations generalizing scheduler with
  | nil => rfl
  | cons operation rest induction =>
      rcases List.forall_mem_cons.mp own with ⟨this, others⟩
      rcases silent.operate this with ⟨none, still⟩
      rw [operateAll_cons, startsOf_append, none, induction still others, List.nil_append]

/-- What every fate keeps is true of a task and all its runs to come. -/
theorem of_fates {motive : Task → List Nat → Prop}
    (nothing : ∀ task, motive task [])
    (cancelled : ∀ {task starts}, motive task.cancel starts → motive task starts)
    (advanced : ∀ {task starts} now,
      motive (task.advance now).2 starts → motive task ((task.advance now).1 ++ starts))
    (holds : scheduler.held id = [task]) (own : Leaves id operations) :
    motive task (startsOf id (scheduler.operateAll operations).1) := by
  induction operations generalizing scheduler task with
  | nil => exact nothing task
  | cons operation rest induction =>
      rcases List.forall_mem_cons.mp own with ⟨this, others⟩
      have fate := fate_of_operate holds this
      rw [operateAll_cons, startsOf_append]
      generalize startsOf id (scheduler.operate operation).1 = starts at fate
      generalize left : (scheduler.operate operation).2.held id = tasks at fate
      cases fate with
      | kept => exact induction left others
      | cancelled => exact cancelled (induction left others)
      | dropped =>
          have silent : (scheduler.operate operation).2.Silent id := by simp [Silent, left]
          rw [silent.operateAll others]
          exact nothing task
      | advanced now => exact advanced now (induction left others)

theorem spaced_of_rested {period ended : Nat} {timing : Timing}
    (rested : task.Rested period timing ended) (holds : scheduler.held id = [task])
    (own : Leaves id operations) :
    Spaced (effectivePeriod period) timing.work task.started ended
      (startsOf id (scheduler.operateAll operations).1) := by
  refine of_fates (motive := fun task starts => ∀ {ended},
    task.Rested period timing ended →
      Spaced (effectivePeriod period) timing.work task.started ended starts)
    ?_ ?_ ?_ holds own rested
  · exact fun _ _ _ => .nil _ _
  · exact fun spaced _ rested => spaced rested.cancel
  · intro task starts now spaced ended rested
    rcases rested.advance now with ⟨later, still, continues⟩
    exact continues starts (spaced still)

theorem alone_of_awaits {time : Nat} (awaits : task.Awaits time)
    (holds : scheduler.held id = [task]) (own : Leaves id operations) :
    (startsOf id (scheduler.operateAll operations).1).length ≤ 1 ∧
      ∀ start ∈ startsOf id (scheduler.operateAll operations).1, time ≤ start := by
  -- What follows the only run is nothing, which has to be carried along.
  refine (of_fates (motive := fun task starts =>
    (task.due = none → starts = []) ∧
      (task.Awaits time → starts.length ≤ 1 ∧ ∀ start ∈ starts, time ≤ start))
    ?_ ?_ ?_ holds own).2 awaits
  · exact fun task => ⟨fun _ => rfl, fun _ => ⟨Nat.zero_le _, by simp⟩⟩
  · rintro task starts ⟨finished, -⟩
    have none : starts = [] := finished rfl
    simp [none]
  · rintro task starts now ⟨finished, alone⟩
    constructor
    · intro idle
      rw [Task.advance_of_finished idle] at finished ⊢
      exact finished idle
    · intro awaits
      rcases awaits.advance now with same | ⟨start, inTime, ran, idle⟩
      · rw [same] at alone ⊢
        exact alone awaits
      · rw [ran, finished idle]
        simpa using inTime

/--
A repeated task never runs within a period of its scheduling or of the end of its last
run, so no more runs start in any time from the scheduling than periods fit into it; and
no period is shorter than a millisecond.  A single task runs at most once, and not before
its delay.  A task that was cancelled or dropped does not run any more, and no other
task's runs change by it.

The scheduler may hold any tasks, each as late and as slow as it likes.
-/
theorem runs_keep_to_schedule (scheduler : Scheduler) (id : String) :
    (∀ (timing : Timing) (operations : List Operation), Leaves id operations →
      (∀ period,
        let starts := startsOf id ((scheduler.every id period timing).operateAll operations).1
        let gap := max period shortestPeriod
        (∀ start ∈ starts, scheduler.now + gap ≤ start) ∧
          (∀ index start following,
            starts[index]? = some start → starts[index + 1]? = some following →
              start + timing.work index + gap ≤ following) ∧
            ∀ elapsed,
              starts.countP (fun start => start ≤ scheduler.now + elapsed) ≤ elapsed / gap) ∧
      ∀ delay,
        let starts := startsOf id ((scheduler.once id delay timing).operateAll operations).1
        starts.length ≤ 1 ∧ ∀ start ∈ starts, scheduler.now + delay ≤ start) ∧
    ∀ front stop back,
      (stop.stops? = some id → Leaves id back →
        startsOf id (scheduler.operateAll (front ++ stop :: back)).1 =
          startsOf id (scheduler.operateAll front).1) ∧
      ∀ other, stop.stops? = some other → other ≠ id →
        startsOf id (scheduler.operateAll (front ++ stop :: back)).1 =
          startsOf id (scheduler.operateAll (front ++ back)).1 := by
  refine ⟨fun timing operations own => ⟨fun period => ?_, fun delay => ?_⟩,
    fun front stop back => ⟨fun stops own => ?_, fun other stops different => ?_⟩⟩
  · have spaced := spaced_of_rested (Task.rested_every scheduler.now period timing)
      ((held_hold scheduler id id _).trans (if_pos rfl)) own
    refine ⟨spaced.le_of_mem, fun index start following this next => ?_, fun elapsed => ?_⟩
    · have bound := spaced.le_following this next
      rwa [show (Task.every scheduler.now period timing).started + index = index from
        Nat.zero_add index] at bound
    · have positive : 0 < effectivePeriod period :=
        Nat.lt_of_lt_of_le (by decide) (shortestPeriod_le_effectivePeriod period)
      exact (Nat.le_div_iff_mul_le positive).mpr (spaced.countP_mul_le elapsed)
  · exact alone_of_awaits (Task.awaits_once scheduler.now delay timing)
      ((held_hold scheduler id id _).trans (if_pos rfl)) own
  · rcases silent_of_stops (scheduler.operateAll front).2 stops with ⟨none, silent⟩
    rw [operateAll_append, operateAll_cons, startsOf_append, startsOf_append, none,
      silent.operateAll own, List.append_nil, List.append_nil]
  · rcases sameFor_of_stops (scheduler.operateAll front).2 stops different with ⟨none, same⟩
    rw [operateAll_append, operateAll_append, operateAll_cons, startsOf_append,
      startsOf_append, startsOf_append, none, same.operateAll back, List.nil_append]

/-- A heartbeat without a period, late and slow, that is cancelled after its second run. -/
theorem runs_keep_to_schedule_heartbeat :
    let timing : Timing := { lateness := fun _ => 100, work := fun number => 200 * (number + 1) }
    let scheduler : Scheduler := Scheduler.every {} "heartbeat" 0 timing
    let front : List Operation := [.advance 2500000]
    let back : List Operation := [.once "disconnect" 5000000 {}, .advance 2500000]
    let starts := startsOf "heartbeat"
      (scheduler.operateAll (front ++ .cancel "heartbeat" :: back)).1
    Leaves "heartbeat" (front ++ .cancel "heartbeat" :: back) ∧
      starts = [1000100, 2000400] ∧ 1000100 + timing.work 0 + shortestPeriod ≤ 2000400 := by
  intro timing scheduler front back starts
  have own : Leaves "heartbeat" (front ++ .cancel "heartbeat" :: back) := by decide
  have stopped : starts = startsOf "heartbeat" (scheduler.operateAll front).1 :=
    ((runs_keep_to_schedule scheduler "heartbeat").2 front (.cancel "heartbeat") back).1 rfl
      fun operation member => own operation (List.mem_append_right front
        (List.mem_cons_of_mem _ member))
  have ran : ((Task.every 0 0 timing).advance 2500000).1 = [1000100, 2000400] := by
    have first : (Task.every 0 0 timing).wake? = some 1000100 := by
      simp [Task.wake?, Task.every, effectivePeriod, shortestPeriod, timing]
    have second : ((Task.every 0 0 timing).run 1000100).wake? = some 2000400 := by
      simp [Task.wake?, Task.run, Task.every, effectivePeriod, shortestPeriod, timing]
    have third : (((Task.every 0 0 timing).run 1000100).run 2000400).wake? = some 3000900 := by
      simp [Task.wake?, Task.run, Task.every, effectivePeriod, shortestPeriod, timing]
    rw [Task.advance_of_awake first (by decide), Task.advance_of_awake second (by decide),
      Task.advance_of_asleep (by simp [third])]
  have inFront : startsOf "heartbeat" (scheduler.operateAll front).1 = [1000100, 2000400] := by
    have clock : scheduler.now = 0 := rfl
    have held : scheduler.held "heartbeat" = [Task.every 0 0 timing] :=
      (held_hold {} "heartbeat" "heartbeat" _).trans (if_pos rfl)
    rw [operateAll_cons, startsOf_append, operate, startsOf_advance, clock, held,
      List.flatMap_singleton, Nat.zero_add, ran, List.mergeSort_of_pairwise (by decide)]
    exact List.append_nil _
  have runs : starts = [1000100, 2000400] := stopped.trans inFront
  exact ⟨own, runs, (((runs_keep_to_schedule {} "heartbeat").1 timing _ own).1 0).2.1 0 _ _
    (congrArg (·[0]?) runs) (congrArg (·[1]?) runs)⟩

end SessionGateway.Scheduler
