import Mathlib.Data.List.Infix
import SessionGateway.Server.Course

/-!
# Updates of a running server

Updates are applied in the order in which they were sent, none of them twice
and none left out, however the senders, the owner of the shutdown flag and the
reload loop take turns.

`Moves` is all that one action can do.  `Applies` ties the account of a course
to the state of its reload loop: one action keeps it (`Applies.move`), a run
therefore does (`applies_of_run`), and `updates_in_order` reads off it what a
server makes of its updates.  `rests_of_run` says that nothing of this changes
once the loop has ended.
-/

namespace SessionGateway.Server

/-! ## The reload loop -/

namespace Reload

variable {reload next : Reload} {update : GatewaySettings}

theorem send?_eq_some_iff :
    reload.send? update = some next ↔
      reload.isRunning = true ∧ reload.isClosed = false ∧
        next = { reload with pending := reload.pending ++ [update] } := by
  unfold send?
  cases reload.isRunning <;> cases reload.isClosed <;> simp [eq_comm]

theorem send?_eq_none_iff :
    reload.send? update = none ↔ reload.isRunning = false ∨ reload.isClosed = true := by
  unfold send?
  cases reload.isRunning <;> cases reload.isClosed <;> simp

theorem takeUpdate?_eq_some_iff :
    reload.takeUpdate? = some next ↔
      ∃ update rest, reload.pending = update :: rest ∧ reload.isRunning = true ∧
        next =
          { reload with
            service := update.service
            pending := rest
            metrics := reload.metrics ++ [.reloads]
            events := reload.events ++ updateEvents reload.listener update } := by
  unfold takeUpdate?
  cases reload.pending with
  | nil => simp
  | cons update rest => cases reload.isRunning <;> simp [eq_comm]

theorem finish?_eq_some_iff :
    reload.finish? = some next ↔
      reload.isRunning = true ∧
        (reload.isShutDown = true ∨ reload.isClosed = true ∧ reload.pending = []) ∧
          next = { reload with isRunning := false } := by
  unfold finish?
  rw [Option.ite_none_right_eq_some, Bool.and_eq_true, Bool.or_eq_true, Bool.and_eq_true,
    List.isEmpty_iff, and_assoc, Option.some.injEq, eq_comm (b := next)]

theorem settle_of_take (takes : reload.takeUpdate? = some next) :
    reload.settle = next.settle := by
  rw [settle]
  split
  · next other same =>
      rw [Option.some.inj (same.symm.trans takes)]
  · next rests => cases rests.symm.trans takes

theorem settle_of_rest (rests : reload.takeUpdate? = none) :
    reload.settle = reload.finish?.getD reload := by
  rw [settle]
  split
  · next other same => cases same.symm.trans rests
  · rfl

end Reload

/-! ## One action -/

namespace Course

variable
    {initial : GatewaySettings}
    {attempted : List GatewaySettings}
    {course next : Course}
    {action : Action}

/-- All that one action can do. -/
inductive Moves (course : Course) : Action → Course → Prop where
  | sent (update : GatewaySettings)
      (running : course.server.reload.isRunning = true)
      (unclosed : course.server.reload.isClosed = false) :
      Moves course (.send update)
        { course.withReload
            { course.server.reload with
              pending := course.server.reload.pending ++ [update] } with
          sent := course.sent ++ [update] }
  | refused (update : GatewaySettings)
      (nobody : course.server.reload.isRunning = false ∨ course.server.reload.isClosed = true) :
      Moves course (.send update) course
  | closed : Moves course .close (course.withReload course.server.reload.close)
  | raised (owned : course.server.shutdown.hasOwner = true) :
      Moves course .trigger { course with server := course.server.raise }
  | abandoned (owned : course.server.shutdown.hasOwner = true) :
      Moves course .dropOwner { course with server := course.server.abandon }
  | applied (update : GatewaySettings) (rest : List GatewaySettings)
      (pending : course.server.reload.pending = update :: rest)
      (running : course.server.reload.isRunning = true) :
      Moves course .apply
        { course.withReload
            { course.server.reload with
              service := update.service
              pending := rest
              metrics := course.server.reload.metrics ++ [.reloads]
              events :=
                course.server.reload.events ++
                  Reload.updateEvents course.server.reload.listener update } with
          applied := course.applied ++ [update] }
  | finished
      (running : course.server.reload.isRunning = true)
      (may :
        course.server.reload.isShutDown = true ∨
          course.server.reload.isClosed = true ∧ course.server.reload.pending = []) :
      Moves course .finish (course.withReload { course.server.reload with isRunning := false })
  | left
      (asked : (course.server.isListening && course.server.shutdown.isOver) = true) :
      Moves course .leave { course with server := course.server.leave }

theorem moves_of_step (step : course.step? action = some next) : Moves course action next := by
  cases action with
  | send update =>
      rw [step?] at step
      split at step
      · next reload sends =>
          obtain ⟨running, unclosed, rfl⟩ := Reload.send?_eq_some_iff.mp sends
          obtain rfl := Option.some.inj step
          exact .sent update running unclosed
      · next refuses =>
          obtain rfl := Option.some.inj step
          exact .refused update (Reload.send?_eq_none_iff.mp refuses)
  | close =>
      obtain rfl := Option.some.inj step
      exact .closed
  | trigger =>
      rw [step?, Option.ite_none_right_eq_some] at step
      obtain rfl := Option.some.inj step.2
      exact .raised step.1
  | dropOwner =>
      rw [step?, Option.ite_none_right_eq_some] at step
      obtain rfl := Option.some.inj step.2
      exact .abandoned step.1
  | apply =>
      obtain ⟨reload, takes, rfl⟩ := Option.map_eq_some_iff.mp step
      obtain ⟨update, rest, pending, running, rfl⟩ := Reload.takeUpdate?_eq_some_iff.mp takes
      have moves := Moves.applied update rest pending running
      rw [pending]
      exact moves
  | finish =>
      obtain ⟨reload, finishes, rfl⟩ := Option.map_eq_some_iff.mp step
      obtain ⟨running, may, rfl⟩ := Reload.finish?_eq_some_iff.mp finishes
      exact .finished running may
  | leave =>
      rw [step?, Option.ite_none_right_eq_some] at step
      obtain rfl := Option.some.inj step.2
      exact .left step.1

theorem run?_cons_iff {actions : List Action} :
    course.run? (action :: actions) = some next ↔
      ∃ middle, course.step? action = some middle ∧ middle.run? actions = some next := by
  rw [run?, List.foldlM_cons, Option.bind_eq_bind, Option.bind_eq_some_iff]
  rfl

/-! ## The account of a course -/

/-- What the account of a course says about its server, `attempted` being what was to be sent. -/
structure Applies
    (initial : GatewaySettings) (attempted : List GatewaySettings) (course : Course) :
    Prop where
  sent : course.sent = course.applied ++ course.server.reload.pending
  tried : course.sent <+: attempted
  accepted :
    course.server.reload.isRunning = true → course.server.reload.isClosed = false →
      course.sent = attempted
  service :
    course.server.reload.service =
      (course.applied.map GatewaySettings.service).getLastD initial.service
  listener : course.server.reload.listener = initial.listener
  metrics : course.server.reload.metrics = List.replicate course.applied.length .reloads
  events :
    course.server.reload.events =
      course.applied.flatMap (Reload.updateEvents initial.listener)
  isShutDown : course.server.reload.isShutDown = course.server.shutdown.isOver
  ended :
    course.server.reload.isRunning = false →
      course.server.reload.isShutDown = true ∨
        course.server.reload.isClosed = true ∧ course.server.reload.pending = []

theorem applies_start (initial : GatewaySettings) (address : String) (isListening : Bool) :
    Applies initial [] (start initial address isListening) where
  sent := rfl
  tried := List.nil_prefix
  accepted _ _ := rfl
  service := rfl
  listener := rfl
  metrics := rfl
  events := rfl
  isShutDown := rfl
  ended stopped := by cases stopped

theorem isOver_raise (server : Server) : server.raise.shutdown.isOver = true := by
  unfold raise Shutdown.trigger Shutdown.isOver
  split
  · next triggered =>
      rw [Bool.or_eq_true]
      exact Or.inl triggered
  · rfl

theorem Applies.move
    (applies : Applies initial attempted course) (moves : Moves course action next) :
    Applies initial (attempted ++ action.update?.toList) next := by
  cases moves with
  | sent update running unclosed =>
      have all := applies.accepted running unclosed
      exact
        { applies with
          sent := by
            dsimp only [withReload]
            rw [applies.sent, List.append_assoc]
          tried := by
            rw [all]
            exact List.prefix_rfl
          accepted := fun _ _ => congrArg (· ++ [update]) all
          ended := fun stopped => absurd (running.symm.trans stopped) nofun }
  | refused update nobody =>
      exact
        { applies with
          tried := applies.tried.trans (List.prefix_append _ _)
          accepted := fun running unclosed => by
            rw [running, unclosed] at nobody
            exact absurd nobody nofun }
  | closed =>
      rw [Action.update?, Option.toList_none, List.append_nil]
      exact
        { applies with
          accepted := fun _ unclosed => absurd unclosed nofun
          ended := fun stopped => (applies.ended stopped).imp_right fun may => ⟨rfl, may.2⟩ }
  | raised owned =>
      rw [Action.update?, Option.toList_none, List.append_nil]
      exact
        { applies with
          isShutDown := (isOver_raise course.server).symm
          ended := fun _ => Or.inl rfl }
  | abandoned owned =>
      rw [Action.update?, Option.toList_none, List.append_nil]
      exact
        { applies with
          isShutDown := (Bool.or_true _).symm
          ended := fun _ => Or.inl rfl }
  | applied update rest pending running =>
      rw [Action.update?, Option.toList_none, List.append_nil]
      exact
        { applies with
          sent := by
            dsimp only [withReload]
            rw [applies.sent, pending, List.append_assoc, List.singleton_append]
          service := by
            dsimp only [withReload]
            rw [List.map_append, List.map_singleton, List.getLastD_concat]
          metrics := by
            dsimp only [withReload]
            rw [applies.metrics, List.length_append, List.length_singleton,
              List.replicate_succ']
          events := by
            dsimp only [withReload]
            rw [applies.events, applies.listener, List.flatMap_append, List.flatMap_singleton]
          ended := fun stopped => absurd (running.symm.trans stopped) nofun }
  | finished running may =>
      rw [Action.update?, Option.toList_none, List.append_nil]
      exact
        { applies with
          accepted := fun running => absurd running nofun
          ended := fun _ => may }
  | left asked =>
      rw [Action.update?, Option.toList_none, List.append_nil]
      exact { applies with }

theorem applies_of_run
    {actions : List Action} (applies : Applies initial attempted course)
    (run : course.run? actions = some next) :
    Applies initial (attempted ++ actions.filterMap Action.update?) next := by
  induction actions generalizing attempted course with
  | nil =>
      obtain rfl := Option.some.inj run
      rw [List.filterMap_nil, List.append_nil]
      exact applies
  | cons action actions induction =>
      obtain ⟨middle, step, rest⟩ := run?_cons_iff.mp run
      rw [List.filterMap_eq_flatMap_toList, List.flatMap_cons, ← List.append_assoc,
        ← List.filterMap_eq_flatMap_toList]
      exact induction (applies.move (moves_of_step step)) rest

/-! ## After the loop has ended -/

/-- Nothing but the flags that ask the loop to end has changed. -/
structure Rests (course next : Course) : Prop where
  applied : next.applied = course.applied
  sent : next.sent = course.sent
  reload :
    { next.server.reload with
      isClosed := course.server.reload.isClosed
      isShutDown := course.server.reload.isShutDown } = course.server.reload

theorem Rests.trans
    {last : Course} (before : Rests course next) (after : Rests next last) :
    Rests course last where
  applied := after.applied.trans before.applied
  sent := after.sent.trans before.sent
  reload := by
    -- Setting the flags twice is the same as setting them once.
    have reset :=
      congrArg
        (fun reload : Reload =>
          { reload with
            isClosed := course.server.reload.isClosed
            isShutDown := course.server.reload.isShutDown })
        after.reload
    exact reset.trans before.reload

theorem rests_of_move
    (stopped : course.server.reload.isRunning = false) (moves : Moves course action next) :
    Rests course next := by
  cases moves with
  | sent update running unclosed => exact absurd (running.symm.trans stopped) nofun
  | refused update nobody => exact ⟨rfl, rfl, rfl⟩
  | closed => exact ⟨rfl, rfl, rfl⟩
  | raised owned => exact ⟨rfl, rfl, rfl⟩
  | abandoned owned => exact ⟨rfl, rfl, rfl⟩
  | applied update rest pending running => exact absurd (running.symm.trans stopped) nofun
  | finished running may => exact absurd (running.symm.trans stopped) nofun
  | left asked => exact ⟨rfl, rfl, rfl⟩

theorem rests_of_run
    {actions : List Action} (stopped : course.server.reload.isRunning = false)
    (run : course.run? actions = some next) :
    Rests course next := by
  induction actions generalizing course with
  | nil =>
      obtain rfl := Option.some.inj run
      exact ⟨rfl, rfl, rfl⟩
  | cons action actions induction =>
      obtain ⟨middle, step, rest⟩ := run?_cons_iff.mp run
      have rests := rests_of_move stopped (moves_of_step step)
      have still : middle.server.reload.isRunning = false :=
        (congrArg Reload.isRunning rests.reload).trans stopped
      exact rests.trans (induction still rest)

/-! ## What is left of the updates -/

/-- The warnings are about the updates that change the listener. -/
theorem count_restartRequired (listener : ListenerSettings) (updates : List GatewaySettings) :
    (updates.flatMap (Reload.updateEvents listener)).count Reload.restartRequired =
      updates.countP (·.listener ≠ listener) := by
  induction updates with
  | nil => rfl
  | cons update updates induction =>
      have other : Service.updated update.service ≠ Reload.restartRequired := by
        intro same
        cases congrArg Log.Event.level same
      rw [List.flatMap_cons, List.count_append, induction, List.countP_cons, Reload.updateEvents]
      by_cases same : update.listener = listener
      · simp [same, other]
      · simp [same, other, Nat.add_comm]

/-- The loop can apply an update whenever one is waiting. -/
theorem step?_apply_isSome :
    (course.step? .apply).isSome ↔
      course.server.reload.isRunning = true ∧ course.server.reload.pending ≠ [] := by
  rw [step?, Option.isSome_map, Option.isSome_iff_exists]
  constructor
  · rintro ⟨reload, takes⟩
    obtain ⟨update, rest, pending, running, -⟩ := Reload.takeUpdate?_eq_some_iff.mp takes
    exact ⟨running, by rw [pending]; exact List.cons_ne_nil update rest⟩
  · rintro ⟨running, waiting⟩
    obtain ⟨update, rest, pending⟩ := List.exists_cons_of_ne_nil waiting
    exact ⟨_, Reload.takeUpdate?_eq_some_iff.mpr ⟨update, rest, pending, running, rfl⟩⟩

/-- The loop can end whenever it was asked to, an update waiting or not. -/
theorem step?_finish_isSome :
    (course.step? .finish).isSome ↔
      course.server.reload.isRunning = true ∧
        (course.server.reload.isShutDown = true ∨
          course.server.reload.isClosed = true ∧ course.server.reload.pending = []) := by
  rw [step?, Option.isSome_map, Option.isSome_iff_exists]
  constructor
  · rintro ⟨reload, finishes⟩
    obtain ⟨running, may, -⟩ := Reload.finish?_eq_some_iff.mp finishes
    exact ⟨running, may⟩
  · rintro ⟨running, may⟩
    exact ⟨_, Reload.finish?_eq_some_iff.mpr ⟨running, may, rfl⟩⟩

end Course

/-- What a server answers depends on its listener, its service and whether it is listening. -/
theorem exchange?_congr
    {left right : Server} (listening : left.isListening = right.isListening)
    (listener : left.reload.listener = right.reload.listener)
    (service : left.reload.service = right.reload.service) :
    left.exchange? = right.exchange? := by
  unfold exchange?
  rw [listening, listener, service]

/--
In every state that a server can reach, the updates applied so far are the
first ones of those sent, in order.  The settings of the service are those of
the last one, the counter of reloads and the log tell of each of them, and the
listener is the one of the start.  The loop may apply an update or end whenever
it is free to, and nothing of this changes once it has ended.
-/
theorem updates_in_order
    {initial : GatewaySettings} {address : String} {isListening : Bool}
    {actions : List Action} {course : Course}
    (run : (Course.start initial address isListening).run? actions = some course) :
    let server := course.server
    let reload := server.reload
    (course.sent <+: actions.filterMap Action.update? ∧
        course.sent = course.applied ++ reload.pending) ∧
      reload.service =
          (course.applied.map GatewaySettings.service).getLastD initial.service ∧
        Metric.count reload.metrics .reloads = course.applied.length ∧
          reload.listener = initial.listener ∧
            server.exchange? =
                (Server.start { initial with service := reload.service } address
                  server.isListening).exchange? ∧
              (reload.events =
                  course.applied.flatMap fun update =>
                    (if update.listener = initial.listener then []
                      else [Reload.restartRequired]) ++
                      [Service.updated update.service]) ∧
                reload.events.count Reload.restartRequired =
                    course.applied.countP (·.listener ≠ initial.listener) ∧
                  ((course.step? .apply).isSome ↔
                      reload.isRunning = true ∧ reload.pending ≠ []) ∧
                    ((course.step? .finish).isSome ↔
                        reload.isRunning = true ∧
                          (server.shutdown.isOver = true ∨
                            reload.isClosed = true ∧ reload.pending = [])) ∧
                      (reload.isRunning = false →
                        (server.shutdown.isOver = true ∨
                            reload.isClosed = true ∧ reload.pending = []) ∧
                          ∀ further next, course.run? further = some next →
                            Course.Rests course next) := by
  have applies := Course.applies_of_run (Course.applies_start initial address isListening) run
  rw [List.nil_append] at applies
  refine ⟨⟨applies.tried, applies.sent⟩, applies.service, ?_, applies.listener, ?_,
    applies.events, ?_, Course.step?_apply_isSome, ?_, ?_⟩
  · rw [applies.metrics, Metric.count, List.count_replicate_self]
  · exact exchange?_congr rfl applies.listener rfl
  · rw [applies.events, Course.count_restartRequired]
  · rw [← applies.isShutDown]
    exact Course.step?_finish_isSome
  · intro stopped
    rw [← applies.isShutDown]
    exact ⟨applies.ended stopped, fun _ _ further => Course.rests_of_run stopped further⟩

/-- A server that is shut down between two updates: the second one is never applied. -/
theorem updates_in_order_shutDown :
    let first : GatewaySettings := { service := { name := "b" } }
    let second : GatewaySettings := { service := { name := "c" } }
    ∃ course,
      (Course.start { service := { name := "a" } } "127.0.0.1:8080" true).run?
          [.send first, .send second, .trigger, .apply, .finish] = some course ∧
        course.sent = [first, second] ∧ course.applied = [first] ∧
          course.server.reload.service = first.service ∧
            ∀ further next, course.run? further = some next → Course.Rests course next := by
  intro first second
  have run :
      (Course.start { service := { name := "a" } } "127.0.0.1:8080" true).run?
        [.send first, .send second, .trigger, .apply, .finish] = some _ := rfl
  obtain ⟨-, service, -, -, -, -, -, -, -, ended⟩ := updates_in_order run
  exact ⟨_, run, rfl, rfl, service, (ended rfl).2⟩

/-! ## What a sender sees

The operations that send an update, or close the channel, and wait for the loop
to come to rest are courses among others.
-/

namespace Course

/-- Applying everything and then ending, if the loop may, is one course among others. -/
theorem settle_run (course : Course) :
    ∃ actions settled, course.run? actions = some settled ∧
      settled.server = (course.withReload course.server.reload.settle).server := by
  generalize loop : course.server.reload = reload
  induction reload using Reload.settle.induct generalizing course with
  | case1 reload next takes induction =>
      let later : Course :=
        { course.withReload next with
          applied := course.applied ++ course.server.reload.pending.take 1 }
      have step : course.step? .apply = some later := by
        rw [step?, loop, takes]
        dsimp only [later]
        rw [loop]
        rfl
      obtain ⟨actions, settled, run, same⟩ := induction later rfl
      refine ⟨.apply :: actions, settled, run?_cons_iff.mpr ⟨later, step, run⟩, ?_⟩
      rw [same, Reload.settle_of_take takes]
      rfl
  | case2 reload rests =>
      rw [Reload.settle_of_rest rests]
      cases ends : reload.finish? with
      | none =>
          subst loop
          exact ⟨[], course, rfl, rfl⟩
      | some next =>
          have step : course.step? .finish = some (course.withReload next) := by
            rw [step?, loop, ends]
            rfl
          exact ⟨[.finish], course.withReload next, run?_cons_iff.mpr ⟨_, step, rfl⟩, rfl⟩

end Course

/-- Sending an update and letting the loop run is one course among others. -/
theorem update_run (server : Server) (settings : GatewaySettings) :
    ∃ actions settled, ({ server } : Course).run? (.send settings :: actions) = some settled ∧
      (server.update settings).2 =
        if (server.update settings).1 then settled.server.absorb settled.server.reload
        else settled.server := by
  unfold update
  cases sends : server.reload.send? settings with
  | none =>
      have step : ({ server } : Course).step? (.send settings) = some { server } := by
        rw [Course.step?, sends]
      exact ⟨[], { server }, Course.run?_cons_iff.mpr ⟨_, step, rfl⟩, rfl⟩
  | some reload =>
      have step :
          ({ server } : Course).step? (.send settings) =
            some { ({ server } : Course).withReload reload with sent := [settings] } := by
        rw [Course.step?, sends]
        rfl
      obtain ⟨actions, settled, run, same⟩ :=
        Course.settle_run { ({ server } : Course).withReload reload with sent := [settings] }
      refine ⟨actions, settled, Course.run?_cons_iff.mpr ⟨_, step, run⟩, ?_⟩
      rw [same]
      rfl

theorem closeUpdates_run (server : Server) :
    ∃ actions settled, ({ server } : Course).run? (.close :: actions) = some settled ∧
      server.closeUpdates = settled.server.absorb settled.server.reload := by
  obtain ⟨actions, settled, run, same⟩ :=
    Course.settle_run (({ server } : Course).withReload server.reload.close)
  refine ⟨actions, settled, Course.run?_cons_iff.mpr ⟨_, rfl, run⟩, ?_⟩
  rw [same]
  rfl

end SessionGateway.Server
