import Mathlib.Data.List.Induction
import Mathlib.Data.List.Nodup
import SessionGateway.Shutdown.Course

/-!
# The shutdown flag over its whole life

What is seen of a flag depends on its history in a simple way: whether it was
raised, whether its owner is gone, which signals were made and dropped since, and
which waits were begun and given up since.

`Shutdown.Moves` lists what one action can do.  `Shutdown.Follows` ties a state to
the history that has led to it; `Follows.move` is the step and `follows_of_run` the
run.  What an action shows is then read off the history alone.
-/

namespace SessionGateway.Shutdown

/-! ## Histories -/

/-- The signal that an action makes. -/
def Action.creates? : Action → Option String
  | subscribe id => some id
  | clone _ id => some id
  | drop _ | trigger | dropOwner | wait _ | giveUp _ | askOwner | ask _ => none

/-- The signal that an action drops. -/
def Action.drops? : Action → Option String
  | drop id => some id
  | subscribe _ | clone .. | trigger | dropOwner | wait _ | giveUp _ | askOwner | ask _ => none

/-- Whether an action asks for the flag. -/
def Action.asks : Action → Bool
  | askOwner | ask _ => true
  | subscribe _ | clone .. | drop _ | trigger | dropOwner | wait _ | giveUp _ => false

/-- Something has begun, and it has not ended since. -/
def Since (begins ends : Action → Prop) (history : List Action) : Prop :=
  ∃ early action late, history = early ++ action :: late ∧ begins action ∧
    ∀ later ∈ late, ¬ends later

/-- The signal was made and has not been dropped since. -/
def Alive (history : List Action) (id : String) : Prop :=
  Since (fun action => action.creates? = some id) (fun action => action.drops? = some id) history

/-- The flag was raised, or its owner is gone. -/
def Over (history : List Action) : Prop :=
  .trigger ∈ history ∨ .dropOwner ∈ history

/-- Somebody waits on the signal, and has no reason to stop. -/
def Pending (history : List Action) (id : String) : Prop :=
  ¬Over history ∧ Since (· = .wait id) (· = .giveUp id) history

/-- The signal is alive, and nobody waits on it. -/
def Idle (history : List Action) (id : String) : Prop :=
  Alive history id ∧ ¬Pending history id

/-- The signals that were made, less those that were dropped. -/
def aliveCount (history : List Action) : Nat :=
  (history.filterMap Action.creates?).length - (history.filterMap Action.drops?).length

/-- The actions that there is an owner or a signal for. -/
def Possible (history : List Action) : Action → Prop
  | .subscribe id => .dropOwner ∉ history ∧ ¬Alive history id
  | .clone source id => Idle history source ∧ ¬Alive history id
  | .drop id | .wait id | .ask id => Idle history id
  | .trigger | .dropOwner | .askOwner => .dropOwner ∉ history
  | .giveUp id => Pending history id

variable
    {begins ends : Action → Prop}
    {history : List Action}
    {action : Action}
    {id : String}
    {shutdown next : Shutdown}
    {seen : Seen}

theorem since_concat_iff :
    Since begins ends (history ++ [action]) ↔
      begins action ∨ (Since begins ends history ∧ ¬ends action) := by
  constructor
  · rintro ⟨early, first, late, split, begun, lasting⟩
    rcases List.eq_nil_or_concat late with rfl | ⟨middle, last, rfl⟩
    · obtain ⟨-, same⟩ := List.append_inj' split rfl
      cases same
      exact Or.inl begun
    · rw [List.concat_eq_append, ← List.cons_append, ← List.append_assoc] at split
      obtain ⟨front, same⟩ := List.append_inj' split rfl
      cases same
      rw [List.concat_eq_append] at lasting
      right
      refine ⟨⟨early, first, middle, front, begun, fun later member => ?_⟩, ?_⟩
      · exact lasting later (List.mem_append_left _ member)
      · exact lasting action (List.mem_append_right _ (List.mem_singleton_self action))
  · rintro (begun | ⟨⟨early, first, late, rfl, begun, lasting⟩, kept⟩)
    · exact ⟨history, action, [], rfl, begun, by simp⟩
    · refine ⟨early, first, late ++ [action], by simp, begun, fun later member => ?_⟩
      rcases List.mem_append.mp member with inside | last
      · exact lasting later inside
      · rw [List.mem_singleton.mp last]
        exact kept

theorem alive_concat_iff :
    Alive (history ++ [action]) id ↔
      action.creates? = some id ∨ (Alive history id ∧ action.drops? ≠ some id) :=
  since_concat_iff

theorem over_concat_iff :
    Over (history ++ [action]) ↔ Over history ∨ action = .trigger ∨ action = .dropOwner := by
  simp only [Over, List.mem_append, List.mem_singleton]
  constructor
  · rintro ((raised | rfl) | (gone | rfl))
    · exact Or.inl (Or.inl raised)
    · exact Or.inr (Or.inl rfl)
    · exact Or.inl (Or.inr gone)
    · exact Or.inr (Or.inr rfl)
  · rintro ((raised | gone) | rfl | rfl)
    · exact Or.inl (Or.inl raised)
    · exact Or.inr (Or.inl gone)
    · exact Or.inl (Or.inr rfl)
    · exact Or.inr (Or.inr rfl)

theorem pending_concat_iff :
    Pending (history ++ [action]) id ↔
      ¬Over (history ++ [action]) ∧
        (action = .wait id ∨ (Pending history id ∧ action ≠ .giveUp id)) := by
  rw [Pending, since_concat_iff]
  constructor
  · rintro ⟨standing, begun | ⟨since, kept⟩⟩
    · exact ⟨standing, Or.inl begun⟩
    · refine ⟨standing, Or.inr ⟨⟨fun finished => ?_, since⟩, kept⟩⟩
      exact standing (over_concat_iff.mpr (Or.inl finished))
  · rintro ⟨standing, begun | ⟨⟨-, since⟩, kept⟩⟩
    · exact ⟨standing, Or.inl begun⟩
    · exact ⟨standing, Or.inr ⟨since, kept⟩⟩

/-! ## What an action can do -/

/-- The signals alive, those first on which nobody waits. -/
def live (shutdown : Shutdown) : List String :=
  shutdown.signals ++ shutdown.waiting

/-- Every live signal has a name of its own, and no wait goes on that is over. -/
structure Sound (shutdown : Shutdown) : Prop where
  distinct : shutdown.live.Nodup
  settled : shutdown.isOver = true → shutdown.waiting = []

/-- Ends all waits. -/
def released (shutdown : Shutdown) : Shutdown :=
  { shutdown with signals := shutdown.live, waiting := [] }

/-- The actions, with what is seen of them and what they lead to. -/
inductive Moves (shutdown : Shutdown) : Action → Seen → Shutdown → Prop where
  | subscribed {id : String} (owned : shutdown.hasOwner = true) (fresh : id ∉ shutdown.live) :
      Moves shutdown (.subscribe id) {} { shutdown with signals := shutdown.signals ++ [id] }
  | cloned {source id : String} (held : source ∈ shutdown.signals)
      (fresh : id ∉ shutdown.live) :
      Moves shutdown (.clone source id) {} { shutdown with signals := shutdown.signals ++ [id] }
  | dropped {id : String} (held : id ∈ shutdown.signals) :
      Moves shutdown (.drop id) {} { shutdown with signals := shutdown.signals.erase id }
  | triggered (owned : shutdown.hasOwner = true) :
      Moves shutdown .trigger
        { ended := shutdown.waiting
          events := if shutdown.triggered then [] else [raised shutdown.live.length] }
        { shutdown.released with triggered := true }
  | abandoned (owned : shutdown.hasOwner = true) :
      Moves shutdown .dropOwner { ended := shutdown.waiting }
        { shutdown.released with hasOwner := false }
  | waited {id : String} (held : id ∈ shutdown.signals) (finished : shutdown.isOver = true) :
      Moves shutdown (.wait id) { ended := [id] }
        { shutdown with signals := shutdown.signals.erase id ++ [id], waiting := [] }
  | begun {id : String} (held : id ∈ shutdown.signals) (standing : shutdown.isOver = false) :
      Moves shutdown (.wait id) {}
        { shutdown with
          signals := shutdown.signals.erase id
          waiting := shutdown.waiting ++ [id] }
  | givenUp {id : String} (waits : id ∈ shutdown.waiting) :
      Moves shutdown (.giveUp id) {}
        { shutdown with
          signals := shutdown.signals ++ [id]
          waiting := shutdown.waiting.erase id }
  | ownerAsked (owned : shutdown.hasOwner = true) :
      Moves shutdown .askOwner { answer? := some shutdown.triggered } shutdown
  | asked {id : String} (held : id ∈ shutdown.signals) :
      Moves shutdown (.ask id) { answer? := some shutdown.triggered } shutdown

theorem isFree_iff : shutdown.isFree id = true ↔ id ∉ shutdown.live := by
  simp [isFree, live]

theorem addSignal_of_not_mem (fresh : id ∉ shutdown.signals) :
    shutdown.addSignal id = { shutdown with signals := shutdown.signals ++ [id] } := by
  have others : shutdown.signals.filter (· ≠ id) = shutdown.signals := by
    rw [List.filter_eq_self]
    intro other member
    rw [decide_eq_true_eq]
    rintro rfl
    exact fresh member
  rw [addSignal, others]

theorem dropSignal_of_nodup (distinct : shutdown.signals.Nodup) (id : String) :
    shutdown.dropSignal id = { shutdown with signals := shutdown.signals.erase id } := by
  rw [dropSignal, distinct.erase_eq_filter]
  congr 2
  funext other
  rw [decide_not]
  rfl

theorem foldl_addSignal {ids : List String} (distinct : (shutdown.signals ++ ids).Nodup) :
    ids.foldl addSignal shutdown = { shutdown with signals := shutdown.signals ++ ids } := by
  induction ids generalizing shutdown with
  | nil => simp
  | cons id rest induction =>
      have fresh : id ∉ shutdown.signals := fun member =>
        (List.nodup_append.mp distinct).2.2 id member id List.mem_cons_self rfl
      rw [List.foldl_cons, addSignal_of_not_mem fresh, induction]
      · simp
      · simpa using distinct

theorem settle_of_over (events : List Log.Event) (finished : shutdown.isOver = true)
    (distinct : shutdown.live.Nodup) :
    settle events shutdown = ({ ended := shutdown.waiting, events }, shutdown.released) := by
  have added := @foldl_addSignal { shutdown with waiting := [] } _ distinct
  simp only [settle, release, finished, if_true, added]
  rfl

theorem settle_of_standing (events : List Log.Event) (standing : shutdown.isOver = false) :
    settle events shutdown = ({ events }, shutdown) := by
  simp [settle, release, standing]

theorem trigger_eq (shutdown : Shutdown) :
    shutdown.trigger =
      { value := { shutdown with triggered := true }
        events := if shutdown.triggered then [] else [raised shutdown.live.length] } := by
  obtain ⟨triggered, hasOwner, signals, waiting⟩ := shutdown
  cases triggered with
  | true => rfl
  | false =>
      have alive : (signals ++ waiting).length = signals.length + waiting.length :=
        List.length_append
      simp only [live, alive]
      rfl

theorem perm_erase_append {signals waiting : List String} (held : id ∈ signals) :
    (signals.erase id ++ (waiting ++ [id])).Perm (signals ++ waiting) := by
  rw [← List.append_assoc]
  exact (List.perm_append_singleton id _).trans
    ((List.perm_cons_erase held).symm.append_right waiting)

theorem moves_of_step? (sound : Sound shutdown)
    (stepped : shutdown.step? action = some (seen, next)) :
    Moves shutdown action seen next := by
  have distinct : shutdown.signals.Nodup := sound.distinct.of_append_left
  cases action with
  | subscribe id =>
      simp only [step?, Option.ite_none_right_eq_some, Bool.and_eq_true, isFree_iff] at stepped
      obtain ⟨⟨owned, fresh⟩, made⟩ := stepped
      have unused : id ∉ shutdown.signals := fun member => fresh (List.mem_append_left _ member)
      rw [addSignal_of_not_mem unused] at made
      cases made
      exact .subscribed owned fresh
  | clone source id =>
      simp only [step?, Option.ite_none_right_eq_some, Bool.and_eq_true, isFree_iff,
        List.contains_iff_mem] at stepped
      obtain ⟨⟨held, fresh⟩, made⟩ := stepped
      have unused : id ∉ shutdown.signals := fun member => fresh (List.mem_append_left _ member)
      rw [addSignal_of_not_mem unused] at made
      cases made
      exact .cloned held fresh
  | drop id =>
      simp only [step?, Option.ite_none_right_eq_some, List.contains_iff_mem] at stepped
      obtain ⟨held, dropped⟩ := stepped
      rw [dropSignal_of_nodup distinct] at dropped
      cases dropped
      exact .dropped held
  | trigger =>
      simp only [step?, Option.ite_none_right_eq_some] at stepped
      obtain ⟨owned, triggered⟩ := stepped
      have finished : isOver { shutdown with triggered := true } = true := rfl
      rw [trigger_eq, settle_of_over _ finished sound.distinct] at triggered
      cases triggered
      exact .triggered owned
  | dropOwner =>
      simp only [step?, Option.ite_none_right_eq_some] at stepped
      obtain ⟨owned, abandoned⟩ := stepped
      have finished : shutdown.dropOwner.isOver = true := Bool.or_true _
      rw [settle_of_over [] finished sound.distinct] at abandoned
      cases abandoned
      exact .abandoned owned
  | wait id =>
      simp only [step?, Option.ite_none_right_eq_some, List.contains_iff_mem] at stepped
      obtain ⟨held, waited⟩ := stepped
      rw [beginWait, dropSignal_of_nodup distinct] at waited
      cases finished : shutdown.isOver with
      | true =>
          have alone : shutdown.waiting = [] := sound.settled finished
          have renamed : (shutdown.signals.erase id ++ [id]).Nodup := by
            have same := @perm_erase_append id shutdown.signals [] held
            rw [List.nil_append, List.append_nil] at same
            exact same.nodup_iff.mpr distinct
          rw [spawnWait, alone, List.nil_append] at waited
          rw [@settle_of_over
            { shutdown with signals := shutdown.signals.erase id, waiting := [id] } [] finished
            renamed] at waited
          cases waited
          exact .waited held finished
      | false =>
          rw [spawnWait, @settle_of_standing
            { shutdown with
              signals := shutdown.signals.erase id
              waiting := shutdown.waiting ++ [id] } [] finished] at waited
          cases waited
          exact .begun held finished
  | giveUp id =>
      simp only [step?, Option.ite_none_right_eq_some, List.contains_iff_mem] at stepped
      obtain ⟨waits, givenUp⟩ := stepped
      have unused : id ∉ shutdown.signals := fun member =>
        (List.nodup_append.mp sound.distinct).2.2 id member id waits rfl
      rw [endWait, @addSignal_of_not_mem id
        { shutdown with waiting := shutdown.waiting.erase id } unused] at givenUp
      cases givenUp
      exact .givenUp waits
  | askOwner =>
      simp only [step?, Option.ite_none_right_eq_some] at stepped
      obtain ⟨owned, asked⟩ := stepped
      cases asked
      exact .ownerAsked owned
  | ask id =>
      simp only [step?, Option.ite_none_right_eq_some, List.contains_iff_mem] at stepped
      obtain ⟨held, asked⟩ := stepped
      cases asked
      exact .asked held

/-! ## What an action changes -/

/-- An action makes one signal, or drops one, or leaves the live ones alone. -/
theorem Moves.perm_live (sound : Sound shutdown) (moves : Moves shutdown action seen next) :
    (action.drops?.toList ++ next.live).Perm (action.creates?.toList ++ shutdown.live) := by
  cases moves with
  | @subscribed id owned fresh =>
      exact (List.perm_append_singleton id _).append_right shutdown.waiting
  | @cloned source id held fresh =>
      exact (List.perm_append_singleton id _).append_right shutdown.waiting
  | @dropped id held => exact (List.perm_cons_erase held).symm.append_right shutdown.waiting
  | triggered owned => exact List.Perm.of_eq (List.append_nil _)
  | abandoned owned => exact List.Perm.of_eq (List.append_nil _)
  | @waited id held finished =>
      have alone : shutdown.live = shutdown.signals ++ [] :=
        congrArg (shutdown.signals ++ ·) (sound.settled finished)
      rw [alone]
      exact ((List.perm_append_singleton id _).trans
        (List.perm_cons_erase held).symm).append_right []
  | begun held standing => exact perm_erase_append held
  | @givenUp id waits =>
      have moved : (shutdown.signals ++ [id] ++ shutdown.waiting.erase id).Perm
          (shutdown.signals ++ shutdown.waiting) := by
        rw [List.append_assoc]
        exact (List.perm_cons_erase waits).symm.append_left shutdown.signals
      exact moved
  | ownerAsked owned => rfl
  | asked held => rfl

theorem Moves.fresh (moves : Moves shutdown action seen next) :
    ∀ id ∈ action.creates?, id ∉ shutdown.live := by
  cases moves with
  | subscribed owned fresh =>
      rintro _ ⟨⟩
      exact fresh
  | cloned held fresh =>
      rintro _ ⟨⟩
      exact fresh
  | dropped | triggered | abandoned | waited | begun | givenUp | ownerAsked | asked =>
      rintro _ ⟨⟩

theorem Moves.distinct (sound : Sound shutdown) (moves : Moves shutdown action seen next) :
    next.live.Nodup := by
  have unique : (action.creates?.toList ++ shutdown.live).Nodup := by
    have fresh := moves.fresh
    cases created : action.creates? with
    | none => exact sound.distinct
    | some id => exact sound.distinct.cons (fresh id created)
  exact ((moves.perm_live sound).nodup_iff.mpr unique).of_append_right

theorem Action.creates?_of_drops? {dropped : String} (drops : action.drops? = some dropped) :
    action.creates? = none := by
  cases action with
  | drop => rfl
  | subscribe | clone | trigger | dropOwner | wait | giveUp | askOwner | ask => cases drops

theorem Moves.mem_live_iff (sound : Sound shutdown) (moves : Moves shutdown action seen next) :
    id ∈ next.live ↔
      action.creates? = some id ∨ (id ∈ shutdown.live ∧ action.drops? ≠ some id) := by
  have live := moves.perm_live sound
  have member : id ∈ action.drops?.toList ++ next.live ↔
      id ∈ action.creates?.toList ++ shutdown.live :=
    live.mem_iff
  cases drops : action.drops? with
  | none => simpa [drops] using member
  | some dropped =>
      have creates : action.creates? = none := Action.creates?_of_drops? drops
      rw [drops, creates] at live member
      have gone : dropped ∉ next.live := (live.nodup_iff.mpr sound.distinct).notMem
      simp only [Option.toList_some, List.cons_append, List.nil_append, List.mem_cons,
        Option.toList_none] at member
      rw [← member, creates]
      constructor
      · intro kept
        refine Or.inr ⟨Or.inr kept, ?_⟩
        rintro ⟨⟩
        exact gone kept
      · rintro (made | ⟨same | kept, different⟩)
        · cases made
        · exact absurd (congrArg some same.symm) different
        · exact kept

theorem Moves.triggered_iff (moves : Moves shutdown action seen next) :
    next.triggered = true ↔ shutdown.triggered = true ∨ action = .trigger := by
  cases moves <;> simp [released]

theorem Moves.hasOwner_iff (moves : Moves shutdown action seen next) :
    next.hasOwner = true ↔ shutdown.hasOwner = true ∧ action ≠ .dropOwner := by
  cases moves <;> simp [released]

theorem Moves.settled (sound : Sound shutdown) (moves : Moves shutdown action seen next)
    (finished : next.isOver = true) :
    next.waiting = [] := by
  cases moves with
  | triggered | abandoned | waited => rfl
  | subscribed | cloned | dropped | ownerAsked | asked => exact sound.settled finished
  | begun held standing =>
      have contrary : shutdown.isOver = true := finished
      rw [standing] at contrary
      cases contrary
  | givenUp waits =>
      rw [sound.settled finished] at waits
      cases waits

theorem Moves.mem_waiting_iff (sound : Sound shutdown) (moves : Moves shutdown action seen next)
    (standing : next.isOver = false) :
    id ∈ next.waiting ↔
      action = .wait id ∨ (id ∈ shutdown.waiting ∧ action ≠ .giveUp id) := by
  cases moves with
  | subscribed | cloned | dropped | ownerAsked | asked => simp
  | triggered | abandoned => simp [isOver, released] at standing
  | waited held finished =>
      have contrary : shutdown.isOver = false := standing
      rw [finished] at contrary
      cases contrary
  | @begun other held standing => simp [or_comm, eq_comm]
  | @givenUp other waits =>
      have distinct : shutdown.waiting.Nodup := sound.distinct.of_append_right
      simp [distinct.mem_erase_iff, and_comm, eq_comm]

/-! ## What is seen -/

theorem Moves.answer?_eq (moves : Moves shutdown action seen next) :
    seen.answer? = if action.asks then some shutdown.triggered else none := by
  cases moves <;> rfl

theorem Moves.events_eq (moves : Moves shutdown action seen next) :
    seen.events =
      if action = .trigger ∧ shutdown.triggered = false then [raised shutdown.live.length]
      else [] := by
  cases moves with
  | triggered owned => cases shutdown.triggered <;> rfl
  | subscribed | cloned | dropped | abandoned | waited | begun | givenUp | ownerAsked | asked =>
      simp

theorem Moves.mem_ended_iff (moves : Moves shutdown action seen next) :
    id ∈ seen.ended ↔
      (action = .wait id ∧ shutdown.isOver = true) ∨
        ((action = .trigger ∨ action = .dropOwner) ∧ id ∈ shutdown.waiting) := by
  cases moves with
  | triggered | abandoned => simp
  | waited held finished => simp [finished, eq_comm]
  | begun held standing => simp [standing]
  | subscribed | cloned | dropped | givenUp | ownerAsked | asked => simp

/-- A signal on which a wait has ended can be waited on again, at once. -/
theorem Moves.ended_again (moves : Moves shutdown action seen next) (ended : id ∈ seen.ended) :
    id ∈ next.signals ∧ next.isOver = true := by
  cases moves with
  | triggered owned => exact ⟨List.mem_append_right _ ended, rfl⟩
  | abandoned owned => exact ⟨List.mem_append_right _ ended, Bool.or_true _⟩
  | waited held finished =>
      rw [List.mem_singleton.mp ended]
      exact ⟨List.mem_append_right _ (List.mem_singleton_self _), finished⟩
  | subscribed | cloned | dropped | begun | givenUp | ownerAsked | asked => cases ended

/-! ## Along a history -/

/-- A state that a history has led to. -/
structure Follows (history : List Action) (shutdown : Shutdown) : Prop extends Sound shutdown where
  triggered : shutdown.triggered = true ↔ .trigger ∈ history
  hasOwner : shutdown.hasOwner = true ↔ .dropOwner ∉ history
  alive : ∀ id, id ∈ shutdown.live ↔ Alive history id
  pending : ∀ id, id ∈ shutdown.waiting ↔ Pending history id
  count : (history.filterMap Action.drops?).length + shutdown.live.length =
    (history.filterMap Action.creates?).length

namespace Follows

theorem start : Follows [] {} where
  distinct := List.nodup_nil
  settled _ := rfl
  triggered := by simp
  hasOwner := by simp
  alive id := by simp [live, Alive, Since]
  pending id := by simp [Pending, Since]
  count := rfl

theorem isOver_iff (follows : Follows history shutdown) :
    shutdown.isOver = true ↔ Over history := by
  rw [isOver, Bool.or_eq_true, Bool.not_eq_true', ← Bool.not_eq_true, follows.triggered,
    follows.hasOwner, not_not, Over]

theorem mem_signals_iff (follows : Follows history shutdown) :
    id ∈ shutdown.signals ↔ Idle history id := by
  rw [Idle, ← follows.alive, ← follows.pending, live, List.mem_append]
  constructor
  · intro member
    refine ⟨Or.inl member, fun waits => ?_⟩
    exact (List.nodup_append.mp follows.distinct).2.2 id member id waits rfl
  · rintro ⟨member | waits, idle⟩
    · exact member
    · exact absurd waits idle

theorem move (follows : Follows history shutdown) (moves : Moves shutdown action seen next) :
    Follows (history ++ [action]) next := by
  have sound : Sound shutdown := follows.toSound
  have live := moves.perm_live sound
  have finished : next.isOver = true ↔ Over (history ++ [action]) := by
    rw [over_concat_iff, ← follows.isOver_iff]
    simp only [isOver, Bool.or_eq_true, Bool.not_eq_true', ← Bool.not_eq_true,
      moves.triggered_iff, moves.hasOwner_iff]
    tauto
  constructor
  · exact ⟨moves.distinct sound, moves.settled sound⟩
  · rw [moves.triggered_iff, follows.triggered, List.mem_append, List.mem_singleton, eq_comm]
  · rw [moves.hasOwner_iff, follows.hasOwner, List.mem_append, List.mem_singleton, not_or,
      ne_comm]
  · intro id
    rw [alive_concat_iff, ← follows.alive]
    exact moves.mem_live_iff sound
  -- No wait outlasts the end of the flag, so the two cases differ before it only.
  · intro id
    rw [pending_concat_iff, ← follows.pending, ← finished]
    cases isOver : next.isOver with
    | true => simp [moves.settled sound isOver]
    | false => simp [moves.mem_waiting_iff sound isOver]
  · have lengths := live.length_eq
    have counted := follows.count
    have single (image : Action → Option String) :
        ([action].filterMap image).length = (image action).toList.length := by
      cases made : image action <;> simp [made]
    rw [List.length_append, List.length_append] at lengths
    rw [List.filterMap_append, List.filterMap_append, List.length_append, List.length_append,
      single, single]
    omega

theorem isSome_step?_iff (follows : Follows history shutdown) :
    (shutdown.step? action).isSome = true ↔ Possible history action := by
  cases action <;>
    simp [step?, Possible, isFree_iff, follows.mem_signals_iff, follows.alive, follows.pending,
      follows.hasOwner]

theorem aliveCount_eq (follows : Follows history shutdown) :
    aliveCount history = shutdown.live.length := by
  have counted := follows.count
  rw [aliveCount]
  omega

end Follows

theorem run?_concat_iff :
    shutdown.run? (history ++ [action]) = some next ↔
      ∃ former seen, shutdown.run? history = some former ∧
        former.step? action = some (seen, next) := by
  simp [run?, List.foldlM_append, Option.bind_eq_some_iff]

theorem follows_of_run (ran : run? {} history = some shutdown) : Follows history shutdown := by
  induction history using List.reverseRecOn generalizing shutdown with
  | nil =>
      cases ran
      exact .start
  | append_singleton front action induction =>
      obtain ⟨former, seen, before, stepped⟩ := run?_concat_iff.mp ran
      have follows : Follows front former := induction before
      exact follows.move (moves_of_step? follows.toSound stepped)

/--
A shutdown flag follows its history.

After any run of actions, on any number of signals, an action is possible if there
is an owner or a signal for it.  Whoever asks is told that the flag is raised
exactly if it was triggered before.  A wait ends at once if the flag was triggered
or its owner is gone; a wait that goes on ends when either happens, and with no
other action; and on a signal on which a wait has ended another one ends at once.
The first trigger is logged, with the number of signals alive, and nothing else is.
-/
theorem flag_follows_history (ran : run? {} history = some shutdown) (action : Action) :
    ((shutdown.step? action).isSome = true ↔ Possible history action) ∧
      ∀ seen next, shutdown.step? action = some (seen, next) →
        (seen.answer? =
            if action.asks then some (decide (.trigger ∈ history)) else none) ∧
          (∀ id, id ∈ seen.ended ↔
            (action = .wait id ∧ Over history) ∨
              ((action = .trigger ∨ action = .dropOwner) ∧ Pending history id)) ∧
          (∀ id ∈ seen.ended, ∃ again later,
            next.step? (.wait id) = some (again, later) ∧ again.ended = [id]) ∧
          seen.events =
            if action = .trigger ∧ .trigger ∉ history then [raised (aliveCount history)]
            else [] := by
  have follows : Follows history shutdown := follows_of_run ran
  refine ⟨follows.isSome_step?_iff, fun seen next stepped => ?_⟩
  have moves : Moves shutdown action seen next := moves_of_step? follows.toSound stepped
  have raised_iff : shutdown.triggered = decide (.trigger ∈ history) := by
    rw [Bool.eq_iff_iff, decide_eq_true_eq]
    exact follows.triggered
  refine ⟨?_, ?_, ?_, ?_⟩
  · rw [moves.answer?_eq, raised_iff]
  · intro id
    rw [moves.mem_ended_iff, follows.isOver_iff, follows.pending]
  · intro id ended
    obtain ⟨held, finished⟩ := moves.ended_again ended
    have later := follows.move moves
    have possible : (next.step? (.wait id)).isSome = true :=
      later.isSome_step?_iff.mpr (later.mem_signals_iff.mp held)
    obtain ⟨⟨again, rest⟩, waited⟩ := Option.isSome_iff_exists.mp possible
    refine ⟨again, rest, waited, ?_⟩
    cases moves_of_step? later.toSound waited with
    | waited => rfl
    | begun _ standing =>
        rw [finished] at standing
        cases standing
  · rw [moves.events_eq, raised_iff, follows.aliveCount_eq]
    simp

/-- Of three signals one was dropped and one is waited on when the flag is triggered. -/
theorem flag_follows_history_waiting :
    let history : List Action :=
      [.subscribe "a", .clone "a" "b", .subscribe "c", .drop "c", .wait "a"]
    let shutdown : Shutdown := { signals := ["b"], waiting := ["a"] }
    run? {} history = some shutdown ∧ Pending history "a" ∧
      ∃ seen next, shutdown.step? .trigger = some (seen, next) ∧ "a" ∈ seen.ended ∧
        seen.events = [raised 2] ∧
          ∃ again later, next.step? (.wait "a") = some (again, later) ∧ again.ended = ["a"] := by
  intro history shutdown
  have ran : run? {} history = some shutdown := rfl
  have pending : Pending history "a" := by
    refine ⟨?_, history.dropLast, .wait "a", [], rfl, rfl, by simp⟩
    rintro (raised | gone)
    · exact absurd raised (by decide)
    · exact absurd gone (by decide)
  obtain ⟨possible, shows⟩ := flag_follows_history ran .trigger
  have owned : Possible history .trigger := by
    intro gone
    exact absurd gone (by decide)
  obtain ⟨⟨seen, next⟩, stepped⟩ := Option.isSome_iff_exists.mp (possible.mpr owned)
  obtain ⟨-, ended, again, events⟩ := shows seen next stepped
  have released : "a" ∈ seen.ended := (ended "a").mpr (Or.inr ⟨Or.inl rfl, pending⟩)
  exact ⟨ran, pending, seen, next, stepped, released, events, again "a" released⟩

end SessionGateway.Shutdown
