import SessionGateway.Log

/-!
# Shutdown

One owner raises a flag, once and for all, and any number of signals see it.
A wait on a signal ends when the flag is raised, and also when the owner is
gone.
-/

namespace SessionGateway

/-- The shutdown flag, its owner, and the signals that see it. -/
structure Shutdown where
  triggered : Bool := false
  hasOwner : Bool := true
  /-- The live signals, by name. -/
  signals : List String := []
  /-- The signals of tasks that wait, by the name of the signal they were made from. -/
  waiting : List String := []
  deriving DecidableEq, Repr

namespace Shutdown

/-- Whether a wait ends at once. -/
def isOver (shutdown : Shutdown) : Bool :=
  shutdown.triggered || !shutdown.hasOwner

/-- Adds a signal; one of the same name is dropped. -/
def addSignal (shutdown : Shutdown) (id : String) : Shutdown :=
  { shutdown with signals := shutdown.signals.filter (· ≠ id) ++ [id] }

/-- Drops a signal. -/
def dropSignal (shutdown : Shutdown) (id : String) : Shutdown :=
  { shutdown with signals := shutdown.signals.filter (· ≠ id) }

/-- Drops the owner. -/
def dropOwner (shutdown : Shutdown) : Shutdown :=
  { shutdown with hasOwner := false }

/-- Starts a task that waits on a signal. -/
def spawnWait (shutdown : Shutdown) (id : String) : Shutdown :=
  { shutdown with waiting := shutdown.waiting ++ [id] }

/-- The signals alive, those of waiting tasks included. -/
def subscribers (shutdown : Shutdown) : Nat :=
  shutdown.signals.length + shutdown.waiting.length

/-- Logged when the flag is raised. -/
def raised (subscribers : Nat) : Log.Event :=
  { level := .info
    message := "Shutdown triggered"
    fields := [("subscribers", toString subscribers)] }

/-- Raises the flag; only the first time is logged. -/
def trigger (shutdown : Shutdown) : Log.Logged Shutdown :=
  if shutdown.triggered then
    pure shutdown
  else do
    Log.record [raised shutdown.subscribers]
    pure { shutdown with triggered := true }

/-- Ends the waits that are over; answers their names. -/
def release (shutdown : Shutdown) : List String × Shutdown :=
  if shutdown.isOver then
    (shutdown.waiting, { shutdown with waiting := [] })
  else
    ([], shutdown)

end Shutdown

end SessionGateway
