import SessionGateway.Log
import SessionGateway.Settings.Load
import SessionGateway.Text.Quoted

/-!
# Watching the settings file

A watcher remembers the text it saw last.  At every event that concerns its
file it reads the file again and emits the settings if they are new and valid.
A text that is refused is not remembered, so going back from it to the text
before emits nothing.
-/

namespace SessionGateway.Settings

/-- A watcher of one file, with the text it saw last. -/
structure Watcher where
  lastSeen : Option String
  deriving DecidableEq, Repr

namespace Watcher

/-- What an event in the directory of the file means to the watcher. -/
inductive Event where
  /-- The file was created or modified, and is found in this state. -/
  | changed (file : File)
  /-- Anything else. -/
  | unrelated
  deriving DecidableEq, Repr

/-- What a watcher makes of an event. -/
inductive Reaction where
  | nothing
  | emitted (settings : GatewaySettings)
  | kept (fault : Fault)
  deriving DecidableEq, Repr

/-- Starts watching a file that is found in some state. -/
def start (file : File) : Watcher :=
  { lastSeen := file.text.toOption }

/-- Reads the file again. -/
def reload (name : String) (file : File) (watcher : Watcher) : Watcher × Reaction :=
  match file.text with
  | .error fault => (watcher, .kept (.file fault))
  | .ok content =>
      if watcher.lastSeen = some content then
        (watcher, .nothing)
      else
        match parse name content with
        | .error fault => (watcher, .kept fault)
        | .ok settings => ({ lastSeen := some content }, .emitted settings)

/-- Takes an event into account. -/
def observe (name : String) (watcher : Watcher) : Event → Watcher × Reaction
  | .changed file => watcher.reload name file
  | .unrelated => (watcher, .nothing)

/-- Logged when watching starts. -/
def started (path : String) : Log.Event :=
  { level := .info, message := "Config watcher started", fields := [("path", Text.quoted path)] }

/-- The wording for a text that was refused. -/
def keptMessage : String :=
  "Failed to reload config, keeping current configuration"

/-- What is logged for a reaction. -/
def Reaction.events (path : String) : Reaction → List Log.Event
  | nothing => []
  | emitted _ =>
      [{ level := .info
         message := "Config file changed, reloaded"
         fields := [("path", Text.quoted path)] }]
  | kept fault =>
      [{ level := .error, message := keptMessage, fields := [("error", fault.message)] }]

end Watcher

end SessionGateway.Settings
