import SessionGateway.Settings.Notice

/-!
# Keeping up with the settings file

A gateway that is started with a settings file reads it twice: once to load its
settings, and once more when it starts to watch the file.  From then on it
reads the file at every notice about it.  An operator may write the file
between any two of these readings.

`Upkeep.step?` is one action, of the gateway or of the operator, and
`Upkeep.run?` a run of them in any order.
-/

namespace SessionGateway.Settings

/-- How far a gateway has come with its settings file. -/
inductive Upkeep.Stage where
  | closed
  | loaded (settings : GatewaySettings)
  /-- The file is watched; all that was emitted since is kept, in order. -/
  | watching (first : GatewaySettings) (watcher : Watcher) (emitted : List GatewaySettings)

/-- A settings file, and a gateway that keeps up with it. -/
structure Upkeep where
  file : File
  stage : Upkeep.Stage := .closed
  /-- Whether a notice about the file was taken into account since it was last written. -/
  isSettled : Bool := false

namespace Upkeep

/-- What a gateway and an operator can do. -/
inductive Action where
  /-- The operator leaves the file in some state. -/
  | write (file : File)
  | load (number : UInt32)
  | watch
  | heed (notice : Notice) (number : UInt32)

/-- The settings last emitted, or else the ones that were loaded. -/
def Stage.inForce? : Stage → Option GatewaySettings
  | closed => none
  | loaded settings => some settings
  | watching first _ emitted => emitted.getLast?.or (some first)

/-- One action; a gateway that cannot load its settings does not go on. -/
def step? (path : String) (upkeep : Upkeep) : Action → Option Upkeep
  | .write file => some { upkeep with file, isSettled := false }
  | .load number =>
      match upkeep.stage, Settings.load (ServiceSettings.generatedName number) upkeep.file with
      | .closed, .ok settings => some { upkeep with stage := .loaded settings }
      | _, _ => none
  | .watch =>
      match upkeep.stage with
      | .loaded settings =>
          some { upkeep with stage := .watching settings (Watcher.start upkeep.file) [] }
      | _ => none
  | .heed notice number =>
      match upkeep.stage with
      | .watching first watcher emitted =>
          let (next, reaction) := watcher.heed path { notice, file := upkeep.file, number }
          some
            { upkeep with
              stage := .watching first next (emitted ++ reaction.emission?.toList)
              isSettled := upkeep.isSettled || notice.concerns path }
      | _ => none

/-- Actions one after the other. -/
def run? (path : String) (upkeep : Upkeep) (actions : List Action) : Option Upkeep :=
  actions.foldlM (step? path) upkeep

end Upkeep

end SessionGateway.Settings
