import SessionGateway.Settings.Watch

/-!
# Notices about the settings file

What a watched directory reports, and which of it concerns the settings file:
that a file of its name was created or modified.  A watcher reads its file
again at every such notice, in the state the file is in by then.

`Watcher.heed` takes one notice into account, `Watcher.follow` any number of
them.
-/

namespace SessionGateway.Settings

/-- What has happened to the files of a notice. -/
inductive Change where
  | unspecified
  | accessed
  | created
  | modified
  | removed
  | other
  deriving DecidableEq, Repr

/-- What a watched directory reports. -/
inductive Notice where
  /-- Watching itself has failed. -/
  | failure
  | change (kind : Change) (paths : List String)
  deriving DecidableEq, Repr

/-- The name of the file that a path leads to; a path that ends in `..` names none. -/
def fileName? (path : String) : Option (List Char) :=
  let parts := (path.toList.splitOn '/').filter fun part => !part.isEmpty && part != ['.']
  parts.getLast?.filter fun part => part != ['.', '.']

/-- Whether a notice is about a file of the name that a path ends in. -/
def Notice.concerns (path : String) : Notice → Bool
  | failure => false
  | change kind paths =>
      (kind == .modified || kind == .created) &&
        paths.any fun other => fileName? other == fileName? path

/-- A notice as a watcher takes it into account. -/
structure Sighting where
  notice : Notice
  /-- What is found at the watched path by then. -/
  file : File
  /-- What the name of a service is generated from, should it be given none. -/
  number : UInt32

namespace Watcher

/-- The settings that a reaction emits. -/
def Reaction.emission? : Reaction → Option GatewaySettings
  | emitted settings => some settings
  | nothing | kept _ => none

/-- Takes a notice into account. -/
def heed (path : String) (watcher : Watcher) (sighting : Sighting) : Watcher × Reaction :=
  watcher.observe (ServiceSettings.generatedName sighting.number)
    (if sighting.notice.concerns path then .changed sighting.file else .unrelated)

/-- Takes notices into account one after the other; answers all that is emitted, in order. -/
def follow (path : String) (watcher : Watcher) :
    List Sighting → Watcher × List GatewaySettings
  | [] => (watcher, [])
  | sighting :: later =>
      let (next, reaction) := watcher.heed path sighting
      let (last, emitted) := next.follow path later
      (last, reaction.emission?.toList ++ emitted)

end Watcher

end SessionGateway.Settings
