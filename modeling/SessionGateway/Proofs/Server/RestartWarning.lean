import SessionGateway.Cli
import SessionGateway.Proofs.Server.Updates
import SessionGateway.Proofs.Settings.Rules
import SessionGateway.Settings.Notice

/-!
# Warnings that a restart is due

A running server warns of an update whose listener is not the one it was started
with.  The command line may have replaced the address of that listener, and
updates are read from the file as it is.  So the warnings are about changes of
the file if and only if the start took its address from there.
-/

namespace SessionGateway

namespace Settings

theorem problems_of_parse
    {name content : String} {settings : GatewaySettings}
    (parsed : parse name content = .ok settings) : problems settings = [] := by
  unfold parse at parsed
  split at parsed
  · cases parsed
  · split at parsed
    · next valid =>
        cases parsed
        exact valid
    · cases parsed

/-- Settings that were loaded are valid. -/
theorem problems_of_load
    {name : String} {file : File} {settings : GatewaySettings}
    (loads : load name file = .ok settings) : problems settings = [] := by
  unfold load at loads
  split at loads
  · cases loads
  · exact problems_of_parse loads

/-- Valid settings stay valid with another address in the listener, if it is one. -/
theorem problems_of_address
    {settings : GatewaySettings} (valid : problems settings = [])
    {address : String} (legal : Net.SocketAddress.isLegal address.toList = true) :
    problems { settings with listener := { settings.listener with bindAddress := address } } =
      [] := by
  refine problems_of_change valid .bindAddress ?_ ?_ rfl
  · exact legal
  · intro other different
    cases other with
    | bindAddress => exact absurd rfl different
    | pathPrefix | clientLibraryUrl => exact rfl
    | positive field => cases field <;> exact rfl

end Settings

namespace Cli

/-- The settings of a start with a file. -/
theorem settings_of_load
    {environment : Environment} {path : String} {loaded : GatewaySettings}
    (loads : Settings.load environment.serviceName (environment.file path) = .ok loaded)
    (bind : Option String) :
    settings environment { config := some path, bind } =
      .ok { loaded with
        listener :=
          { loaded.listener with bindAddress := bind.getD loaded.listener.bindAddress } } := by
  rw [settings]
  dsimp only
  rw [loads]
  cases bind <;> rfl

end Cli

namespace Server

open Reload

/-- A course that a server started with the settings can take. -/
def Reaches (settings : GatewaySettings) (course : Course) : Prop :=
  ∃ address isListening actions,
    (Course.start settings address isListening).run? actions = some course

/-- The log tells of every update applied, and warns of those with another listener. -/
def Course.Warns (listener : ListenerSettings) (course : Course) : Prop :=
  course.server.reload.events =
    course.applied.flatMap fun update =>
      (if update.listener = listener then [] else [restartRequired]) ++
        [Service.updated update.service]

variable {settings update : GatewaySettings} {listener : ListenerSettings} {course : Course}

/-- The updates that a server warns of are those with another listener than its own. -/
theorem Reaches.warns (reaches : Reaches settings course) : course.Warns settings.listener := by
  obtain ⟨address, isListening, actions, run⟩ := reaches
  have applies := Course.applies_of_run (Course.applies_start settings address isListening) run
  exact applies.events

/-- Any update can be the only one. -/
theorem reaches_update (settings update : GatewaySettings) :
    ∃ course, Reaches settings course ∧ course.applied = [update] ∧
      course.server.reload.events = updateEvents settings.listener update :=
  ⟨_, ⟨"", true, [.send update, .apply], rfl⟩, rfl, rfl⟩

theorem restartRequired_mem_updateEvents_iff :
    restartRequired ∈ updateEvents listener update ↔ update.listener ≠ listener := by
  have counted := Course.count_restartRequired listener [update]
  rw [List.flatMap_singleton] at counted
  rw [← List.count_pos_iff, counted, List.countP_pos_iff]
  simp

/-- A server warns of an update to the file's own listener, if it was started with another. -/
theorem exists_warning
    {loaded : GatewaySettings} (valid : Settings.problems loaded = [])
    (different : loaded.listener ≠ settings.listener) :
    ∃ update course, Reaches settings course ∧ course.applied = [update] ∧
      Settings.problems update = [] ∧ update.listener = loaded.listener ∧
        restartRequired ∈ course.server.reload.events := by
  obtain ⟨course, reaches, applied, events⟩ := reaches_update settings loaded
  refine ⟨loaded, course, reaches, applied, valid, rfl, ?_⟩
  rw [events]
  exact restartRequired_mem_updateEvents_iff.mpr different

/-- A server does not warn of an update to its own listener, whichever one the file had. -/
theorem exists_silence
    {loaded : GatewaySettings} (valid : Settings.problems loaded = [])
    {address : String} (legal : Net.SocketAddress.isLegal address.toList = true)
    (listener : settings.listener = { loaded.listener with bindAddress := address }) :
    ∃ update course, Reaches settings course ∧ course.applied = [update] ∧
      Settings.problems update = [] ∧ update.listener = settings.listener ∧
        restartRequired ∉ course.server.reload.events := by
  let update : GatewaySettings :=
    { loaded with listener := { loaded.listener with bindAddress := address } }
  obtain ⟨course, reaches, applied, events⟩ := reaches_update settings update
  refine ⟨update, course, reaches, applied, Settings.problems_of_address valid legal,
    listener.symm, ?_⟩
  rw [events, restartRequired_mem_updateEvents_iff, not_not]
  exact listener.symm

/--
A server that was started with a file warns of the updates whose listener is not
the one it was started with.

That listener is the one of the file, except for the address where the start was
given one.  If this is the same address, the warnings are therefore about the
valid updates whose listener is not the one the file had.  If it differs, there
is a valid update that has the listener of the file and is warned of; and if the
address given is one that a file may have, there is a valid update that has
another listener than the file and is not warned of.
-/
theorem warns_of_changes
    {environment : Cli.Environment} {path : String} {loaded : GatewaySettings}
    (loads : Settings.load environment.serviceName (environment.file path) = .ok loaded)
    (bind : Option String) :
    let address := bind.getD loaded.listener.bindAddress
    ∃ settings, Cli.settings environment { config := some path, bind } = .ok settings ∧
      settings.listener = { loaded.listener with bindAddress := address } ∧
        (∀ course, Reaches settings course → course.Warns settings.listener) ∧
          ((∀ course, Reaches settings course →
              (∀ update ∈ course.applied, Settings.problems update = []) →
                course.Warns loaded.listener) ↔
            address = loaded.listener.bindAddress) ∧
            (address ≠ loaded.listener.bindAddress →
              (∃ update course, Reaches settings course ∧ course.applied = [update] ∧
                  Settings.problems update = [] ∧ update.listener = loaded.listener ∧
                    restartRequired ∈ course.server.reload.events) ∧
                (Net.SocketAddress.isLegal address.toList = true →
                  ∃ update course, Reaches settings course ∧ course.applied = [update] ∧
                    Settings.problems update = [] ∧ update.listener ≠ loaded.listener ∧
                      restartRequired ∉ course.server.reload.events)) := by
  intro address
  have valid := Settings.problems_of_load loads
  obtain ⟨settings, starts, listener⟩ :
      ∃ settings, Cli.settings environment { config := some path, bind } = .ok settings ∧
        settings.listener = { loaded.listener with bindAddress := address } :=
    ⟨_, Cli.settings_of_load loads bind, rfl⟩
  have same_iff :
      settings.listener = loaded.listener ↔ address = loaded.listener.bindAddress := by
    rw [listener]
    constructor
    · exact congrArg ListenerSettings.bindAddress
    · intro same
      rw [same]
  refine ⟨settings, starts, listener, fun course => Reaches.warns, ⟨?_, ?_⟩, ?_⟩
  · intro warns
    by_contra different
    rw [← same_iff] at different
    obtain ⟨update, course, reaches, applied, allowed, unchanged, warned⟩ :=
      exists_warning valid (Ne.symm different)
    have events := warns course reaches (by simp [applied, allowed])
    rw [Course.Warns, applied, List.flatMap_singleton] at events
    rw [events] at warned
    exact restartRequired_mem_updateEvents_iff.mp warned unchanged
  · intro same course reaches _
    rw [← same_iff.mpr same]
    exact reaches.warns
  · intro different
    rw [Ne, ← same_iff] at different
    refine ⟨exists_warning valid (Ne.symm different), fun legal => ?_⟩
    obtain ⟨update, course, reaches, applied, allowed, moved, silent⟩ :=
      exists_silence valid legal listener
    exact ⟨update, course, reaches, applied, allowed, moved ▸ different, silent⟩

/-- A server that was started with an empty file and an address, and takes up that address. -/
theorem warns_of_changes_moved :
    let environment : Cli.Environment :=
      { file := fun _ => .content [], serviceName := "gateway" }
    let loaded : GatewaySettings := { service := { name := "gateway" } }
    Settings.load environment.serviceName (environment.file "gateway.toml") = .ok loaded ∧
      ∃ settings,
        Cli.settings environment
            { config := some "gateway.toml", bind := some "127.0.0.1:9000" } = .ok settings ∧
          ∃ update course, Reaches settings course ∧ course.applied = [update] ∧
            Settings.problems update = [] ∧ update.listener ≠ loaded.listener ∧
              restartRequired ∉ course.server.reload.events := by
  intro environment loaded
  have loads :
      Settings.load environment.serviceName (environment.file "gateway.toml") = .ok loaded := by
    decide +kernel
  obtain ⟨settings, starts, -, -, -, moved⟩ := warns_of_changes loads (some "127.0.0.1:9000")
  exact ⟨loads, settings, starts, (moved (by decide)).2 (by decide)⟩

/--
A server that was started with an empty file and an address: when a setting of
the service is written to the file, it says that the listener has changed.
-/
theorem warns_of_unchanged_listener :
    let environment : Cli.Environment :=
      { file := fun _ => .content [], serviceName := "gateway" }
    let edit := "[sockjs]\nsuppress_cors = true\n"
    let update : GatewaySettings :=
      { service := { name := ServiceSettings.generatedName 0, suppressCors := true } }
    ∃ loaded settings course,
      Settings.load environment.serviceName (environment.file "gateway.toml") = .ok loaded ∧
        Cli.settings environment
            { config := some "gateway.toml", bind := some "127.0.0.1:9000" } = .ok settings ∧
          ((Settings.Watcher.start (environment.file "gateway.toml")).heed "gateway.toml"
              { notice := .change .modified ["gateway.toml"]
                file := .content (Text.octets edit)
                number := 0 }).2 = .emitted update ∧
            update.listener = loaded.listener ∧
              (Course.start settings "127.0.0.1:9000" true).run? [.send update, .apply] =
                  some course ∧
                course.applied = [update] ∧
                  restartRequired ∈ course.server.reload.events := by
  intro environment edit update
  let loaded : GatewaySettings := { service := { name := "gateway" } }
  have loads :
      Settings.load environment.serviceName (environment.file "gateway.toml") = .ok loaded := by
    decide +kernel
  have emits :
      ((Settings.Watcher.start (environment.file "gateway.toml")).heed "gateway.toml"
          { notice := .change .modified ["gateway.toml"]
            file := .content (Text.octets edit)
            number := 0 }).2 = .emitted update := by
    decide +kernel
  refine ⟨loaded, _, _, loads, Cli.settings_of_load loads _, emits, rfl, rfl, rfl, ?_⟩
  exact restartRequired_mem_updateEvents_iff.mpr (by decide)

end Server

end SessionGateway
