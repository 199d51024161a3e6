import SessionGateway.Proofs.Settings.Watcher
import SessionGateway.Settings.Upkeep

/-!
# Edits around a start

A gateway reads its settings file once to load it and once more when it starts
to watch it, and takes the second reading for one it has already applied.
Whether it keeps up with the file therefore depends on what stands in the file
by then: it does if those settings are the loaded ones, and in any case from
the first settings that are emitted on (`converges_iff`).

`Follows` is what one action preserves once the file is watched.
-/

namespace SessionGateway.Settings.Upkeep

variable {path : String} {upkeep next : Upkeep} {first : GatewaySettings} {begun : Watcher}

/-- The settings in force are those that the file describes, if it describes any. -/
def IsCurrent (upkeep : Upkeep) : Prop :=
  ∀ content, upkeep.file.text = .ok content → accepts content = true →
    ∃ settings ∈ upkeep.stage.inForce?, Describes content settings

/--
A watched file: `first` are the settings that were loaded, `begun` the watcher
that was started.
-/
structure Follows
    (first : GatewaySettings) (begun watcher : Watcher) (emitted : List GatewaySettings)
    (upkeep : Upkeep) : Prop where
  stage : upkeep.stage = .watching first watcher emitted
  seen :
    upkeep.isSettled = true → ∀ content, upkeep.file.text = .ok content →
      accepts content = true → watcher.lastSeen = some content
  upToDate :
    emitted ≠ [] ∨ UpToDate begun (some first) →
      UpToDate watcher (emitted.getLast?.or (some first))

namespace Follows

variable {watcher : Watcher} {emitted : List GatewaySettings}

theorem isCurrent
    (follows : Follows first begun watcher emitted upkeep)
    (settled : upkeep.isSettled = true)
    (upToDate : emitted ≠ [] ∨ UpToDate begun (some first)) :
    upkeep.IsCurrent := by
  intro content text accepted
  rw [follows.stage]
  exact follows.upToDate upToDate content (follows.seen settled content text accepted) accepted

theorem write (follows : Follows first begun watcher emitted upkeep) (file : File) :
    Follows first begun watcher emitted { upkeep with file, isSettled := false } where
  stage := follows.stage
  seen settled := by cases settled
  upToDate := follows.upToDate

theorem heed
    {notice : Notice} {number : UInt32} {later : Watcher} {reaction : Watcher.Reaction}
    (follows : Follows first begun watcher emitted upkeep)
    (reacts :
      watcher.heed path { notice, file := upkeep.file, number } = (later, reaction)) :
    Follows first begun later (emitted ++ reaction.emission?.toList)
      { upkeep with
        stage := .watching first later (emitted ++ reaction.emission?.toList)
        isSettled := upkeep.isSettled || notice.concerns path } where
  stage := rfl
  seen settled content text accepted := by
    let sighting : Sighting := { notice, file := upkeep.file, number }
    cases concerned : notice.concerns path with
    | true =>
        have seen : (watcher.heed path sighting).1.lastSeen = some content :=
          heed_seen concerned text accepted
        rw [reacts] at seen
        exact seen
    | false =>
        have still : watcher.heed path sighting = (watcher, .nothing) :=
          heed_unconcerned concerned
        obtain ⟨rfl, -⟩ := Prod.mk.inj (reacts.symm.trans still)
        dsimp only at settled
        rw [concerned, Bool.or_false] at settled
        exact follows.seen settled content text accepted
  upToDate premise := by
    let sighting : Sighting := { notice, file := upkeep.file, number }
    cases emission : reaction.emission? with
    | none =>
        have kept : (watcher.heed path sighting).1 = watcher :=
          heed_of_silent ((congrArg _ (congrArg Prod.snd reacts)).trans emission)
        rw [reacts] at kept
        obtain rfl : later = watcher := kept
        rw [emission] at premise
        rw [Option.toList_none, List.append_nil] at premise ⊢
        exact follows.upToDate premise
    | some settings =>
        have current : UpToDate (watcher.heed path sighting).1 (some settings) :=
          upToDate_of_emission ((congrArg _ (congrArg Prod.snd reacts)).trans emission)
        rw [reacts] at current
        rw [Option.toList_some, List.getLast?_concat, Option.some_or]
        exact current

end Follows

/-- One action of a gateway that watches its file, or of an operator. -/
theorem Follows.step
    {watcher : Watcher} {emitted : List GatewaySettings} {action : Action}
    (follows : Follows first begun watcher emitted upkeep)
    (step : upkeep.step? path action = some next) :
    ∃ later further, Follows first begun later further next := by
  cases action with
  | write file =>
      obtain rfl := Option.some.inj step
      exact ⟨watcher, emitted, follows.write file⟩
  | load number =>
      rw [step?, follows.stage] at step
      cases step
  | watch =>
      rw [step?, follows.stage] at step
      cases step
  | heed notice number =>
      rw [step?, follows.stage] at step
      obtain rfl := Option.some.inj step
      exact ⟨_, _, follows.heed rfl⟩

theorem Follows.run
    {watcher : Watcher} {emitted : List GatewaySettings} {actions : List Action}
    (follows : Follows first begun watcher emitted upkeep)
    (run : upkeep.run? path actions = some next) :
    ∃ later further, Follows first begun later further next := by
  induction actions generalizing upkeep watcher emitted with
  | nil =>
      obtain rfl := Option.some.inj run
      exact ⟨watcher, emitted, follows⟩
  | cons action actions induction =>
      rw [run?, List.foldlM_cons, Option.bind_eq_bind, Option.bind_eq_some_iff] at run
      obtain ⟨middle, step, rest⟩ := run
      obtain ⟨later, further, follows⟩ := follows.step step
      exact induction follows rest

/-! ## From the start on -/

theorem run?_append (path : String) (upkeep : Upkeep) (before after : List Action) :
    upkeep.run? path (before ++ after) =
      (upkeep.run? path before).bind fun reached => reached.run? path after := by
  rw [run?, List.foldlM_append]
  rfl

theorem step?_load
    {file : File} {number : UInt32} {settings : GatewaySettings}
    (loads : Settings.load (ServiceSettings.generatedName number) file = .ok settings) :
    ({ file } : Upkeep).step? path (.load number) =
      some { file, stage := .loaded settings } := by
  rw [step?, loads]

/-- A notice about the text that a watcher was started with changes nothing. -/
theorem step?_heed_begun
    {file : File} {content : String} (text : file.text = .ok content) (isSettled : Bool) :
    ({ file, stage := .watching first (Watcher.start file) [], isSettled } : Upkeep).step? path
        (.heed (.change .modified [path]) 0) =
      some { file, stage := .watching first (Watcher.start file) [], isSettled := true } := by
  have concerned : (Notice.change .modified [path]).concerns path = true :=
    concerns_modified path
  have still :
      (Watcher.start file).heed path
          { notice := .change .modified [path], file, number := 0 } =
        (Watcher.start file, .nothing) :=
    heed_again concerned text (start_lastSeen_iff.mpr text)
  rw [step?]
  dsimp only
  rw [still, concerned, Bool.or_true]
  rfl

/-- A watcher that starts has just read the file. -/
theorem follows_watch (upkeep : Upkeep) (first : GatewaySettings) :
    Follows first (Watcher.start upkeep.file) (Watcher.start upkeep.file) []
      { upkeep with stage := .watching first (Watcher.start upkeep.file) [] } where
  stage := rfl
  seen _ _ text _ := start_lastSeen_iff.mpr text
  upToDate premise := premise.resolve_left (absurd rfl)

theorem upToDate_start_iff {file : File} :
    UpToDate (Watcher.start file) (some first) ↔
      ∀ content, file.text = .ok content → accepts content = true →
        Describes content first := by
  constructor
  · intro upToDate content text accepted
    obtain ⟨settings, same, describes⟩ :=
      upToDate content (start_lastSeen_iff.mpr text) accepted
    obtain rfl : first = settings := Option.some.inj same
    exact describes
  · intro described content seen accepted
    exact ⟨first, rfl, described content (start_lastSeen_iff.mp seen) accepted⟩

/--
Once a notice has been taken into account since the file was last written, the
settings in force are those of the file, whatever was written when, from the
first settings that are emitted on.  From the start of watching on they are if
and only if the loaded settings are those found in the file at that moment, or
nothing valid is found there.
-/
theorem converges_iff
    {path : String} {initial : File} {before : List Action} {opened : Upkeep}
    {first : GatewaySettings}
    (reached : ({ file := initial } : Upkeep).run? path before = some opened)
    (loaded : opened.stage = .loaded first) :
    (∀ after later watcher emitted,
      ({ file := initial } : Upkeep).run? path (before ++ .watch :: after) = some later →
        later.stage = .watching first watcher emitted → emitted ≠ [] →
          later.isSettled = true → later.IsCurrent) ∧
      ((∀ after later,
        ({ file := initial } : Upkeep).run? path (before ++ .watch :: after) = some later →
          later.isSettled = true → later.IsCurrent) ↔
        ∀ content, opened.file.text = .ok content → accepts content = true →
          Describes content first) := by
  let begun := Watcher.start opened.file
  let watched : Upkeep := { opened with stage := .watching first begun [] }
  have follows : Follows first begun begun [] watched := follows_watch opened first
  have resumes (after : List Action) :
      ({ file := initial } : Upkeep).run? path (before ++ .watch :: after) =
        watched.run? path after := by
    rw [run?_append, reached, Option.bind_some, run?, List.foldlM_cons, step?, loaded]
    rfl
  simp only [resumes]
  refine ⟨?_, ?_, ?_⟩
  · intro after later watcher emitted run stage emits settled
    obtain ⟨_, _, followed⟩ := follows.run run
    obtain ⟨-, rfl, rfl⟩ := Upkeep.Stage.watching.inj (followed.stage.symm.trans stage)
    exact followed.isCurrent settled (Or.inl emits)
  · intro current content text accepted
    -- The file as it stands is what the watcher has seen, so a notice about it changes nothing.
    have run :
        watched.run? path [.heed (.change .modified [path]) 0] =
          some { watched with isSettled := true } := by
      rw [run?, List.foldlM_cons, step?_heed_begun text]
      rfl
    obtain ⟨settings, same, describes⟩ := current _ _ run rfl content text accepted
    obtain rfl : first = settings := Option.some.inj same
    exact describes
  · intro described after later run settled
    obtain ⟨watcher, emitted, followed⟩ := follows.run run
    exact followed.isCurrent settled (Or.inr (upToDate_start_iff.mpr described))

/-- Nothing is written before the watcher starts: every later edit is followed. -/
theorem converges_iff_untouched :
    let first : GatewaySettings := { service := { name := ServiceSettings.generatedName 0 } }
    let upkeep : Upkeep := { file := .content [] }
    upkeep.run? "gateway.toml" [.load 0] = some { upkeep with stage := .loaded first } ∧
      ∀ after later,
        upkeep.run? "gateway.toml" ([.load 0] ++ .watch :: after) = some later →
          later.isSettled = true → later.IsCurrent := by
  intro first upkeep
  have parsed : parse (ServiceSettings.generatedName 0) "" = .ok first := by decide +kernel
  have loads : Settings.load (ServiceSettings.generatedName 0) upkeep.file = .ok first := parsed
  have reached :
      upkeep.run? "gateway.toml" [.load 0] = some { upkeep with stage := .loaded first } := by
    rw [run?, List.foldlM_cons, step?_load loads]
    rfl
  refine ⟨reached, (converges_iff reached rfl).2.mpr ?_⟩
  intro content text accepted
  obtain rfl : "" = content := Except.ok.inj text
  exact ⟨0, parsed⟩

/-- An edit between loading and watching: a notice about it changes nothing. -/
theorem overlooks_edit :
    let edit := "[sockjs]\nname = 'b'\nsuppress_cors = true\n"
    ∃ later,
      ({ file := .content [] } : Upkeep).run? "gateway.toml"
          [.load 0, .write (.content (Text.octets edit)), .watch,
            .heed (.change .modified ["gateway.toml"]) 0] = some later ∧
        later.isSettled = true ∧ ¬ later.IsCurrent := by
  intro edit
  let first : GatewaySettings := { service := { name := ServiceSettings.generatedName 0 } }
  let file : File := .content (Text.octets edit)
  have loads : Settings.load (ServiceSettings.generatedName 0) (.content []) = .ok first := by
    decide +kernel
  have text : file.text = .ok edit := by
    rw [File.text, Text.ofOctets?_octets]
    rfl
  refine ⟨{ file, stage := .watching first (Watcher.start file) [], isSettled := true },
    ?_, rfl, ?_⟩
  · rw [run?, List.foldlM_cons, step?_load loads]
    have heeds := @step?_heed_begun "gateway.toml" first file edit text false
    exact heeds
  · intro current
    have parsed :
        parse (ServiceSettings.generatedName 0) edit =
          .ok { service := { name := "b", suppressCors := true } } := by
      decide +kernel
    obtain ⟨settings, same, describes⟩ :=
      current edit text ((accepts_iff _).mpr ⟨_, parsed⟩)
    obtain rfl : first = settings := Option.some.inj same
    have equal := describes.unnamed_eq ⟨0, parsed⟩
    have suppressed := congrArg (fun settings => settings.service.suppressCors) equal
    cases suppressed

end SessionGateway.Settings.Upkeep
