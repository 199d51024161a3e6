import Mathlib.Data.List.Destutter
import SessionGateway.Proofs.Settings.GeneratedName
import SessionGateway.Settings.Notice

/-!
# What a watcher emits

A watcher emits the settings of every valid text that it finds, unless the
text is the one it accepted last.

`Sighting.version?` is the valid text a notice leads to, and `newVersions` the
texts of a list that differ from the one in front of them.  `heed_cases` is all
that one notice can do.  From it come what any number of notices emit
(`follow_emits`) and that the settings emitted last are never behind
(`UpToDate.follow`).
-/

namespace SessionGateway.Settings

/-! ## New versions -/

/-- The valid text that a watcher finds at a notice about its file. -/
def Sighting.version? (path : String) (sighting : Sighting) : Option String :=
  if sighting.notice.concerns path then sighting.file.text.toOption.filter accepts else none

/-- The valid texts found, in order. -/
def versions (path : String) (sightings : List Sighting) : List String :=
  sightings.filterMap (Sighting.version? path)

theorem accepts_of_version?
    {path : String} {sighting : Sighting} {content : String}
    (found : sighting.version? path = some content) :
    accepts content = true := by
  unfold Sighting.version? at found
  split at found
  · exact (Option.filter_eq_some_iff.mp found).2
  · cases found

/-- The texts that differ from the one in front of them, the first from the one seen before. -/
def newVersions : Option String → List String → List String
  | none, contents => contents.destutter (· ≠ ·)
  | some content, contents => (contents.destutter' (· ≠ ·) content).tail

theorem cons_tail_destutter' (content : String) (contents : List String) :
    content :: (contents.destutter' (· ≠ ·) content).tail =
      contents.destutter' (· ≠ ·) content := by
  induction contents with
  | nil => rfl
  | cons first rest induction =>
      by_cases same : content = first
      · rw [List.destutter'_cons_neg _ (not_not.mpr same)]
        exact induction
      · rw [List.destutter'_cons_pos _ same, List.tail_cons]

@[simp]
theorem newVersions_nil (seen : Option String) : newVersions seen [] = [] := by
  cases seen <;> rfl

theorem newVersions_cons_seen (content : String) (rest : List String) :
    newVersions (some content) (content :: rest) = newVersions (some content) rest := by
  rw [newVersions, List.destutter'_cons_neg _ (not_not.mpr rfl), newVersions]

theorem newVersions_cons_new
    {seen : Option String} {content : String} (new : seen ≠ some content)
    (rest : List String) :
    newVersions seen (content :: rest) = content :: newVersions (some content) rest := by
  cases seen with
  | none => rw [newVersions, List.destutter_cons', newVersions, cons_tail_destutter']
  | some former =>
      have different : former ≠ content := fun same => new (congrArg some same)
      rw [newVersions, List.destutter'_cons_pos _ different, List.tail_cons, newVersions,
        cons_tail_destutter']

/-- No two texts that follow each other are equal. -/
theorem isChain_newVersions (seen : Option String) (contents : List String) :
    (seen.toList ++ newVersions seen contents).IsChain (· ≠ ·) := by
  cases seen with
  | none => exact List.isChain_destutter (· ≠ ·) contents
  | some content =>
      rw [Option.toList_some, List.singleton_append, newVersions, cons_tail_destutter']
      exact List.isChain_destutter' (· ≠ ·) contents content

example : newVersions (some "a") ["a", "b", "b", "a"] = ["b", "a"] := by
  decide

/-! ## One notice -/

variable {path : String} {watcher : Watcher} {sighting : Sighting}

/-- That the file itself was modified concerns it. -/
theorem concerns_modified (path : String) :
    (Notice.change .modified [path]).concerns path = true := by
  simp [Notice.concerns]

/-- What one notice can do. -/
theorem heed_cases (path : String) (watcher : Watcher) (sighting : Sighting) :
    (sighting.version? path = none ∧
        (watcher.heed path sighting).1 = watcher ∧
          (watcher.heed path sighting).2.emission? = none) ∨
      (∃ content, sighting.version? path = some content ∧
        watcher.lastSeen = some content ∧
          watcher.heed path sighting = (watcher, .nothing)) ∨
        ∃ content settings, sighting.version? path = some content ∧
          watcher.lastSeen ≠ some content ∧ Describes content settings ∧
            watcher.heed path sighting =
              ({ lastSeen := some content }, .emitted settings) := by
  unfold Sighting.version? Watcher.heed
  split
  · simp only [Watcher.observe, Watcher.reload]
    cases sighting.file.text with
    | error fault => exact Or.inl ⟨rfl, rfl, rfl⟩
    | ok content =>
        simp only [Except.toOption, Option.filter]
        cases parsed : parse (ServiceSettings.generatedName sighting.number) content with
        | error fault =>
            rw [not_accepts parsed]
            refine Or.inl ⟨rfl, ?_⟩
            dsimp only
            split <;> exact ⟨rfl, rfl⟩
        | ok settings =>
            rw [(accepts_iff _).mpr ⟨settings, parsed⟩, if_pos rfl]
            by_cases seen : watcher.lastSeen = some content
            · rw [if_pos seen]
              exact Or.inr (Or.inl ⟨content, rfl, seen, rfl⟩)
            · rw [if_neg seen]
              exact Or.inr (Or.inr ⟨content, settings, rfl, seen, ⟨_, parsed⟩, rfl⟩)
  · exact Or.inl ⟨rfl, rfl, rfl⟩

/-- A notice about other files, or about none, does nothing. -/
theorem heed_unconcerned (unconcerned : sighting.notice.concerns path = false) :
    watcher.heed path sighting = (watcher, .nothing) := by
  rw [Watcher.heed, unconcerned]
  rfl

/-- A text that was seen last does nothing. -/
theorem heed_again
    {content : String} (concerned : sighting.notice.concerns path = true)
    (text : sighting.file.text = .ok content) (seen : watcher.lastSeen = some content) :
    watcher.heed path sighting = (watcher, .nothing) := by
  rw [Watcher.heed, if_pos concerned, Watcher.observe, Watcher.reload, text]
  exact if_pos seen

/-- A valid text that was found is remembered. -/
theorem heed_lastSeen (path : String) (watcher : Watcher) (sighting : Sighting) :
    (watcher.heed path sighting).1.lastSeen.filter accepts =
      (sighting.version? path).or (watcher.lastSeen.filter accepts) := by
  rcases heed_cases path watcher sighting with
    ⟨absent, kept, silent⟩ | ⟨content, found, seen, reaction⟩ |
      ⟨content, settings, found, new, describes, reaction⟩
  · rw [absent, kept, Option.none_or]
  · rw [found, reaction, seen, Option.some_or, Option.filter_some,
      if_pos (accepts_of_version? found)]
  · rw [found, reaction, Option.some_or, Option.filter_some, if_pos describes.accepts]

/-- What a valid file says is remembered once a notice about it has been taken into account. -/
theorem heed_seen
    {content : String} (concerned : sighting.notice.concerns path = true)
    (text : sighting.file.text = .ok content) (accepted : accepts content = true) :
    (watcher.heed path sighting).1.lastSeen = some content := by
  have found : sighting.version? path = some content := by
    rw [Sighting.version?, if_pos concerned, text, Except.toOption, Option.filter_some,
      if_pos accepted]
  have remembered := heed_lastSeen path watcher sighting
  rw [found, Option.some_or] at remembered
  exact (Option.filter_eq_some_iff.mp remembered).1

/-! ## Any number of notices -/

theorem getLast?_toList {α : Type} (value? : Option α) : value?.toList.getLast? = value? := by
  cases value? <;> rfl

theorem follow_cons (sighting : Sighting) (later : List Sighting) :
    watcher.follow path (sighting :: later) =
      (((watcher.heed path sighting).1.follow path later).1,
        (watcher.heed path sighting).2.emission?.toList ++
          ((watcher.heed path sighting).1.follow path later).2) :=
  rfl

theorem versions_cons (sighting : Sighting) (later : List Sighting) :
    versions path (sighting :: later) =
      (sighting.version? path).toList ++ versions path later := by
  rw [versions, List.filterMap_eq_flatMap_toList, List.flatMap_cons,
    ← List.filterMap_eq_flatMap_toList, versions]

/-- Exactly the new versions are emitted, and the last of them is remembered. -/
theorem follow_emits (path : String) (watcher : Watcher) (sightings : List Sighting) :
    List.Forall₂ Describes (newVersions watcher.lastSeen (versions path sightings))
        (watcher.follow path sightings).2 ∧
      (watcher.follow path sightings).1.lastSeen =
        (newVersions watcher.lastSeen (versions path sightings)).getLast?.or
          watcher.lastSeen := by
  induction sightings generalizing watcher with
  | nil =>
      rw [versions, List.filterMap_nil, newVersions_nil]
      exact ⟨.nil, rfl⟩
  | cons sighting later induction =>
      rw [versions_cons, follow_cons]
      rcases heed_cases path watcher sighting with
        ⟨absent, kept, silent⟩ | ⟨content, found, seen, reaction⟩ |
          ⟨content, settings, found, new, describes, reaction⟩
      · rw [absent, kept, silent]
        exact induction watcher
      · rw [found, reaction, seen, Option.toList_some, List.singleton_append,
          newVersions_cons_seen]
        rw [← seen]
        exact induction watcher
      · obtain ⟨emitted, remembered⟩ := induction { lastSeen := some content }
        rw [found, reaction, Option.toList_some, List.singleton_append,
          newVersions_cons_new new]
        refine ⟨emitted.cons describes, ?_⟩
        rw [remembered, List.getLast?_cons]
        cases (newVersions (some content) (versions path later)).getLast? <;> rfl

/-- The valid text found last is the one remembered. -/
theorem follow_lastSeen (path : String) (watcher : Watcher) (sightings : List Sighting) :
    (watcher.follow path sightings).1.lastSeen.filter accepts =
      (versions path sightings).getLast?.or (watcher.lastSeen.filter accepts) := by
  induction sightings generalizing watcher with
  | nil => rfl
  | cons sighting later induction =>
      rw [versions_cons, follow_cons, List.getLast?_append, induction, heed_lastSeen,
        Option.or_assoc, getLast?_toList]

/-! ## The settings in force -/

/-- The settings in force are those of the text accepted last, if that text is valid. -/
def UpToDate (watcher : Watcher) (inForce? : Option GatewaySettings) : Prop :=
  ∀ content, watcher.lastSeen = some content → accepts content = true →
    ∃ settings ∈ inForce?, Describes content settings

theorem start_lastSeen_iff {file : File} {content : String} :
    (Watcher.start file).lastSeen = some content ↔ file.text = .ok content := by
  unfold Watcher.start
  cases file.text with
  | error fault => exact iff_of_false nofun nofun
  | ok text =>
      rw [Except.ok.injEq]
      exact Option.some_inj

theorem upToDate_start (initial : File) (number : UInt32) :
    UpToDate (Watcher.start initial)
      (load (ServiceSettings.generatedName number) initial).toOption := by
  intro content seen accepted
  obtain ⟨settings, parsed⟩ := (accepts_iff (ServiceSettings.generatedName number)).mp accepted
  refine ⟨settings, ?_, number, parsed⟩
  unfold load
  rw [start_lastSeen_iff.mp seen]
  exact congrArg Except.toOption parsed

theorem heed_of_silent (silent : (watcher.heed path sighting).2.emission? = none) :
    (watcher.heed path sighting).1 = watcher := by
  rcases heed_cases path watcher sighting with
    ⟨-, kept, -⟩ | ⟨-, -, -, reaction⟩ | ⟨content, settings, -, -, -, reaction⟩
  · exact kept
  · rw [reaction]
  · rw [reaction] at silent
    cases silent

/-- Settings that are emitted are those of the text remembered. -/
theorem upToDate_of_emission
    {settings : GatewaySettings}
    (emits : (watcher.heed path sighting).2.emission? = some settings) :
    UpToDate (watcher.heed path sighting).1 (some settings) := by
  rcases heed_cases path watcher sighting with
    ⟨-, -, silent⟩ | ⟨-, -, -, reaction⟩ | ⟨content, emitted, -, -, describes, reaction⟩
  · cases silent.symm.trans emits
  · rw [reaction] at emits
    cases emits
  · rw [reaction] at emits ⊢
    intro other seen accepted
    obtain rfl : content = other := Option.some.inj seen
    obtain rfl : emitted = settings := Option.some.inj emits
    exact ⟨emitted, rfl, describes⟩

theorem UpToDate.heed
    {inForce? : Option GatewaySettings} (upToDate : UpToDate watcher inForce?) :
    UpToDate (watcher.heed path sighting).1
      ((watcher.heed path sighting).2.emission?.or inForce?) := by
  cases emission : (watcher.heed path sighting).2.emission? with
  | none =>
      rw [heed_of_silent emission]
      exact upToDate
  | some settings => exact upToDate_of_emission emission

theorem UpToDate.follow
    {inForce? : Option GatewaySettings} (upToDate : UpToDate watcher inForce?)
    (sightings : List Sighting) :
    UpToDate (watcher.follow path sightings).1
      ((watcher.follow path sightings).2.getLast?.or inForce?) := by
  induction sightings generalizing watcher inForce? with
  | nil => exact upToDate
  | cons sighting later induction =>
      rw [follow_cons, List.getLast?_append, Option.or_assoc, getLast?_toList]
      exact induction upToDate.heed

/--
A watcher emits exactly the new valid versions of its file, and whatever is
found in between, the settings emitted last are those of the valid text found
last.
-/
theorem emits_new_versions
    (path : String) (initial : File) (number : UInt32) (sightings : List Sighting) :
    let seen := initial.text.toOption
    let found := versions path sightings
    let (watcher, emitted) := (Watcher.start initial).follow path sightings
    List.Forall₂ Describes (newVersions seen found) emitted ∧
      (seen.toList ++ newVersions seen found).IsChain (· ≠ ·) ∧
        watcher.lastSeen = (newVersions seen found).getLast?.or seen ∧
          (∀ sighting, sighting.version? path = none →
            (watcher.heed path sighting).1 = watcher ∧
              (watcher.heed path sighting).2.emission? = none) ∧
            ∀ content ∈ found.getLast?.or (seen.filter accepts),
              ∃ settings ∈
                  emitted.getLast?.or
                    (load (ServiceSettings.generatedName number) initial).toOption,
                Describes content settings := by
  obtain ⟨emitted, remembered⟩ := follow_emits path (Watcher.start initial) sightings
  refine ⟨emitted, isChain_newVersions _ _, remembered, ?_, ?_⟩
  · intro sighting absent
    rcases heed_cases path ((Watcher.start initial).follow path sightings).1 sighting with
      ⟨-, kept, silent⟩ | ⟨content, found, -⟩ | ⟨content, settings, found, -⟩
    · exact ⟨kept, silent⟩
    · cases found.symm.trans absent
    · cases found.symm.trans absent
  · intro content last
    -- The valid text found last is the one the watcher remembers, and it keeps up with that one.
    have seen :
        content ∈ ((Watcher.start initial).follow path sightings).1.lastSeen.filter accepts := by
      rw [follow_lastSeen]
      exact last
    obtain ⟨current, accepted⟩ := Option.filter_eq_some_iff.mp seen
    exact (upToDate_start initial number).follow sightings content current accepted

end SessionGateway.Settings
