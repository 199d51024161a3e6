import Mathlib.Data.Option.Basic
import SessionGateway.Settings.Load

/-!
# Generated service names

A service that is given no name gets a generated one, so the same text can be
read as different settings.  The name is all that differs: whether a text is
accepted, and everything else it says, does not depend on the name at hand
(`parse_unnamed`).

`Settings.Describes` relates a text to its settings, whichever name was
generated for them.
-/

namespace SessionGateway

def ServiceSettings.unnamed (settings : ServiceSettings) : ServiceSettings :=
  { settings with name := "" }

/-- Settings without the name of their service. -/
def GatewaySettings.unnamed (settings : GatewaySettings) : GatewaySettings :=
  { settings with service := settings.service.unnamed }

namespace Document

/-- Two continuations with the same view give the same view of what is bound to them. -/
theorem map_bind_congr
    {α β γ : Type} {view : β → γ} {left right : α → Option β}
    (same : ∀ value, (left value).map view = (right value).map view) (value? : Option α) :
    (value? >>= left).map view = (value? >>= right).map view := by
  cases value? with
  | none => rfl
  | some value => exact same value

variable (reading : Reading) (name other : String) (document : Document)

theorem service?_unnamed :
    (service? reading name document).map ServiceSettings.unnamed =
      (service? reading other document).map ServiceSettings.unnamed := by
  unfold service?
  apply map_bind_congr
  intro fields
  dsimp only
  cases given : fields.find? 0 "name" with
  | none =>
      have absent (name : String) : fields.get? 0 "name" text? name = some name := by
        rw [Fields.get?, given]
      rw [absent name, absent other, Option.bind_eq_bind, Option.bind_eq_bind, Option.bind_some,
        Option.bind_some]
      -- The nine other fields are read alike, whatever the first one is.
      iterate 9 refine map_bind_congr (fun _ => ?_) _
      rfl
  | some value =>
      have present (name : String) : fields.get? 0 "name" text? name = value.text? := by
        rw [Fields.get?, given]
      rw [present name, present other]

/-- The service of a gateway, without its name. -/
theorem serviceField_unnamed (fields : Fields) :
    (fields.get? 1 "sockjs" (service? reading name) { name }).map ServiceSettings.unnamed =
      (fields.get? 1 "sockjs" (service? reading other) { name := other }).map
        ServiceSettings.unnamed := by
  unfold Fields.get?
  cases fields.find? 1 "sockjs" with
  | none => rfl
  | some value => exact service?_unnamed reading name other value

theorem gateway?_unnamed :
    (gateway? reading name document).map GatewaySettings.unnamed =
      (gateway? reading other document).map GatewaySettings.unnamed := by
  unfold gateway?
  apply map_bind_congr
  intro fields
  apply map_bind_congr
  intro listener
  -- What becomes of the service here does not look at its name.
  let complete (service : ServiceSettings) : Option GatewaySettings :=
    (fields.get? 2 "observability" (observability? reading) {}).bind fun observability =>
      some { listener, service, observability }
  have bound :=
    congrArg (Option.bind · complete) (serviceField_unnamed reading name other fields)
  simp only [Option.bind_map] at bound
  simp only [Option.bind_eq_bind, Option.map_bind, Function.comp_def]
  exact bound

end Document

namespace Settings

/-! ## Reading a text -/

variable {name other content : String}

theorem problems_unnamed (settings : GatewaySettings) :
    problems settings.unnamed = problems settings :=
  rfl

/-- The name that stands in for a missing one decides nothing but that name. -/
theorem parse_unnamed (name other content : String) :
    (parse name content).map GatewaySettings.unnamed =
      (parse other content).map GatewaySettings.unnamed := by
  unfold parse
  cases Toml.parse? content with
  | none => rfl
  | some document =>
      have same := Document.gateway?_unnamed .lenient name other document
      simp only [Option.bind_some]
      generalize Document.gateway? .lenient name document = left at same ⊢
      generalize Document.gateway? .lenient other document = right at same ⊢
      cases left with
      | none =>
          rw [Option.map_none, eq_comm, Option.map_eq_none_iff] at same
          rw [same]
      | some settings =>
          obtain ⟨others, rfl, equal⟩ := Option.map_eq_some_iff.mp same.symm
          have found : problems others = problems settings := by
            rw [← problems_unnamed others, equal, problems_unnamed]
          simp only [found]
          split
          · exact congrArg Except.ok equal.symm
          · rfl

/-- Whether a text holds valid settings. -/
def accepts (content : String) : Bool :=
  (parse "" content).toBool

/-- The settings of a text, with some generated name for a service that it gives none. -/
def Describes (content : String) (settings : GatewaySettings) : Prop :=
  ∃ number, parse (ServiceSettings.generatedName number) content = .ok settings

theorem accepts_iff (name : String) :
    accepts content = true ↔ ∃ settings, parse name content = .ok settings := by
  have same := parse_unnamed "" name content
  unfold accepts
  generalize parse "" content = unnamed at same ⊢
  generalize parse name content = named at same ⊢
  cases unnamed with
  | error fault =>
      cases named with
      | error other => simp [Except.toBool]
      | ok settings => cases same
  | ok settings =>
      cases named with
      | error fault => cases same
      | ok other => simp [Except.toBool]

theorem not_accepts
    {fault : Fault} (refused : parse name content = .error fault) :
    accepts content = false := by
  rw [Bool.eq_false_iff, Ne, accepts_iff, refused]
  rintro ⟨settings, parsed⟩
  cases parsed

theorem Describes.accepts
    {settings : GatewaySettings} (describes : Describes content settings) :
    accepts content = true := by
  obtain ⟨number, parsed⟩ := describes
  exact (accepts_iff _).mpr ⟨settings, parsed⟩

/-- The settings of one text differ in a generated name only. -/
theorem Describes.unnamed_eq
    {left right : GatewaySettings}
    (describesLeft : Describes content left) (describesRight : Describes content right) :
    left.unnamed = right.unnamed := by
  obtain ⟨number, parsedLeft⟩ := describesLeft
  obtain ⟨other, parsedRight⟩ := describesRight
  have same :=
    parse_unnamed (ServiceSettings.generatedName number) (ServiceSettings.generatedName other)
      content
  rw [parsedLeft, parsedRight] at same
  exact Except.ok.inj same

end Settings

end SessionGateway
