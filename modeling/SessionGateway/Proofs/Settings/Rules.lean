import Mathlib.Data.List.Nodup
import SessionGateway.Proofs.Http.PlainValue
import SessionGateway.Proofs.Settings.OriginEntry
import SessionGateway.Proofs.Text.White

/-!
# Rules for settings

What validation demands of settings, rule by rule, and what it reports.

`Rule.Holds` and `IsOrigin` say what each rule demands, without the checks that
decide it.  A `Place` is where a rule applies: a field, or an entry of the
allow-list at its position.  `problems_eq_broken` lists the reports by the
places that are broken, and `problems_of_repairs` says what is left of the list
once some of them are repaired.
-/

namespace SessionGateway.Settings

/-! ## What the rules demand -/

/-- The number that a field holds. -/
def PositiveField.value (settings : GatewaySettings) : PositiveField → UInt64
  | maxBodySize => settings.listener.maxBodySize
  | streamBytesLimit => settings.service.streamBytesLimit
  | heartbeatInterval => settings.service.heartbeatInterval
  | disconnectDelay => settings.service.disconnectDelay
  | messageCacheSize => settings.service.messageCacheSize

/-- A rule for a field that holds one value. -/
inductive Rule where
  | bindAddress
  | pathPrefix
  | clientLibraryUrl
  | positive (field : PositiveField)
  deriving DecidableEq, Repr

namespace Rule

/-- The rules in the order in which they are checked. -/
def all : List Rule :=
  [.bindAddress, .pathPrefix, .positive .maxBodySize, .clientLibraryUrl,
    .positive .streamBytesLimit, .positive .heartbeatInterval, .positive .disconnectDelay,
    .positive .messageCacheSize]

theorem count_all (rule : Rule) : all.count rule = 1 := by
  cases rule with
  | bindAddress | pathPrefix | clientLibraryUrl => decide
  | positive field => cases field <;> decide

def Holds (settings : GatewaySettings) : Rule → Prop
  | bindAddress => Net.SocketAddress.isLegal settings.listener.bindAddress.toList = true
  | pathPrefix =>
      settings.listener.pathPrefix.toList.head? = some '/' ∧
        2 ≤ (Text.octets settings.listener.pathPrefix).length ∧
          settings.listener.pathPrefix.toList.getLast? ≠ some '/'
  | clientLibraryUrl =>
      ∃ character ∈ settings.service.clientLibraryUrl.toList, Text.isWhite character = false
  | positive field => field.value settings ≠ 0

instance (settings : GatewaySettings) : DecidablePred (Holds settings)
  | bindAddress => inferInstanceAs (Decidable (_ = true))
  | pathPrefix => inferInstanceAs (Decidable (_ ∧ _ ∧ _))
  | clientLibraryUrl => inferInstanceAs (Decidable (∃ _ ∈ _, _))
  | positive _ => inferInstanceAs (Decidable (_ ≠ _))

/-- What is reported where a rule is broken. -/
def problem (settings : GatewaySettings) : Rule → Problem
  | bindAddress => .bindAddress settings.listener.bindAddress
  | pathPrefix => .pathPrefix settings.listener.pathPrefix
  | clientLibraryUrl => .emptyClientLibraryUrl
  | positive field => .notPositive field

/-- Two settings agree in the field that a rule is about. -/
def Same (settings other : GatewaySettings) : Rule → Prop
  | bindAddress => settings.listener.bindAddress = other.listener.bindAddress
  | pathPrefix => settings.listener.pathPrefix = other.listener.pathPrefix
  | clientLibraryUrl => settings.service.clientLibraryUrl = other.service.clientLibraryUrl
  | positive field => field.value settings = field.value other

variable {settings other : GatewaySettings} {rule : Rule}

/-- A rule looks at its own field only. -/
theorem Same.holds_iff (same : rule.Same settings other) :
    rule.Holds settings ↔ rule.Holds other := by
  cases rule with
  | bindAddress | pathPrefix | clientLibraryUrl | positive field =>
      simp only [Holds]
      rw [same]

theorem Same.problem_eq (same : rule.Same settings other) :
    rule.problem settings = rule.problem other := by
  cases rule with
  | bindAddress => exact congrArg Problem.bindAddress same
  | pathPrefix => exact congrArg Problem.pathPrefix same
  | clientLibraryUrl | positive field => rfl

end Rule

/-- An entry that stands for origins: `*`, or a web URL with a host. -/
def IsOrigin (entry : String) : Prop :=
  entry = "*" ∨
    ∃ url, ∃ scheme : WebScheme,
      Url.parse? entry.toList = some url ∧ url.scheme = scheme.text ∧ url.host.isSome = true

instance : DecidablePred IsOrigin :=
  fun _ => decidable_of_iff _ isOriginEntry_iff

/-! ## Places -/

/-- A place where a rule applies. -/
inductive Place where
  | field (rule : Rule)
  /-- An entry of the allow-list, at its position. -/
  | entry (text : String) (position : Nat)
  deriving DecidableEq, Repr

namespace Place

def Occurs (settings : GatewaySettings) : Place → Prop
  | field _ => True
  | entry text position => settings.service.allowedOrigins[position]? = some text

def Fine (settings : GatewaySettings) : Place → Prop
  | field rule => rule.Holds settings
  | entry text _ => IsOrigin text

instance (settings : GatewaySettings) : DecidablePred (Fine settings)
  | field rule => inferInstanceAs (Decidable (rule.Holds settings))
  | entry text _ => inferInstanceAs (Decidable (IsOrigin text))

/-- What is reported about a place that is broken. -/
def problem (settings : GatewaySettings) : Place → Problem
  | field rule => rule.problem settings
  | entry text _ => .allowedOrigin text

end Place

/-- The entry of an allow-list at a position. -/
def Place.ofEntry (entry : String × Nat) : Place :=
  .entry entry.1 entry.2

/-- All places, in the order in which they are checked. -/
def places (settings : GatewaySettings) : List Place :=
  Rule.all.map .field ++ settings.service.allowedOrigins.zipIdx.map .ofEntry

/-- The places that are not as they have to be. -/
def broken (settings : GatewaySettings) : List Place :=
  (places settings).filter fun place => ¬place.Fine settings

variable {settings repaired : GatewaySettings} {place : Place} {chosen : List Place}

theorem mem_places_iff : place ∈ places settings ↔ place.Occurs settings := by
  rw [places, List.mem_append, List.mem_map, List.mem_map]
  cases place with
  | field rule =>
      have listed : rule ∈ Rule.all := by
        rw [← List.count_pos_iff, Rule.count_all]
        exact Nat.one_pos
      exact iff_of_true (Or.inl ⟨rule, listed, rfl⟩) trivial
  | entry text position =>
      rw [Place.Occurs]
      constructor
      · rintro (⟨rule, -, same⟩ | ⟨entry, member, same⟩)
        · cases same
        · cases same
          exact List.mem_zipIdx_iff_getElem?.mp member
      · intro listed
        exact Or.inr ⟨(text, position), List.mem_zipIdx_iff_getElem?.mpr listed, rfl⟩

theorem nodup_places (settings : GatewaySettings) : (places settings).Nodup := by
  rw [places, List.nodup_append]
  refine ⟨by decide, ?_, ?_⟩
  · -- The positions are all different.
    apply List.Nodup.map
    · rintro ⟨text, position⟩ ⟨other, place⟩ same
      cases same
      rfl
    · apply List.Nodup.of_map Prod.snd
      rw [List.zipIdx_map_snd]
      exact List.nodup_range' 1
  · rintro place field other entry rfl
    obtain ⟨rule, -, rfl⟩ := List.mem_map.mp field
    obtain ⟨pair, -, same⟩ := List.mem_map.mp entry
    cases same

theorem mem_broken_iff :
    place ∈ broken settings ↔ place.Occurs settings ∧ ¬place.Fine settings := by
  rw [broken, List.mem_filter, mem_places_iff, decide_eq_true_eq]

/-! ## The reports -/

/-- Behind a slash, there is another octet if and only if there is another character. -/
theorem two_le_octets_iff {path : String} (slash : path.toList.head? = some '/') :
    2 ≤ (Text.octets path).length ↔ 2 ≤ path.toList.length := by
  have encoded : Text.octets path = path.toList.flatMap String.utf8EncodeChar := by
    rw [← Text.octets_ofList, String.ofList_toList]
  rw [encoded]
  cases characters : path.toList with
  | nil =>
      rw [characters] at slash
      cases slash
  | cons first rest =>
      rw [characters, List.head?_cons, Option.some_inj] at slash
      subst slash
      have one : (String.utf8EncodeChar '/').length = 1 := by decide
      rw [List.flatMap_cons, List.length_append, one, List.length_cons]
      cases rest with
      | nil => simp
      | cons second others =>
          have positive := Char.utf8Size_pos second
          rw [List.flatMap_cons, List.length_append, String.length_utf8EncodeChar,
            List.length_cons]
          omega

theorem isMountPrefix_iff {path : String} :
    isMountPrefix path = true ↔
      path.toList.head? = some '/' ∧ 2 ≤ (Text.octets path).length ∧
        path.toList.getLast? ≠ some '/' := by
  simp only [isMountPrefix, Bool.and_eq_true, beq_iff_eq, decide_eq_true_eq, bne_iff_ne,
    and_assoc]
  apply and_congr_right
  intro slash
  rw [two_le_octets_iff slash]

theorem map_filter_eq_flatMap_report
    {α : Type} (due : α → Bool) (problem : α → Problem) (places : List α) :
    (places.filter due).map problem =
      places.flatMap fun place => report (due place) (problem place) := by
  induction places with
  | nil => rfl
  | cons place rest induction =>
      rw [List.filter_cons, List.flatMap_cons, ← induction, report]
      cases due place <;> rfl

/-- What is reported about the field of a rule. -/
def Rule.reported (settings : GatewaySettings) : Rule → List Problem
  | bindAddress =>
      report (!Net.SocketAddress.isLegal settings.listener.bindAddress.toList)
        (.bindAddress settings.listener.bindAddress)
  | pathPrefix =>
      report (!isMountPrefix settings.listener.pathPrefix)
        (.pathPrefix settings.listener.pathPrefix)
  | clientLibraryUrl =>
      report (Text.isBlank settings.service.clientLibraryUrl.toList) .emptyClientLibraryUrl
  | positive field => report (field.value settings == 0) (.notPositive field)

theorem report_of_iff
    {due : Bool} {statement : Prop} [Decidable statement] (same : due = true ↔ statement)
    (problem : Problem) :
    report due problem = report (decide statement) problem := by
  rw [show due = decide statement from Bool.eq_iff_iff.mpr (by rw [same, decide_eq_true_eq])]

theorem Rule.reported_eq (settings : GatewaySettings) (rule : Rule) :
    rule.reported settings = report (¬rule.Holds settings) (rule.problem settings) := by
  cases rule with
  | bindAddress =>
      apply report_of_iff
      rw [Bool.not_eq_true', ← Bool.not_eq_true]
      exact Iff.rfl
  | pathPrefix =>
      apply report_of_iff
      rw [Bool.not_eq_true', ← Bool.not_eq_true, isMountPrefix_iff]
      exact Iff.rfl
  | clientLibraryUrl =>
      apply report_of_iff
      rw [Text.isBlank_iff]
      simp [Holds]
  | positive field =>
      apply report_of_iff
      rw [beq_iff_eq]
      exact not_not.symm

/-- Every rule reports on its own field, every entry on itself. -/
theorem problems_eq_flatMap (settings : GatewaySettings) :
    problems settings =
      (Rule.all.flatMap fun rule => report (¬rule.Holds settings) (rule.problem settings)) ++
        settings.service.allowedOrigins.flatMap fun entry =>
          report (¬IsOrigin entry) (.allowedOrigin entry) := by
  have fields :
      listenerProblems settings.listener ++ serviceProblems settings.service =
        Rule.all.flatMap (Rule.reported settings) ++
          (settings.service.allowedOrigins.filter fun entry => !isOriginEntry entry).map
            .allowedOrigin := by
    simp only [listenerProblems, serviceProblems, Rule.all, Rule.reported,
      PositiveField.value, List.flatMap_cons, List.flatMap_nil, List.append_assoc,
      List.nil_append]
  rw [problems, fields, map_filter_eq_flatMap_report]
  congr 1
  · exact List.flatMap_congr fun rule _ => rule.reported_eq settings
  · apply List.flatMap_congr
    intro entry _
    apply report_of_iff
    rw [Bool.not_eq_true', ← Bool.not_eq_true, isOriginEntry_iff]
    exact Iff.rfl

/-! ## Repairs -/

/--
A list of entries, each at its position, and what is left of it when the chosen
ones are replaced by entries that stand for origins, or removed.
-/
inductive Mends (chosen : List Place) : List (String × Nat) → List String → Prop
  | nil : Mends chosen [] []
  | kept {text : String} {position : Nat} {entries : List (String × Nat)} {left : List String}
      (unchosen : .entry text position ∉ chosen) (rest : Mends chosen entries left) :
      Mends chosen ((text, position) :: entries) (text :: left)
  | replaced {text other : String} {position : Nat} {entries : List (String × Nat)}
      {left : List String}
      (listed : .entry text position ∈ chosen) (valid : IsOrigin other)
      (rest : Mends chosen entries left) :
      Mends chosen ((text, position) :: entries) (other :: left)
  | removed {text : String} {position : Nat} {entries : List (String × Nat)}
      {left : List String}
      (listed : .entry text position ∈ chosen) (rest : Mends chosen entries left) :
      Mends chosen ((text, position) :: entries) left

/-- The chosen places are repaired, and no other place is touched. -/
structure Repairs (chosen : List Place) (settings repaired : GatewaySettings) : Prop where
  mended : ∀ rule, .field rule ∈ chosen → rule.Holds repaired
  kept : ∀ rule, .field rule ∉ chosen → rule.Same repaired settings
  entries : Mends chosen settings.service.allowedOrigins.zipIdx repaired.service.allowedOrigins

/-- What is left of a list of entries is reported as far as it was not repaired. -/
theorem Mends.reports
    {entries : List (String × Nat)} {left : List String} (mends : Mends chosen entries left) :
    (left.flatMap fun entry => report (¬IsOrigin entry) (.allowedOrigin entry)) =
      entries.flatMap fun entry =>
        report (.ofEntry entry ∉ chosen ∧ ¬IsOrigin entry.1) (.allowedOrigin entry.1) := by
  induction mends with
  | nil => rfl
  | kept unchosen rest induction =>
      rw [List.flatMap_cons, List.flatMap_cons, induction]
      simp [Place.ofEntry, unchosen]
  | replaced listed valid rest induction =>
      rw [List.flatMap_cons, List.flatMap_cons, induction]
      simp [Place.ofEntry, listed, valid, report]
  | removed listed rest induction =>
      rw [List.flatMap_cons, induction]
      simp [Place.ofEntry, listed, report]

/-- The reports on a repaired field, and on one that was not touched. -/
theorem Repairs.report_field (repairs : Repairs chosen settings repaired) (rule : Rule) :
    report (¬rule.Holds repaired) (rule.problem repaired) =
      report (.field rule ∉ chosen ∧ ¬rule.Holds settings) (rule.problem settings) := by
  by_cases listed : .field rule ∈ chosen
  · simp [listed, repairs.mended rule listed, report]
  · have same := repairs.kept rule listed
    simp [listed, same.holds_iff, same.problem_eq]

/-- Repairs take away the reports on the places repaired, and nothing else. -/
theorem problems_of_repairs (repairs : Repairs chosen settings repaired) :
    problems repaired =
      ((broken settings).filter fun place => place ∉ chosen).map (Place.problem settings) := by
  rw [problems_eq_flatMap, repairs.entries.reports, broken, places, List.filter_filter,
    List.filter_append, List.map_append, map_filter_eq_flatMap_report,
    map_filter_eq_flatMap_report, List.flatMap_map, List.flatMap_map]
  congr 1
  · apply List.flatMap_congr
    intro rule _
    rw [repairs.report_field, ← Bool.decide_and]
    rfl
  · apply List.flatMap_congr
    intro entry _
    rw [← Bool.decide_and]
    rfl

theorem Mends.refl (entries : List (String × Nat)) :
    Mends [] entries (entries.map Prod.fst) := by
  induction entries with
  | nil => exact .nil
  | cons entry rest induction => exact .kept List.not_mem_nil induction

theorem Repairs.refl (settings : GatewaySettings) : Repairs [] settings settings where
  mended _ listed := absurd listed List.not_mem_nil
  kept rule _ := by cases rule <;> exact rfl
  entries := by
    have kept := Mends.refl settings.service.allowedOrigins.zipIdx
    rw [List.zipIdx_map_fst] at kept
    exact kept

/-- There is one report for each place that is broken. -/
theorem problems_eq_broken (settings : GatewaySettings) :
    problems settings = (broken settings).map (Place.problem settings) := by
  have untouched := problems_of_repairs (Repairs.refl settings)
  simpa using untouched

theorem problems_eq_nil_iff :
    problems settings = [] ↔
      (∀ rule : Rule, rule.Holds settings) ∧
        ∀ entry ∈ settings.service.allowedOrigins, IsOrigin entry := by
  rw [problems_eq_broken, List.map_eq_nil_iff, List.eq_nil_iff_forall_not_mem]
  simp only [mem_broken_iff, not_and, not_not]
  constructor
  · intro fine
    refine ⟨fun rule => fine (.field rule) trivial, fun entry member => ?_⟩
    obtain ⟨position, listed⟩ := List.mem_iff_getElem?.mp member
    exact fine (.entry entry position) listed
  · rintro ⟨rules, entries⟩ (rule | ⟨entry, position⟩) occurs
    · exact rules rule
    · exact entries entry (List.mem_of_getElem? occurs)

/-- Valid settings stay valid when one field is changed and its rule still holds. -/
theorem problems_of_change
    {changed : GatewaySettings} (valid : problems settings = [])
    (rule : Rule) (holds : rule.Holds changed)
    (kept : ∀ other : Rule, other ≠ rule → other.Same changed settings)
    (entries : changed.service.allowedOrigins = settings.service.allowedOrigins) :
    problems changed = [] := by
  rw [problems_eq_nil_iff] at valid ⊢
  refine ⟨fun other => ?_, entries ▸ valid.2⟩
  by_cases same : other = rule
  · exact same ▸ holds
  · exact (kept other same).holds_iff.mpr (valid.1 other)

/-! ## Repairs that are always possible -/

/-- Settings with every field at its default. -/
def defaults : GatewaySettings :=
  { service := { name := "" } }

theorem holds_defaults (rule : Rule) : rule.Holds defaults := by
  cases rule with
  | bindAddress | pathPrefix => decide
  | clientLibraryUrl => exact ⟨'h', by decide, by decide⟩
  | positive field => cases field <;> decide

/-- Gives the chosen fields their defaults and takes the chosen entries off the list. -/
def mend (chosen : List Place) (settings : GatewaySettings) : GatewaySettings :=
  let source (rule : Rule) : GatewaySettings :=
    if .field rule ∈ chosen then defaults else settings
  { settings with
    listener :=
      { bindAddress := (source .bindAddress).listener.bindAddress
        pathPrefix := (source .pathPrefix).listener.pathPrefix
        maxBodySize := (source (.positive .maxBodySize)).listener.maxBodySize }
    service :=
      { settings.service with
        clientLibraryUrl := (source .clientLibraryUrl).service.clientLibraryUrl
        streamBytesLimit := (source (.positive .streamBytesLimit)).service.streamBytesLimit
        heartbeatInterval := (source (.positive .heartbeatInterval)).service.heartbeatInterval
        disconnectDelay := (source (.positive .disconnectDelay)).service.disconnectDelay
        messageCacheSize := (source (.positive .messageCacheSize)).service.messageCacheSize
        allowedOrigins :=
          (settings.service.allowedOrigins.zipIdx.filter fun entry =>
            .ofEntry entry ∉ chosen).map Prod.fst } }

theorem same_mend (chosen : List Place) (settings : GatewaySettings) (rule : Rule) :
    rule.Same (mend chosen settings) (if .field rule ∈ chosen then defaults else settings) := by
  cases rule with
  | bindAddress | pathPrefix | clientLibraryUrl => exact rfl
  | positive field => cases field <;> exact rfl

theorem Mends.filter (chosen : List Place) (entries : List (String × Nat)) :
    Mends chosen entries
      ((entries.filter fun entry => .ofEntry entry ∉ chosen).map Prod.fst) := by
  induction entries with
  | nil => exact .nil
  | cons entry rest induction =>
      rw [List.filter_cons]
      split
      · next unchosen => exact .kept (of_decide_eq_true unchosen) induction
      · next listed =>
          rw [decide_eq_true_eq, not_not] at listed
          exact .removed listed induction

theorem repairs_mend (chosen : List Place) (settings : GatewaySettings) :
    Repairs chosen settings (mend chosen settings) where
  mended rule listed := by
    have same := same_mend chosen settings rule
    rw [if_pos listed] at same
    exact same.holds_iff.mpr (holds_defaults rule)
  kept rule unchosen := by
    have same := same_mend chosen settings rule
    rw [if_neg unchosen] at same
    exact same
  entries := .filter chosen _

/--
Validation reports every broken place, and nothing but broken places.

Settings pass if and only if every rule holds and every entry of the allow-list
stands for origins.  Otherwise there is one report for each place that is
broken, entries that occur more than once included, in the order of the places.
Whichever places are chosen, they can be repaired, and however that is done,
the reports on them go and the others stay as they are; so settings pass once
every broken place is repaired.
-/
theorem problems_report_broken (settings : GatewaySettings) :
    (problems settings = [] ↔
        (∀ rule : Rule, rule.Holds settings) ∧
          ∀ entry ∈ settings.service.allowedOrigins, IsOrigin entry) ∧
      problems settings = (broken settings).map (Place.problem settings) ∧
        (broken settings).Nodup ∧
          (∀ place, place ∈ broken settings ↔ place.Occurs settings ∧ ¬place.Fine settings) ∧
            ∀ chosen : List Place,
              (∃ repaired, Repairs chosen settings repaired) ∧
                ∀ repaired, Repairs chosen settings repaired →
                  problems repaired =
                      ((broken settings).filter fun place => place ∉ chosen).map
                        (Place.problem settings) ∧
                    (broken settings ⊆ chosen → problems repaired = []) := by
  refine ⟨problems_eq_nil_iff, problems_eq_broken settings, (nodup_places settings).filter _,
    fun _ => mem_broken_iff, fun chosen => ⟨⟨_, repairs_mend chosen settings⟩, ?_⟩⟩
  intro repaired repairs
  refine ⟨problems_of_repairs repairs, fun all => ?_⟩
  rw [problems_of_repairs repairs, List.map_eq_nil_iff, List.filter_eq_nil_iff]
  intro place member
  simp [all member]

/-- An entry that occurs twice is reported twice, behind the fields. -/
example :
    problems
        { listener := { pathPrefix := "/sockjs/" }
          service := { name := "gateway", allowedOrigins := ["ftp://a", "*", "ftp://a"] } } =
      [.pathPrefix "/sockjs/", .allowedOrigin "ftp://a", .allowedOrigin "ftp://a"] := by
  decide +kernel

end SessionGateway.Settings
